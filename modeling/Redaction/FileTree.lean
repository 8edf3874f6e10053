import Redaction.Text.Integer
import Redaction.Text.Quoted
import Redaction.Text.Utf8

/-!
# Files

A tree of directories and files as plain data, and the paths that lead through it.

* `FilePath`: a path, kept in its normal form: no empty parts and no `.`, but with its `..`.
* `FileTree`: what there is, by the names from the root.
* `FileTree.stat`, `FileTree.read`: what a path leads to, and the bytes of a file.
* `FileError`: why a path leads nowhere; `FileError.message` is its wording.
-/

namespace Redaction

/-- A path in normal form. A root is one slash, or two, or missing. -/
structure FilePath where
  root : String
  parts : List String
deriving Repr, DecidableEq

namespace FilePath

/-- The normal form of a written path. Exactly two leading slashes are kept apart from one. -/
def ofString (text : String) : FilePath :=
  let chars := text.toList
  let slashes := (chars.takeWhile (· = '/')).length
  let root := if slashes = 0 then "" else if slashes = 2 then "//" else "/"
  let parts := (chars.splitOn '/').map String.ofList
  ⟨root, parts.filter fun part => part ≠ "" ∧ part ≠ "."⟩

/-- The text of a path. -/
def toString (path : FilePath) : String :=
  if path.root = "" && path.parts.isEmpty then "."
  else path.root ++ String.intercalate "/" path.parts

/-- Whether some name holds a zero character, which no file name can. -/
def hasNul (path : FilePath) : Bool :=
  path.parts.any fun part => part.toList.contains '\x00'

end FilePath

/-- Why a path leads to no file that can be read. -/
inductive FileError
  | missing
  | notDirectory
  | isDirectory
  | nameTooLong
deriving Repr, DecidableEq

/-- The wording of an error on a path. -/
def FileError.message (error : FileError) (path : String) : String :=
  let (number, text) : Nat × String := match error with
    | missing => (2, "No such file or directory")
    | notDirectory => (20, "Not a directory")
    | isDirectory => (21, "Is a directory")
    | nameTooLong => (36, "File name too long")
  "[Errno " ++ Text.decimal number ++ "] " ++ text ++ ": " ++ Text.quoted path

/-- What a name stands for. A device can be read, but is no regular file. -/
inductive FileEntry
  | directory
  | file (bytes : List UInt8)
  | device (bytes : List UInt8)
deriving Repr, DecidableEq

/-- The entries of a file system by the names that lead to them from the root, and the names of the
working directory. -/
structure FileTree where
  entries : List (List String × FileEntry)
  working : List String
deriving Repr

namespace FileTree

/-- The entry at some names from the root. The root itself is a directory. -/
def entry? (tree : FileTree) (names : List String) : Option FileEntry :=
  if names.isEmpty then some .directory else tree.entries.lookup names

/-- Replaces or adds the entry at some names. -/
def set (tree : FileTree) (names : List String) (entry : FileEntry) : FileTree :=
  { tree with entries := (names, entry) :: tree.entries.filter fun (other, _) => other ≠ names }

/-- Removes the entry at some names. -/
def erase (tree : FileTree) (names : List String) : FileTree :=
  { tree with entries := tree.entries.filter fun (other, _) => other ≠ names }

/-- The longest name of an entry and the longest path, in bytes. -/
def maxName : Nat := 255

@[inherit_doc maxName]
def maxPath : Nat := 4095

/-- Follows parts of a path from a directory. -/
def walk (tree : FileTree) (names : List String) : List String → Except FileError FileEntry
  | [] => match tree.entry? names with
    | some entry => .ok entry
    | none => .error .missing
  | part :: rest =>
    match tree.entry? names with
    | none => .error .missing
    | some .directory =>
      if part = ".." then tree.walk names.dropLast rest
      else if maxName < part.utf8ByteSize then .error .nameTooLong
      else tree.walk (names ++ [part]) rest
    | some _ => .error .notDirectory

/-- What a path leads to. -/
def stat (tree : FileTree) (path : FilePath) : Except FileError FileEntry :=
  if maxPath < path.toString.utf8ByteSize then .error .nameTooLong
  else tree.walk (if path.root = "" then tree.working else []) path.parts

/-- The bytes that can be read at a path. -/
def read (tree : FileTree) (path : FilePath) : Except FileError (List UInt8) := do
  match ← tree.stat path with
  | .directory => throw .isDirectory
  | .file bytes => return bytes
  | .device bytes => return bytes

/-- Writes a text file below the working directory. -/
def write (tree : FileTree) (name text : String) : FileTree :=
  tree.set (tree.working ++ (FilePath.ofString name).parts) (.file (Text.Utf8.encode text))

/-- Removes a file below the working directory. -/
def delete (tree : FileTree) (name : String) : FileTree :=
  tree.erase (tree.working ++ (FilePath.ofString name).parts)

/-- The names that lead to a directory and the directories it lies in. -/
def ancestors (names : List String) : List (List String) :=
  (List.range names.length).map fun n => names.take (n + 1)

/-- Makes a directory below the working directory, with the directories it lies in. -/
def makeDirectory (tree : FileTree) (name : String) : FileTree :=
  (ancestors (tree.working ++ (FilePath.ofString name).parts)).foldl
    (fun tree names => tree.set names .directory) tree

end FileTree
end Redaction

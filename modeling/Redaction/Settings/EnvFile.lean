import Redaction.Fields
import Redaction.Text.Blank

/-!
# Environment files

A file of lines such as `NAME=value`, with comments, quotes and references to other variables. A line that
makes no sense is passed over.

* `EnvFile.bindings`: the names and values of a file, as they are written.
* `EnvFile.expand`: a value with the references to variables replaced.
* `EnvFile.read`: the variables of a file; a name without a value has none.
-/

namespace Redaction.EnvFile

/-- A name with its value, if it has one. -/
abbrev Variable := String × Option String

/-- White space that breaks no line. -/
def isInline (c : Char) : Bool :=
  Text.isBlank c.toNat && c ≠ '\n' && c ≠ '\r'

/-- White space. -/
def isSpace (c : Char) : Bool :=
  Text.isBlank c.toNat

/-- The text with every kind of line break written as a line feed. -/
def unifyBreaks : List Char → List Char
  | '\r' :: '\n' :: rest => '\n' :: unifyBreaks rest
  | '\r' :: rest => '\n' :: unifyBreaks rest
  | c :: rest => c :: unifyBreaks rest
  | [] => []

/-! ## Names -/

/-- Drops the word `export` before a name. -/
def dropExport (text : List Char) : List Char :=
  let word := "export".toList
  let after := text.drop word.length
  if word.isPrefixOf text && after.head?.any isInline then after.dropWhile isInline else text

/-- Reads a name, quoted or not. A line with a comment has none. -/
def readName : List Char → Option (Option String × List Char)
  | '#' :: rest => some (none, '#' :: rest)
  | '\'' :: rest =>
    match rest.takeWhile (· ≠ '\''), rest.dropWhile (· ≠ '\'') with
    | c :: name, _ :: rest => some (some (String.ofList (c :: name)), rest)
    | _, _ => none
  | text =>
    let isName := fun c => !(c = '=' || c = '#' || isSpace c)
    match text.takeWhile isName with
    | [] => none
    | name => some (some (String.ofList name), text.dropWhile isName)

/-! ## Values -/

/-- Reads up to the quote that ends a value. A quote after a backslash ends it only if no other one
does, and then the last of them. -/
def readQuoted (quote : Char) : List Char → Option (List Char × List Char)
  | [] => none
  | [c] => if c = quote then some ([], []) else none
  | c :: next :: rest =>
    if c = quote then some ([], next :: rest)
    else if c = '\\' && next = quote then
      match readQuoted quote rest with
      | some (inside, after) => some (c :: next :: inside, after)
      | none => some ([c], rest)
    else (readQuoted quote (next :: rest)).map fun (inside, after) => (c :: inside, after)

/-- What a backslash and a character mean in double quotes. -/
def doubleEscape? : Char → Option Char
  | '\\' => some '\\'
  | '\'' => some '\''
  | '"' => some '"'
  | 'a' => some '\x07'
  | 'b' => some '\x08'
  | 'f' => some '\x0c'
  | 'n' => some '\n'
  | 'r' => some '\r'
  | 't' => some '\t'
  | 'v' => some '\x0b'
  | _ => none

/-- What a backslash and a character mean in single quotes. -/
def singleEscape? : Char → Option Char
  | '\\' => some '\\'
  | '\'' => some '\''
  | _ => none

/-- Replaces escapes; other backslashes stay. -/
def unescape (escape? : Char → Option Char) : List Char → List Char
  | '\\' :: c :: rest =>
    match escape? c with
    | some meant => meant :: unescape escape? rest
    | none => '\\' :: unescape escape? (c :: rest)
  | c :: rest => c :: unescape escape? rest
  | [] => []

/-- Drops a comment, which starts after white space. -/
def cutComment : List Char → List Char
  | [] => []
  | c :: rest =>
    if isSpace c && (rest.dropWhile isSpace).head? = some '#' then [] else c :: cutComment rest

/-- Drops the white space at the end. -/
def trimEnd (text : List Char) : List Char :=
  (text.reverse.dropWhile isSpace).reverse

/-- Reads a value. -/
def readValue : List Char → Option (List Char × List Char)
  | '\'' :: rest => (readQuoted '\'' rest).map fun (inside, after) => (unescape singleEscape? inside, after)
  | '"' :: rest => (readQuoted '"' rest).map fun (inside, after) => (unescape doubleEscape? inside, after)
  | text => some (trimEnd (cutComment (text.takeWhile (· ≠ '\n'))), text.dropWhile (· ≠ '\n'))

/-! ## Lines -/

/-- What follows the line break. -/
def nextLine (text : List Char) : List Char :=
  (text.dropWhile (· ≠ '\n')).drop 1

/-- Reads the end of a line, which may hold a comment. -/
def readEnd (text : List Char) : Option (List Char) :=
  match text.dropWhile isInline with
  | [] => some []
  | '\n' :: rest => some rest
  | '#' :: rest => some (nextLine rest)
  | _ => none

/-- Reads a line that starts with something: what it binds, and the text after it. -/
def readLine (text : List Char) : Option Variable × List Char :=
  let text := dropExport text
  match readName text with
  | none => (none, nextLine text)
  | some (name, rest) =>
    let rest := rest.dropWhile isInline
    let found : Except (List Char) (Option String × List Char) := match rest with
      | '=' :: rest =>
        let rest := rest.dropWhile isInline
        match readValue rest with
        | some (value, rest) => .ok (some (String.ofList value), rest)
        | none => .error rest
      | rest => .ok (none, rest)
    match found with
    | .error rest => (none, nextLine rest)
    | .ok (value, rest) =>
      match readEnd rest with
      | none => (none, nextLine rest)
      | some after => (name.map fun name => (name, value), after)

/-- Reads lines. Each one takes a character at least, so the length of the text bounds their number. -/
def readLines : (lines : Nat) → List Char → List Variable
  | 0, _ => []
  | lines + 1, text =>
    match text.dropWhile isSpace with
    | [] => []
    | text =>
      let (found, rest) := readLine text
      found.toList ++ readLines lines rest

/-- The names and values of a file, as they are written. -/
def bindings (text : String) : List Variable :=
  let chars := unifyBreaks text.toList
  readLines chars.length chars

/-! ## References -/

/-- A reference to a variable, after the opening bracket: its name, the default if there is one, and what
follows it. -/
def readReference (text : List Char) : Option (String × Option String × List Char) :=
  let isName := fun c => !(c = '\x7d' || c = ':')
  let name := String.ofList (text.takeWhile isName)
  match text.dropWhile isName with
  | '\x7d' :: rest => some (name, none, rest)
  | ':' :: '-' :: rest =>
    match rest.dropWhile (· ≠ '\x7d') with
    | _ :: after => some (name, some (String.ofList (rest.takeWhile (· ≠ '\x7d'))), after)
    | [] => none
  | _ => none

/-- What a reference stands for. The default is for names that are not known at all. -/
def resolve (known : List Variable) (name : String) (fallback : Option String) : String :=
  match known.lookup name with
  | some value => value.getD ""
  | none => fallback.getD ""

/-- Replaces references; the length of the text bounds the rounds. -/
def expandFrom (known : List Variable) : (rounds : Nat) → List Char → List Char
  | 0, text => text
  | rounds + 1, '$' :: '\x7b' :: rest =>
    match readReference rest with
    | some (name, fallback, after) =>
      (resolve known name fallback).toList ++ expandFrom known rounds after
    | none => '$' :: expandFrom known rounds ('\x7b' :: rest)
  | rounds + 1, c :: rest => c :: expandFrom known rounds rest
  | _, [] => []

/-- A value with its references replaced. -/
def expand (known : List Variable) (value : String) : String :=
  let chars := value.toList
  String.ofList (expandFrom known chars.length chars)

/-- Adds a variable after those before it, to which its value may refer, and to those around it. -/
def addVariable (around : List Variable) (known : List Variable) : Variable → List Variable
  | (name, value) => Fields.put name (value.map (expand (known ++ around))) known

/-- The variables of a file. Values may refer to variables of the file that come earlier, and to those of
the environment. -/
def read (environment : List (String × String)) (text : String) : List Variable :=
  let around := environment.map fun (name, value) => (name, some value)
  (bindings text).foldl (addVariable around) []

end Redaction.EnvFile

import Redaction.FileTree
import Redaction.Proofs.Text.Joined
import Mathlib.Tactic.ByContra
import Mathlib.Tactic.Lemma

/-!
# Where paths lead

A path is followed part by part, and the first part that cannot be followed says what is wrong.  That order is
gone in this file.  A path leads to an entry if everything on the way is a directory and no name is too long, and
if it leads to nothing that can be read, something on it is to blame.

* `FileTree.reached` — the names that the first parts of a path lead to, whatever there is.
* `FileTree.LeadsTo` — a path leads to an entry; **`stat_eq_ok_iff`** says that `stat` finds just that.
* `FileTree.Lacks` — what can be wrong with a path.  **`lacks_iff`** — nothing is wrong exactly with the paths of
  which something can be read.
* `hasNul_ofString` — written paths hold a zero character if they are written with one.
-/

namespace Redaction
namespace FileTree

/-- The names that parts lead to from a directory, whatever there is. -/
def namesAfter (names parts : List String) : List String :=
  parts.foldl (fun names part => if part = ".." then names.dropLast else names ++ [part]) names

/-- The names that the first parts of a path lead to. -/
def reached (tree : FileTree) (path : FilePath) (before : List String) : List String :=
  namesAfter (if path.root = "" then tree.working else []) before

/-- A path leads to an entry: it is not too long, nor is a name, and all parts before the last one lead to
directories. -/
structure LeadsTo (tree : FileTree) (path : FilePath) (entry : FileEntry) : Prop where
  short : path.toString.utf8ByteSize ≤ maxPath
  names : ∀ part ∈ path.parts, part.utf8ByteSize ≤ maxName
  through : ∀ before, before <+: path.parts → before ≠ path.parts →
    tree.entry? (tree.reached path before) = some .directory
  found : tree.entry? (tree.reached path path.parts) = some entry

/-- Something can be read at a path: a file, or a device. -/
def Readable (tree : FileTree) (path : FilePath) : Prop :=
  path.hasNul = false ∧ ∃ bytes, tree.LeadsTo path (.file bytes) ∨ tree.LeadsTo path (.device bytes)

/-- What can be wrong with a path. -/
inductive Lacks (tree : FileTree) (path : FilePath) : Prop
  /-- No file can be named with a zero character. -/
  | unnameable (h : path.hasNul = true)
  | pathTooLong (h : maxPath < path.toString.utf8ByteSize)
  | nameTooLong {part : String} (hpart : part ∈ path.parts) (h : maxName < part.utf8ByteSize)
  /-- There is nothing at the end of the path, or on the way. -/
  | missing {before : List String} (hbefore : before <+: path.parts)
      (h : tree.entry? (tree.reached path before) = none)
  /-- The path leads on through something that is no directory. -/
  | notDirectory {before : List String} {entry : FileEntry} (hbefore : before <+: path.parts)
      (hmore : before ≠ path.parts) (h : tree.entry? (tree.reached path before) = some entry)
      (hentry : entry ≠ .directory)
  | directory (h : tree.entry? (tree.reached path path.parts) = some .directory)

variable {tree : FileTree} {path : FilePath} {entry : FileEntry}

/-! ## Following a path -/

/-- Everything before the end of a longer list of parts: the start, and what is before the end of the rest. -/
lemma forall_prefix_cons {part : String} {rest : List String} {holds : List String → Prop} :
    (∀ before, before <+: part :: rest → before ≠ part :: rest → holds before)
      ↔ holds [] ∧ ∀ before, before <+: rest → before ≠ rest → holds (part :: before) := by
  constructor
  · intro h
    refine ⟨h [] (List.nil_prefix) (by simp), fun before hbefore hne => ?_⟩
    exact h (part :: before) (List.prefix_cons_inj part |>.mpr hbefore) fun heq => hne (List.cons.inj heq).2
  · rintro ⟨hstart, hrest⟩ before hbefore hne
    rcases List.prefix_cons_iff.mp hbefore with rfl | ⟨more, rfl, hmore⟩
    · exact hstart
    · exact hrest more hmore fun heq => hne (heq ▸ rfl)

lemma walk_eq_ok_iff {names parts : List String} : tree.walk names parts = .ok entry ↔
    (∀ part ∈ parts, part.utf8ByteSize ≤ maxName)
      ∧ (∀ before, before <+: parts → before ≠ parts →
          tree.entry? (namesAfter names before) = some .directory)
      ∧ tree.entry? (namesAfter names parts) = some entry := by
  induction parts generalizing names with
  | nil =>
      rw [walk, namesAfter, List.foldl_nil]
      cases tree.entry? names <;> simp [List.prefix_nil]
  | cons part rest ih =>
      have hup : "..".utf8ByteSize ≤ maxName := by decide
      rw [walk, forall_prefix_cons, List.forall_mem_cons]
      rcases hentry : tree.entry? names with _ | (_ | bytes | bytes)
      · simp [namesAfter, hentry]
      · by_cases hpart : part = ".."
        · subst hpart
          simp only [if_true, ih, hup, true_and, namesAfter, List.foldl_nil, List.foldl_cons, hentry]
        · by_cases hlong : maxName < part.utf8ByteSize
          · simp [hpart, hlong, Nat.not_le.mpr hlong]
          · simp only [hpart, hlong, if_false, ih, Nat.not_lt.mp hlong, true_and, namesAfter, List.foldl_nil,
              List.foldl_cons, hentry]
      · simp [namesAfter, hentry]
      · simp [namesAfter, hentry]

/-- **What a path leads to** is what `stat` finds. -/
theorem stat_eq_ok_iff : tree.stat path = .ok entry ↔ tree.LeadsTo path entry := by
  rw [stat]
  by_cases hlong : maxPath < path.toString.utf8ByteSize
  · rw [if_pos hlong]
    exact ⟨fun h => absurd h (by simp), fun h => absurd h.short (Nat.not_le.mpr hlong)⟩
  · rw [if_neg hlong, walk_eq_ok_iff]
    exact ⟨fun ⟨hnames, hthrough, hfound⟩ => ⟨Nat.not_lt.mp hlong, hnames, hthrough, hfound⟩,
      fun h => ⟨h.names, h.through, h.found⟩⟩

/-! ## What is wrong with a path -/

/-- Something is in the way of every entry but the directory at the end. -/
lemma Lacks.not_leadsTo (h : tree.Lacks path) (hnul : path.hasNul = false) (hentry : entry ≠ .directory) :
    ¬ tree.LeadsTo path entry := by
  intro hleads
  cases h with
  | unnameable h => simp [hnul] at h
  | pathTooLong h => exact absurd hleads.short (Nat.not_le.mpr h)
  | nameTooLong hpart h => exact absurd (hleads.names _ hpart) (Nat.not_le.mpr h)
  | @missing before hbefore h =>
      by_cases hend : before = path.parts
      · rw [hend, hleads.found] at h
        cases h
      · rw [hleads.through before hbefore hend] at h
        cases h
  | notDirectory hbefore hmore h hother =>
      rw [hleads.through _ hbefore hmore] at h
      exact hother (Option.some.inj h).symm
  | directory h => exact hentry (Option.some.inj (hleads.found.symm.trans h))

/-- **Something is wrong with a path** exactly if nothing can be read there. -/
theorem lacks_iff : tree.Lacks path ↔ ¬ tree.Readable path := by
  constructor
  · rintro h ⟨hnul, bytes, hfile | hdevice⟩
    · exact h.not_leadsTo hnul (by simp) hfile
    · exact h.not_leadsTo hnul (by simp) hdevice
  · intro hunread
    by_contra hright
    have hshort : path.toString.utf8ByteSize ≤ maxPath := Nat.le_of_not_lt fun h => hright (.pathTooLong h)
    have hnames : ∀ part ∈ path.parts, part.utf8ByteSize ≤ maxName :=
      fun part hpart => Nat.le_of_not_lt fun h => hright (.nameTooLong hpart h)
    have hthrough : ∀ before, before <+: path.parts → before ≠ path.parts →
        tree.entry? (tree.reached path before) = some .directory := by
      intro before hbefore hmore
      cases hfound : tree.entry? (tree.reached path before) with
      | none => exact absurd (.missing hbefore hfound) hright
      | some entry =>
          by_contra hother
          exact hright (.notDirectory hbefore hmore hfound fun heq => hother (heq ▸ rfl))
    have hnul : path.hasNul = false := by
      by_contra hnul
      exact hright (.unnameable (by simpa using hnul))
    cases hfound : tree.entry? (tree.reached path path.parts) with
    | none => exact hright (.missing (List.prefix_refl _) hfound)
    | some entry =>
        have hleads : tree.LeadsTo path entry := ⟨hshort, hnames, hthrough, hfound⟩
        cases entry with
        | directory => exact hright (.directory hfound)
        | file bytes => exact hunread ⟨hnul, bytes, .inl hleads⟩
        | device bytes => exact hunread ⟨hnul, bytes, .inr hleads⟩

/-- What can be read is what is read. -/
lemma read_eq_ok_iff {bytes : List UInt8} : tree.read path = .ok bytes ↔
    tree.LeadsTo path (.file bytes) ∨ tree.LeadsTo path (.device bytes) := by
  rw [← stat_eq_ok_iff, ← stat_eq_ok_iff, read]
  rcases tree.stat path with error | (_ | content | content) <;> simp [bind, Except.bind, throw, throwThe,
    MonadExceptOf.throw, pure, Except.pure]

/-- Where something is wrong, there is an error to tell. -/
lemma Lacks.exists_error (h : tree.Lacks path) (hnul : path.hasNul = false) :
    ∃ error, tree.read path = .error error := by
  cases hread : tree.read path with
  | error error => exact ⟨error, rfl⟩
  | ok bytes => exact absurd ⟨hnul, bytes, read_eq_ok_iff.mp hread⟩ (lacks_iff.mp h)

end FileTree

/-! ## Zero characters -/

/-- Written paths hold a zero character if they are written with one. -/
lemma FilePath.hasNul_ofString (text : String) :
    (ofString text).hasNul = true ↔ '\x00' ∈ text.toList := by
  have hpieces : '\x00' ∈ text.toList ↔ ∃ piece ∈ text.toList.splitOn '/', '\x00' ∈ piece := by
    have hslash : '\x00' ≠ '/' := by decide
    rw [← Text.mem_intercalate hslash, List.intercalate_splitOn]
  rw [hpieces]
  constructor
  · intro h
    obtain ⟨part, hpart, hnul⟩ := List.any_eq_true.mp h
    obtain ⟨piece, hpiece, rfl⟩ := List.mem_map.mp (List.mem_filter.mp hpart).1
    exact ⟨piece, hpiece, by simpa using hnul⟩
  · rintro ⟨piece, hpiece, hnul⟩
    have hmem : '\x00' ∈ (String.ofList piece).toList := by
      rw [String.toList_ofList]
      exact hnul
    -- a piece that is dropped is empty or a dot, and holds no zero character
    have hkept : String.ofList piece ≠ "" ∧ String.ofList piece ≠ "." := by
      constructor
      · intro hempty
        rw [hempty] at hmem
        exact absurd hmem (by decide)
      · intro hdot
        rw [hdot] at hmem
        exact absurd hmem (by decide)
    refine List.any_eq_true.mpr ⟨String.ofList piece, ?_, List.contains_iff_mem.mpr hmem⟩
    exact List.mem_filter.mpr ⟨List.mem_map_of_mem hpiece, decide_eq_true hkept⟩

end Redaction

import Redaction.Proofs.Pattern.Reach

/-!
# The matches of a text

Replacement goes through a text from match to match.  Each search starts where the last match stopped, and
an empty match does not count where an empty one was just found; that is all that keeps the scan from
standing still.

* `Match.From` — what holds of a match that was looked for from a place on: it is in order, inside the
  text, and past the place if it was not allowed to be empty there.  It has a mark for each group of the
  pattern: **`marks_size_of_mem_matches`**.
* `Scans` — the scan as it would be without a bound on its rounds.  **`scans_matches`**: the bound is never
  reached, so the matches of a text are all there are.
* **`replaceAll_matched`** — the pieces outside the matches and the texts of the matches make up the text.
* **`spliceFrom_const`** — where each match is replaced by the same text, the pieces are all that matters.
-/

namespace Redaction.Pattern

variable {pattern : Pattern} {text : Array Char} {found : Match}

/-! ## One match -/

/-- What holds of a match that is looked for from a place on; with `nonempty` an empty one does not count at
that very place. -/
structure Match.From (pattern : Pattern) (text : Array Char) (start : Nat) (nonempty : Bool)
    (found : Match) : Prop where
  marks : found.marks.size = pattern.groupCount + 1
  start_le : start ≤ found.start
  ordered : found.start ≤ found.stop
  inside : found.stop ≤ text.size
  advances : nonempty = true → start < found.stop

/-- A match that was looked for from a later place. -/
lemma Match.From.earlier {start : Nat} {nonempty : Bool} (h : found.From pattern text (start + 1) false) :
    found.From pattern text start nonempty :=
  ⟨h.marks, Nat.le_of_succ_le h.start_le, h.ordered, h.inside,
    fun _ => Nat.lt_of_lt_of_le h.start_le h.ordered⟩

lemma from_of_matchAt {start : Nat} {nonempty : Bool} (hstart : start ≤ text.size)
    (h : pattern.matchAt text start nonempty = some found) : found.From pattern text start nonempty := by
  rw [matchAt, Option.map_eq_some_iff] at h
  obtain ⟨cursor, hrun, rfl⟩ := h
  obtain ⟨next, hnext, haccept⟩ := Node.run_leads text pattern.node hrun
  obtain ⟨hle, hinside⟩ := hnext.position hstart
  split at haccept
  · cases haccept
  · rename_i hempty
    obtain rfl := Option.some.inj haccept
    refine ⟨hnext.marks.trans Array.size_replicate, Nat.le_refl _, hle, hinside, fun hnonempty => ?_⟩
    have hne : next.position ≠ start := fun heq => hempty (by simp [hnonempty, heq])
    exact Nat.lt_of_le_of_ne hle hne.symm

lemma from_of_firstMatch {start more : Nat} (hstart : start + more ≤ text.size)
    (h : pattern.firstMatch text start more = some found) : found.From pattern text start false := by
  induction more generalizing start with
  | zero => exact from_of_matchAt hstart h
  | succ more ih =>
      rw [firstMatch] at h
      cases hhere : pattern.matchAt text start false with
      | some here =>
          rw [hhere] at h
          exact from_of_matchAt (by omega) (hhere.trans h)
      | none =>
          rw [hhere] at h
          exact (ih (by omega) h).earlier

lemma from_of_matchFrom {start : Nat} {nonempty : Bool} (hstart : start ≤ text.size)
    (h : pattern.matchFrom text start nonempty = some found) : found.From pattern text start nonempty := by
  cases nonempty with
  | false => exact from_of_firstMatch (by omega) h
  | true =>
      simp only [matchFrom, if_true] at h
      cases hhere : pattern.matchAt text start true with
      | some here =>
          rw [hhere] at h
          exact from_of_matchAt hstart (hhere.trans h)
      | none =>
          simp only [hhere] at h
          split at h
          · exact (from_of_firstMatch (by omega) h).earlier
          · cases h

/-! ## The scan -/

/-- The scan for matches from a place on, which goes on until there are no more. -/
inductive Scans (pattern : Pattern) (text : Array Char) : Nat → Bool → List Match → Prop
  | done {start : Nat} {nonempty : Bool} : pattern.matchFrom text start nonempty = none →
      Scans pattern text start nonempty []
  | next {start : Nat} {nonempty : Bool} {found : Match} {rest : List Match} :
      pattern.matchFrom text start nonempty = some found →
      Scans pattern text found.stop (found.start = found.stop) rest →
      Scans pattern text start nonempty (found :: rest)

/-- Each round moves on, or is the last empty match at its place, so that two rounds for each place are
enough. -/
lemma scans_matchesFrom {start rounds : Nat} {nonempty : Bool} (hstart : start ≤ text.size)
    (hrounds : 2 * (text.size - start) + (if nonempty then 0 else 1) < rounds) :
    Scans pattern text start nonempty (pattern.matchesFrom text start nonempty rounds) := by
  induction rounds generalizing start nonempty with
  | zero => omega
  | succ rounds ih =>
      rw [matchesFrom]
      cases hnext : pattern.matchFrom text start nonempty with
      | none => exact .done hnext
      | some found =>
          have hfound := from_of_matchFrom hstart hnext
          obtain ⟨-, hle, hordered, hinside, hadvances⟩ := hfound
          refine .next hnext (ih hinside ?_)
          by_cases hempty : found.start = found.stop
          · -- an empty match: where it stands still, the next one must not be empty
            cases nonempty with
            | true =>
                have hlt := hadvances rfl
                simp only [hempty, decide_true, if_true] at hrounds ⊢
                omega
            | false =>
                simp only [hempty, decide_true, if_true, Bool.false_eq_true, if_false] at hrounds ⊢
                omega
          · simp only [hempty, decide_false, Bool.false_eq_true, if_false]
            omega

/-- **The matches of a text are all there are.** -/
theorem scans_matches (pattern : Pattern) (text : Array Char) :
    Scans pattern text 0 false (pattern.matches text) :=
  scans_matchesFrom (Nat.zero_le _) (by simp)

lemma marks_size_of_scans {start : Nat} {nonempty : Bool} {all : List Match} (hstart : start ≤ text.size)
    (h : Scans pattern text start nonempty all) (hmem : found ∈ all) :
    found.marks.size = pattern.groupCount + 1 := by
  induction h with
  | done => cases hmem
  | next hnext _ ih =>
      have hfrom := from_of_matchFrom hstart hnext
      rcases List.mem_cons.mp hmem with rfl | hlater
      · exact hfrom.marks
      · exact ih hfrom.inside hlater

/-- **Every match has a mark for each group of its pattern**, and one for the whole match. -/
theorem marks_size_of_mem_matches (h : found ∈ pattern.matches text) :
    found.marks.size = pattern.groupCount + 1 :=
  marks_size_of_scans (Nat.zero_le _) (scans_matches pattern text) h

/-! ## The pieces between matches -/

lemma slice_append {first second third : Nat} (h : first ≤ second) (h' : second ≤ third) :
    slice text first second ++ slice text second third = slice text first third := by
  rw [slice, slice, slice, ← Array.toList_append, Array.extract_append_extract, Nat.min_eq_left h,
    Nat.max_eq_right h']

/-- The text that a match covers. -/
def Match.covered (text : Array Char) (found : Match) : List Char :=
  slice text found.start found.stop

lemma spliceFrom_covered {start : Nat} {nonempty : Bool} {all : List Match} (hstart : start ≤ text.size)
    (h : Scans pattern text start nonempty all) :
    spliceFrom text (Match.covered text) start all = slice text start text.size := by
  induction h with
  | done => rfl
  | next hnext _ ih =>
      have hfrom := from_of_matchFrom hstart hnext
      rw [spliceFrom, ih hfrom.inside, Match.covered, slice_append hfrom.start_le hfrom.ordered,
        slice_append (Nat.le_trans hfrom.start_le hfrom.ordered) hfrom.inside]

/-- **A text is made up of its pieces and its matches**: with each match replaced by what it covers, the
text is what it was. -/
theorem replaceAll_matched (pattern : Pattern) (text : String) :
    pattern.replaceAll Match.covered text = text := by
  rw [replaceAll]
  simp only [spliceFrom_covered (Nat.zero_le _) (scans_matches pattern _)]
  simp [slice]

lemma piecesFrom_ne_nil (text : Array Char) (start : Nat) (all : List Match) :
    piecesFrom text start all ≠ [] := by
  cases all <;> simp [piecesFrom]

/-- **Where each match is replaced by the same text**, that text stands between the pieces, and of the
matches nothing else is left. -/
theorem spliceFrom_const (text : Array Char) (replacement : List Char) (start : Nat) (all : List Match) :
    spliceFrom text (fun _ => replacement) start all
      = replacement.intercalate (piecesFrom text start all) := by
  induction all generalizing start with
  | nil => simp [spliceFrom, piecesFrom, List.intercalate]
  | cons found rest ih =>
      rw [spliceFrom, ih, piecesFrom]
      obtain ⟨piece, others, hpieces⟩ :=
        List.exists_cons_of_ne_nil (piecesFrom_ne_nil text found.stop rest)
      rw [hpieces, List.intercalate_cons_cons]

end Redaction.Pattern

import Redaction.Pattern.Basic
import Mathlib.Tactic.Lemma

/-!
# Where matching can lead

A match has a mark for each group of its pattern, and it stays inside the text.  Neither is visible in the
matcher: a part of a pattern is a function that calls *what has to match after it*, many times and with
cursors of its own making.  What can be said of such a function is where its successes come from.

**Successes.**  A step leads on (`Step.Leads`) if each of its successes is one of the rest, at a cursor that
can be reached from where the step started: further on in the text, but not past its end, and with as many
marks (`Cursor.Reaches`).  Then the forms of repetition lead on too, each by induction on its rounds,
whatever the rest does with a cursor.

**Nodes.**  Every node leads on (`Node.run_leads`).  A look behind goes back in the text, but it comes back
to where it started; of what it has seen it keeps the marks alone.
-/

namespace Redaction.Pattern

variable {text : Array Char}

/-! ## Cursors -/

/-- A cursor can be reached from another: it has as many marks, and it is no further back in the text and
not past its end. -/
structure Cursor.Reaches (text : Array Char) (cursor next : Cursor) : Prop where
  marks : next.marks.size = cursor.marks.size
  position : cursor.position ≤ text.size →
    cursor.position ≤ next.position ∧ next.position ≤ text.size

namespace Cursor

lemma Reaches.refl (cursor : Cursor) : cursor.Reaches text cursor :=
  ⟨rfl, fun h => ⟨Nat.le_refl _, h⟩⟩

lemma Reaches.trans {first second third : Cursor} (h : first.Reaches text second)
    (h' : second.Reaches text third) : first.Reaches text third := by
  refine ⟨h'.marks.trans h.marks, fun hfirst => ?_⟩
  obtain ⟨hle, hsecond⟩ := h.position hfirst
  obtain ⟨hle', hthird⟩ := h'.position hsecond
  exact ⟨Nat.le_trans hle hle', hthird⟩

lemma reaches_forward {cursor : Cursor} {distance : Nat}
    (h : cursor.position ≤ text.size → cursor.position + distance ≤ text.size) :
    cursor.Reaches text (cursor.forward distance) :=
  ⟨rfl, fun hcursor => ⟨Nat.le_add_right _ _, h hcursor⟩⟩

lemma reaches_openGroup (cursor : Cursor) (group : Nat) :
    cursor.Reaches text (cursor.openGroup group) :=
  ⟨Array.size_modify, fun h => ⟨Nat.le_refl _, h⟩⟩

lemma reaches_closeGroup (cursor : Cursor) (group : Nat) :
    cursor.Reaches text (cursor.closeGroup group) :=
  ⟨Array.size_modify, fun h => ⟨Nat.le_refl _, h⟩⟩

/-- Other marks, as many as there were, at the same place. -/
lemma reaches_withMarks {cursor inner : Cursor} (h : inner.marks.size = cursor.marks.size) :
    cursor.Reaches text { inner with position := cursor.position } :=
  ⟨h, fun hcursor => ⟨Nat.le_refl _, hcursor⟩⟩

end Cursor

/-- A step leads on: it succeeds only as the rest does, at a cursor that can be reached. -/
def Step.Leads (text : Array Char) (step : Step) : Prop :=
  ∀ {cursor : Cursor} {rest : Rest} {found : Cursor}, step cursor rest = some found →
    ∃ next, cursor.Reaches text next ∧ rest next = some found

/-! ## Repetition -/

namespace Step.Leads

variable {step : Step}

/-- Without a rest it is the success itself that can be reached. -/
lemma alone (h : step.Leads text) {cursor found : Cursor} (hrun : step cursor some = some found) :
    cursor.Reaches text found := by
  obtain ⟨next, hnext, hfound⟩ := h hrun
  exact Option.some.inj hfound ▸ hnext

lemma times (h : step.Leads text) (n : Nat) : (Step.times step n).Leads text := by
  induction n with
  | zero => exact fun hrun => ⟨_, .refl _, hrun⟩
  | succ n ih =>
      intro cursor rest found hrun
      rw [Step.times] at hrun
      obtain ⟨next, hnext, hmore⟩ := h hrun
      obtain ⟨last, hlast, hfound⟩ := ih hmore
      exact ⟨last, hnext.trans hlast, hfound⟩

lemma greedy (h : step.Leads text) (rounds : Nat) (bound last : Option Nat) :
    (Step.greedy step rounds bound last).Leads text := by
  induction rounds generalizing bound last with
  | zero => exact fun hrun => ⟨_, .refl _, hrun⟩
  | succ rounds ih =>
      intro cursor rest found hrun
      rw [Step.greedy] at hrun
      by_cases hrepeat : mayRepeat bound last cursor
      · simp only [hrepeat, if_true] at hrun
        cases hmore : step cursor fun next =>
            Step.greedy step rounds (bound.map (· - 1)) (some cursor.position) next rest with
        | some more =>
            obtain ⟨next, hnext, hagain⟩ := h hmore
            rw [hmore] at hrun
            obtain ⟨final, hfinal, hfound⟩ := ih _ _ (hagain.trans hrun)
            exact ⟨final, hnext.trans hfinal, hfound⟩
        | none =>
            rw [hmore] at hrun
            exact ⟨cursor, .refl _, hrun⟩
      · simp only [hrepeat] at hrun
        exact ⟨cursor, .refl _, hrun⟩

lemma lazily (h : step.Leads text) (rounds : Nat) (bound last : Option Nat) :
    (Step.lazily step rounds bound last).Leads text := by
  induction rounds generalizing bound last with
  | zero => exact fun hrun => ⟨_, .refl _, hrun⟩
  | succ rounds ih =>
      intro cursor rest found hrun
      rw [Step.lazily] at hrun
      cases hrest : rest cursor with
      | some more =>
          rw [hrest] at hrun
          exact ⟨cursor, .refl _, hrest.trans hrun⟩
      | none =>
          simp only [hrest] at hrun
          by_cases hrepeat : mayRepeat bound last cursor
          · simp only [hrepeat, if_true] at hrun
            obtain ⟨next, hnext, hagain⟩ := h hrun
            obtain ⟨final, hfinal, hfound⟩ := ih _ _ hagain
            exact ⟨final, hnext.trans hfinal, hfound⟩
          · simp [hrepeat] at hrun

lemma firmTimes (h : step.Leads text) {n : Nat} {cursor found : Cursor}
    (hrun : Step.firmTimes step n cursor = some found) : cursor.Reaches text found := by
  induction n generalizing cursor with
  | zero => exact Option.some.inj hrun ▸ .refl _
  | succ n ih =>
      rw [Step.firmTimes] at hrun
      cases hnext : step cursor some with
      | none => simp [hnext] at hrun
      | some next =>
          rw [hnext] at hrun
          exact (h.alone hnext).trans (ih hrun)

lemma firmly (h : step.Leads text) (rounds : Nat) (bound last : Option Nat) (cursor : Cursor) :
    cursor.Reaches text (Step.firmly step rounds bound last cursor) := by
  induction rounds generalizing bound last cursor with
  | zero => exact .refl _
  | succ rounds ih =>
      rw [Step.firmly]
      by_cases hrepeat : mayRepeat bound last cursor
      · simp only [hrepeat, if_true]
        cases hnext : step cursor some with
        | none => exact .refl _
        | some next => exact (h.alone hnext).trans (ih _ _ next)
      · rw [if_neg hrepeat]
        exact .refl _

lemma repeated (h : step.Leads text) (greed : Greed) (min : Nat) (max : Option Nat) (size : Nat) :
    (Step.repeated step greed min max size).Leads text := by
  intro cursor rest found hrun
  cases greed with
  | greedy =>
      obtain ⟨next, hnext, hmore⟩ := h.times min hrun
      obtain ⟨final, hfinal, hfound⟩ := h.greedy _ _ _ hmore
      exact ⟨final, hnext.trans hfinal, hfound⟩
  | lazy =>
      obtain ⟨next, hnext, hmore⟩ := h.times min hrun
      obtain ⟨final, hfinal, hfound⟩ := h.lazily _ _ _ hmore
      exact ⟨final, hnext.trans hfinal, hfound⟩
  | possessive =>
      simp only [Step.repeated] at hrun
      cases hfirm : Step.firmTimes step min cursor with
      | none => simp [hfirm] at hrun
      | some next =>
          rw [hfirm] at hrun
          exact ⟨_, (h.firmTimes hfirm).trans (h.firmly _ _ _ next), hrun⟩

end Step.Leads

/-! ## Runs of one character -/

lemma runLength_le (text : Array Char) (test : CharTest) (position limit : Nat) :
    runLength text test position limit ≤ limit := by
  induction limit generalizing position with
  | zero => exact Nat.le_refl _
  | succ limit ih =>
      rw [runLength]
      split
      · split
        · exact Nat.succ_le_succ (ih _)
        · exact Nat.zero_le _
      · exact Nat.zero_le _

/-- A run that gives back succeeds as the rest does after some of its characters. -/
lemma giveBack_eq_some {cursor found : Cursor} {rest : Rest} {least extra : Nat}
    (h : giveBack cursor rest least extra = some found) :
    ∃ distance ≤ least + extra, rest (cursor.forward distance) = some found := by
  induction extra with
  | zero => exact ⟨least, Nat.le_refl _, h⟩
  | succ extra ih =>
      rw [giveBack] at h
      cases hrest : rest (cursor.forward (least + (extra + 1))) with
      | some more => exact ⟨_, Nat.le_refl _, by rw [hrest] at h ⊢; exact h⟩
      | none =>
          rw [hrest] at h
          obtain ⟨distance, hdistance, hfound⟩ := ih h
          exact ⟨distance, by omega, hfound⟩

/-- So does a run that takes more. -/
lemma takeMore_eq_some {cursor found : Cursor} {rest : Rest} {extra : Nat}
    (h : takeMore cursor rest extra = some found) :
    ∃ distance ≤ extra, rest (cursor.forward distance) = some found := by
  induction extra generalizing cursor with
  | zero => exact ⟨0, Nat.le_refl _, h⟩
  | succ extra ih =>
      rw [takeMore] at h
      cases hrest : rest cursor with
      | some more =>
          rw [hrest] at h
          exact ⟨0, Nat.zero_le _, hrest.trans h⟩
      | none =>
          rw [hrest] at h
          obtain ⟨distance, hdistance, hfound⟩ := ih h
          refine ⟨1 + distance, by omega, ?_⟩
          rwa [Cursor.forward, ← Nat.add_assoc]

/-- A run never takes more than what is left of the text. -/
lemma unitRun_leads (text : Array Char) (test : CharTest) (greed : Greed) (min : Nat)
    (max : Option Nat) : (unitRun text test greed min max).Leads text := by
  intro cursor rest found h
  simp only [unitRun] at h
  generalize htaken : runLength text test cursor.position _ = length at h
  have hle : length ≤ text.size - cursor.position := by
    rw [← htaken]
    refine Nat.le_trans (runLength_le text test cursor.position _) ?_
    cases max with
    | none => exact Nat.le_refl _
    | some max => exact Nat.min_le_right _ _
  have hreach : ∀ {distance}, distance ≤ length → cursor.Reaches text (cursor.forward distance) :=
    fun hdistance => Cursor.reaches_forward fun hcursor => by omega
  by_cases hlength : length < min
  · simp [hlength] at h
  · rw [if_neg hlength] at h
    cases greed with
    | greedy =>
        obtain ⟨distance, hdistance, hfound⟩ := giveBack_eq_some h
        exact ⟨_, hreach (by omega), hfound⟩
    | lazy =>
        obtain ⟨distance, hdistance, hfound⟩ := takeMore_eq_some h
        refine ⟨cursor.forward (min + distance), hreach (by omega), ?_⟩
        rwa [Cursor.forward, ← Nat.add_assoc]
    | possessive => exact ⟨_, hreach (Nat.le_refl _), h⟩

/-! ## Nodes -/

/-- What is repeated is inside the text. -/
lemma add_le_of_repeats {fold : Fold} {source target length : Nat}
    (h : repeats text fold source target length = true) (htarget : target ≤ text.size) :
    target + length ≤ text.size := by
  induction length generalizing source target with
  | zero => exact htarget
  | succ length ih =>
      rw [repeats] at h
      split at h
      · rename_i hsource hchar
        have hlt : target < text.size := (Array.getElem?_eq_some_iff.mp hchar).1
        have hmore := ih (Bool.and_eq_true_iff.mp h).2 hlt
        omega
      · cases h

/-- A look succeeds as the rest does at the place where it started, with the marks of what it has seen or
with those it started with. -/
lemma look_eq_some {found? : Option Cursor} {negated : Bool} {cursor found : Cursor} {rest : Rest}
    (h : (match found?, negated with
      | some inner, false => rest { inner with position := cursor.position }
      | none, true => rest cursor
      | _, _ => none) = some found) :
    (∃ inner, found? = some inner
        ∧ rest { inner with position := cursor.position } = some found)
      ∨ rest cursor = some found := by
  cases found? with
  | some inner =>
      cases negated with
      | false => exact .inl ⟨inner, rfl, h⟩
      | true => cases h
  | none =>
      cases negated with
      | false => cases h
      | true => exact .inr h

/-- **Every node leads on.** -/
theorem Node.run_leads (text : Array Char) (node : Node) : Step.Leads text (node.run text) := by
  induction node with
  | empty => exact fun hrun => ⟨_, .refl _, hrun⟩
  | char test =>
      intro cursor rest found hrun
      rw [Node.run] at hrun
      split at hrun
      · rename_i hchar
        have hlt : cursor.position < text.size := (Array.getElem?_eq_some_iff.mp hchar).1
        split at hrun
        · exact ⟨cursor.forward 1, Cursor.reaches_forward fun _ => hlt, hrun⟩
        · cases hrun
      · cases hrun
  | place kind =>
      intro cursor rest found hrun
      rw [Node.run] at hrun
      split at hrun
      · exact ⟨_, .refl _, hrun⟩
      · cases hrun
  | seq first second ihfirst ihsecond =>
      intro cursor rest found hrun
      obtain ⟨next, hnext, hmore⟩ := ihfirst hrun
      obtain ⟨final, hfinal, hfound⟩ := ihsecond hmore
      exact ⟨final, hnext.trans hfinal, hfound⟩
  | alt first second ihfirst ihsecond =>
      intro cursor rest found hrun
      rw [Node.run] at hrun
      cases hfirst : first.run text cursor rest with
      | some more =>
          rw [hfirst] at hrun
          exact ihfirst (hfirst.trans hrun)
      | none =>
          rw [hfirst] at hrun
          exact ihsecond hrun
  | groupRef group fold =>
      intro cursor rest found hrun
      rw [Node.run] at hrun
      split at hrun
      · split at hrun
        · rename_i hrepeats
          exact ⟨_, Cursor.reaches_forward (add_le_of_repeats hrepeats), hrun⟩
        · cases hrun
      · cases hrun
  | groupTest group yes no ihyes ihno =>
      intro cursor rest found hrun
      rw [Node.run] at hrun
      split at hrun
      · exact ihyes hrun
      · exact ihno hrun
  | repeated greed min max body ih =>
      intro cursor rest found hrun
      rw [Node.run] at hrun
      split at hrun
      · exact unitRun_leads text _ greed min max hrun
      · exact ih.repeated greed min max text.size hrun
  | ahead negated body ih =>
      intro cursor rest found hrun
      rcases look_eq_some hrun with ⟨inner, hinner, hfound⟩ | hfound
      · exact ⟨_, Cursor.reaches_withMarks (ih.alone hinner).marks, hfound⟩
      · exact ⟨cursor, .refl _, hfound⟩
  | behind negated distance body ih =>
      intro cursor rest found hrun
      rcases look_eq_some hrun with ⟨inner, hinner, hfound⟩ | hfound
      · split at hinner
        · exact ⟨_, Cursor.reaches_withMarks (ih.alone hinner).marks, hfound⟩
        · cases hinner
      · exact ⟨cursor, .refl _, hfound⟩
  | atomic body ih =>
      intro cursor rest found hrun
      rw [Node.run] at hrun
      split at hrun
      · rename_i hbody
        exact ⟨_, ih.alone hbody, hrun⟩
      · cases hrun
  | capture group body ih =>
      intro cursor rest found hrun
      obtain ⟨next, hnext, hmore⟩ := ih hrun
      exact ⟨next.closeGroup group,
        ((cursor.reaches_openGroup group).trans hnext).trans (next.reaches_closeGroup group), hmore⟩

end Redaction.Pattern

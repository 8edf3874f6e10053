import Redaction.Number.Decimal
import Redaction.Proofs.Json.Numbers

/-!
# Reading what was written: floating-point numbers

A finite floating-point number is written by the fewest digits that tell it from others, with the point in
its place or with an exponent.  The digits come from an arithmetic that may end in zeros and drops them; that
they do not start with one has to be followed from there.

* `Decimal.Proper` — digits that do not start with a zero, unless the number is zero.
* `Decimal.proper_shortest` — the fewest digits are such.
* `Decimal.partsOf` — the parts of a decimal as it is written.
* **`exists_parts`** — a finite number is written of parts that can be read.
-/

namespace Redaction

namespace Decimal

open Json Text

/-- Digits that start as those of a number do: without a zero, unless the number is zero. -/
structure Proper (d : Decimal) : Prop where
  digits : ∀ c ∈ d.digits, c.isDigit = true
  nonempty : d.digits ≠ []
  start : d.digits.head? = some '0' → d = zero

lemma proper_zero : zero.Proper :=
  ⟨List.forall_mem_singleton.mpr rfl, List.cons_ne_nil _ _, fun _ => rfl⟩

/-- Dropping zeros at the end leaves a beginning of the digits. -/
lemma dropZeros_prefix (digits : List Char) : dropZeros digits <+: digits := by
  rw [dropZeros, ← List.reverse_suffix, List.reverse_reverse]
  exact List.dropWhile_suffix _

lemma proper_trimmed (n : Nat) (exponent : Int) : (ofNat n exponent).trimmed.Proper := by
  rw [trimmed]
  cases hdigits : dropZeros (ofNat n exponent).digits with
  | nil => exact proper_zero
  | cons c tail =>
      have hbegin : c :: tail <+: Nat.toDigits 10 n := hdigits ▸ dropZeros_prefix _
      refine ⟨fun c' hc' => isDigit_of_mem_toDigits (hbegin.subset hc'), by simp, fun hzero => ?_⟩
      -- only zero has digits that start with a zero, and nothing is left of those
      have hn : n = 0 := by
        by_contra hne
        obtain ⟨further, hfurther⟩ := hbegin
        exact head?_toDigits hne (by rw [← hfurther]; exact hzero)
      have hnone : dropZeros (ofNat n exponent).digits = [] := by
        rw [hn]
        show dropZeros (Nat.toDigits 10 0) = []
        decide
      rw [hnone] at hdigits
      cases hdigits

lemma proper_shortest (mantissa : Nat) (exponent : Int) : (shortest mantissa exponent).Proper := by
  have hzero : zero.trimmed.Proper := proper_trimmed 0 0
  rw [shortest]
  split_ifs
  · exact proper_zero
  · cases hfound : (List.range 17).findSome? fun i => ofCount? mantissa exponent (i + 1) with
    | none => exact hzero
    | some d =>
        obtain ⟨i, -, hcount⟩ := List.exists_of_findSome?_eq_some hfound
        obtain ⟨n, -, rfl⟩ := Option.map_eq_some_iff.mp hcount
        exact proper_trimmed n _

variable {d : Decimal}

lemma digits_replicate_zero {n : Nat} : ∀ c ∈ List.replicate n '0', c.isDigit = true := by
  intro c hc
  rw [List.eq_of_mem_replicate hc]
  decide

lemma Proper.after_digits (h : d.Proper) (places : Nat) : ∀ c ∈ d.after places, c.isDigit = true := by
  intro c hc
  simp only [after, List.mem_append] at hc
  rcases hc with (hc | hc) | hc
  · exact digits_replicate_zero c hc
  · exact h.digits c (List.mem_of_mem_drop hc)
  · exact digits_replicate_zero c hc

lemma Proper.before_digits (h : d.Proper) : ∀ c ∈ d.before, c.isDigit = true := by
  intro c hc
  rw [before] at hc
  split_ifs at hc
  · rw [List.mem_singleton.mp hc]
    decide
  · rcases List.mem_append.mp hc with hc | hc
    · exact h.digits c (List.mem_of_mem_take hc)
    · exact digits_replicate_zero c hc

/-- The digits before the point can stand there. -/
lemma Proper.whole_before (h : d.Proper) : Whole (d.before.map byte) := by
  by_cases hpoint : d.point ≤ 0
  · rw [before, if_pos hpoint]
    exact whole_map_byte (List.forall_mem_singleton.mpr rfl) (List.cons_ne_nil _ _) fun _ => rfl
  · obtain ⟨n, hn⟩ : ∃ n, d.point.toNat = n + 1 := ⟨d.point.toNat - 1, by omega⟩
    obtain ⟨c, tail, hcons⟩ := List.exists_cons_of_ne_nil h.nonempty
    refine whole_map_byte h.before_digits ?_ fun hzero => ?_
    · rw [before, if_neg hpoint, hn, hcons]
      simp
    · rw [before, if_neg hpoint, hn, hcons] at hzero
      have hd : d = zero := h.start (by rw [hcons]; exact hzero)
      rw [hd]
      decide

lemma flatMap_utf8_digits {chars : List Char} (h : ∀ c ∈ chars, c.isDigit = true) :
    chars.flatMap String.utf8EncodeChar = chars.map byte := by
  refine flatMap_utf8_of_ascii fun c hc => ?_
  have hbounds := toNat_bounds_of_isDigit (h c hc)
  omega

/-- The parts of a decimal with the point in its place, and with an exponent or without one. -/
def partsOf (d : Decimal) (negative : Bool) (places : Nat) (power : Option (Bool × List Char)) : Parts where
  negative := negative
  whole := d.before.map byte
  fraction := if d.after places = [] then none else some ((d.after places).map byte)
  power := power.map fun (minus, digits) => (minus, digits.map byte)

/-- An exponent as it is written. -/
def powerChars : Option (Bool × List Char) → List Char
  | none => []
  | some (minus, digits) => 'e' :: (if minus then '-' else '+') :: digits

lemma Proper.partsOf (h : d.Proper) (negative : Bool) (places : Nat) {power : Option (Bool × List Char)}
    (hpower : ∀ signed ∈ power, (∀ c ∈ signed.2, c.isDigit = true) ∧ signed.2 ≠ []) :
    (d.partsOf negative places power).Proper := by
  refine ⟨h.whole_before, fun digits hdigits => ?_, fun signed hsigned => ?_⟩
  · by_cases hnone : d.after places = []
    · simp [Decimal.partsOf, hnone] at hdigits
    · obtain rfl : (d.after places).map byte = digits := by simpa [Decimal.partsOf, hnone] using hdigits
      exact ⟨map_byte_digits (h.after_digits places), by simpa using hnone⟩
  · obtain ⟨⟨minus, digits⟩, hmem, rfl⟩ := Option.map_eq_some_iff.mp hsigned
    obtain ⟨hdigits, hne⟩ := hpower _ hmem
    exact ⟨map_byte_digits hdigits, by simpa using hne⟩

lemma Proper.written_partsOf (h : d.Proper) (negative : Bool) (places : Nat) {power : Option (Bool × List Char)}
    (hpower : ∀ signed ∈ power, (∀ c ∈ signed.2, c.isDigit = true) ∧ signed.2 ≠ []) :
    (d.partsOf negative places power).written
      = ((if negative then ['-'] else []) ++ (d.positional places false ++ powerChars power)).flatMap
          String.utf8EncodeChar := by
  have hbefore : d.before.flatMap String.utf8EncodeChar = d.before.map byte :=
    flatMap_utf8_digits h.before_digits
  have hafter : (d.after places).flatMap String.utf8EncodeChar = (d.after places).map byte :=
    flatMap_utf8_digits (h.after_digits places)
  have hsign : (if negative then ['-'] else []).flatMap String.utf8EncodeChar
      = if negative then [byte '-'] else [] := by
    cases negative <;> rfl
  have hpositional : (d.positional places false).flatMap String.utf8EncodeChar
      = d.before.map byte ++ Parts.fractionBytes (d.partsOf negative places power).fraction := by
    rw [positional, Decimal.partsOf]
    by_cases hnone : d.after places = []
    · simp [hnone, hbefore, Parts.fractionBytes]
    · simp [hnone, hbefore, hafter, Parts.fractionBytes]
      rfl
  have hpowerBytes : (powerChars power).flatMap String.utf8EncodeChar
      = Parts.powerBytes (d.partsOf negative places power).power := by
    cases power with
    | none => rfl
    | some signed =>
        obtain ⟨minus, digits⟩ := signed
        have hdigits := flatMap_utf8_digits (hpower _ rfl).1
        rw [powerChars, List.flatMap_cons, List.flatMap_cons, hdigits]
        cases minus <;> rfl
  rw [Parts.written, List.flatMap_append, List.flatMap_append, hsign, hpowerBytes, hpositional, List.append_assoc]
  rfl

/-- Where the point stands does not matter. -/
lemma Proper.point (h : d.Proper) : Proper { d with point := 1 } := by
  refine ⟨h.digits, h.nonempty, fun hzero => ?_⟩
  rw [h.start hzero]
  rfl

/-- The digits of an exponent: two at least. -/
def exponentDigits (exponent : Int) : List Char :=
  if (digitsOf exponent.natAbs).length < 2 then '0' :: digitsOf exponent.natAbs else digitsOf exponent.natAbs

lemma exponentText_eq (exponent : Int) :
    exponentText 'e' exponent = powerChars (some (decide (exponent < 0), exponentDigits exponent)) := by
  rw [exponentText, powerChars, exponentDigits]
  by_cases hneg : exponent < 0 <;> simp [hneg]

lemma exponentDigits_digits (exponent : Int) :
    (∀ c ∈ exponentDigits exponent, c.isDigit = true) ∧ exponentDigits exponent ≠ [] := by
  have hdigits : ∀ c ∈ digitsOf exponent.natAbs, c.isDigit = true := fun c => isDigit_of_mem_toDigits
  rw [exponentDigits]
  split_ifs
  · refine ⟨fun c hc => ?_, by simp⟩
    rcases List.mem_cons.mp hc with rfl | hc
    · decide
    · exact hdigits c hc
  · exact ⟨hdigits, Nat.toDigits_ne_nil⟩

/-- **A finite number** is written of parts that can be read: with the point in its place, or with an
exponent. -/
theorem exists_parts (negative : Bool) (mantissa : Nat) (exponent : Int) :
    ∃ parts : Parts, parts.Proper
      ∧ Utf8.encode (Binary64.finite negative mantissa exponent).text = parts.written := by
  have h := proper_shortest mantissa exponent
  have htext : ∀ chars : List Char, (if negative then '-' :: chars else chars)
      = (if negative then ['-'] else []) ++ chars := by
    intro chars
    cases negative <;> rfl
  rw [Binary64.text, Utf8.encode_ofList, htext]
  generalize shortest mantissa exponent = d at h
  by_cases hplace : (decide (d.point ≤ -4) || decide (16 < d.point)) = true
  · have hpower : ∀ signed ∈ some (decide (d.point - 1 < 0), exponentDigits (d.point - 1)),
        (∀ c ∈ signed.2, c.isDigit = true) ∧ signed.2 ≠ [] := by
      rintro _ ⟨⟩
      exact exponentDigits_digits _
    refine ⟨_, h.point.partsOf negative 0 hpower, ?_⟩
    rw [h.point.written_partsOf negative 0 hpower, if_pos hplace, scientific, exponentText_eq]
  · have hpower : ∀ signed ∈ (none : Option (Bool × List Char)),
        (∀ c ∈ signed.2, c.isDigit = true) ∧ signed.2 ≠ [] := by
      rintro _ ⟨⟩
    refine ⟨_, h.partsOf negative 1 hpower, ?_⟩
    rw [h.written_partsOf negative 1 hpower, if_neg hplace, powerChars, List.append_nil]

end Decimal

end Redaction

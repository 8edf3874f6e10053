import Redaction.Proofs.Json.Lists
import Mathlib.Tactic.ByContra

/-!
# Reading what was written: numbers

A number is read digit by digit for as long as there are digits, and a zero in front of other digits is
refused.  Whether a number that was written is read again thus depends on what stands behind it, and on
whether its digits start as they should.

* `Parts` — what a number is written of: a sign, whole digits, a fraction, an exponent.
* `Parts.Proper` — the parts are all there, and start as they should.
* **`readable_number`** — a number of such parts is read as what they say.
* **`readable_int`** — a whole number in decimal digits is read as that number.
-/

namespace Redaction
namespace Json

open Text

section
variable {index limit start : Nat} {bytes rest whole : List UInt8}

/-- What stands behind digits is no digit. -/
def NoDigit (rest : List UInt8) : Prop :=
  ∀ c ∈ rest.head?, isDigit c = false

lemma takes_digits (h : ∀ c ∈ bytes, isDigit c = true) (hrest : NoDigit rest) :
    Takes digits index bytes bytes rest := by
  have htake : (bytes ++ rest).takeWhile isDigit = bytes := takeWhile_append_eq h hrest
  rw [Takes, digits, StateT.run_bind]
  show (Except.ok (((bytes ++ rest).takeWhile isDigit), _) : Except (Cause × Nat) (List UInt8 × Cursor)) = _
  rw [htake]
  simp

lemma takes_someDigits (h : ∀ c ∈ bytes, isDigit c = true) (hne : bytes ≠ []) (hrest : NoDigit rest) :
    Takes someDigits index bytes bytes rest := by
  obtain ⟨c, tail, rfl⟩ := List.exists_cons_of_ne_nil hne
  rw [someDigits]
  refine Takes.peek ?_
  simp only [List.cons_append, List.head?_cons, h c List.mem_cons_self, if_true]
  exact takes_digits h hrest

/-- The exponent that digits and a sign before them say. -/
def exponentOf (minus : Bool) (digits : List UInt8) : Int :=
  if minus then -(ofDigits digits : Int) else ofDigits digits

lemma takes_exponent (minus : Bool) (h : ∀ c ∈ bytes, isDigit c = true) (hne : bytes ≠ [])
    (hrest : NoDigit rest) :
    Takes exponent index ((if minus then byte '-' else byte '+') :: bytes) (exponentOf minus bytes) rest := by
  rw [exponent]
  refine Takes.peek ?_
  cases minus
  · have hplus : byte '+' ≠ byte '-' := by decide
    simp only [Bool.false_eq_true, if_false, List.cons_append, List.head?_cons, hplus, if_true]
    exact Takes.skip (Takes.last (takes_someDigits h hne hrest) (.pure _))
  · simp only [if_true, List.cons_append, List.head?_cons]
    exact Takes.skip (Takes.last (takes_someDigits h hne hrest) (.pure _))

/-- Digits that can stand before the point or the exponent: a zero stands alone. -/
structure Whole (whole : List UInt8) : Prop where
  digits : ∀ c ∈ whole, isDigit c = true
  nonempty : whole ≠ []
  zero : whole.head? = some (byte '0') → whole = [byte '0']

lemma takes_wholeDigits (h : Whole whole) (hrest : NoDigit rest)
    (hlimit : index + whole.length ≤ start + limit) :
    Takes (wholeDigits limit start) index whole whole rest := by
  obtain ⟨c, tail, hcons⟩ := List.exists_cons_of_ne_nil h.nonempty
  rw [wholeDigits]
  refine Takes.peek ?_
  by_cases hzero : c = byte '0'
  · have hwhole : whole = [byte '0'] := h.zero (by rw [hcons, hzero]; rfl)
    rw [hwhole]
    simp only [List.cons_append, List.head?_cons, if_true, List.nil_append]
    refine Takes.skip (Takes.peek ?_)
    cases rest with
    | nil => exact .pure _
    | cons next rest =>
        have hnext : isDigit next = false := hrest next rfl
        simp only [List.nil_append, List.head?_cons, hnext, Bool.false_eq_true, if_false]
        exact .pure _
  · have hdigit : isDigit c = true := h.digits c (hcons ▸ List.mem_cons_self)
    have hhead : (whole ++ rest).head? = some c := by rw [hcons]; rfl
    have hshort : ¬ limit < index + whole.length - start := by omega
    simp only [hhead, hzero, if_false, hdigit, if_true]
    refine Takes.last (takes_digits h.digits hrest) (Takes.get ?_)
    simp only [hshort, if_false]
    exact .pure _

/-! ## Numbers by their parts -/

/-- The parts that a number is written of. -/
structure Parts where
  negative : Bool
  whole : List UInt8
  fraction : Option (List UInt8) := none
  /-- The sign and the digits of the exponent. -/
  power : Option (Bool × List UInt8) := none

namespace Parts

def fractionBytes : Option (List UInt8) → List UInt8
  | none => []
  | some digits => byte '.' :: digits

def powerBytes : Option (Bool × List UInt8) → List UInt8
  | none => []
  | some (minus, digits) => byte 'e' :: (if minus then byte '-' else byte '+') :: digits

/-- A number as it is written. -/
def written (parts : Parts) : List UInt8 :=
  (if parts.negative then [byte '-'] else []) ++ (parts.whole ++ (fractionBytes parts.fraction
    ++ powerBytes parts.power))

/-- What a number says. -/
def value (parts : Parts) : Json :=
  match parts.fraction, parts.power with
  | none, none => .int (Binary64.signed parts.negative (ofDigits parts.whole))
  | _, _ =>
    let places := parts.fraction.getD []
    let power := parts.power.map fun (minus, digits) => exponentOf minus digits
    .float (.ofDecimal parts.negative (ofDigits (parts.whole ++ places)) (power.getD 0 - places.length))

/-- Parts that are all there and start as they should. -/
structure Proper (parts : Parts) : Prop where
  whole : Whole parts.whole
  fraction : ∀ digits ∈ parts.fraction, (∀ c ∈ digits, isDigit c = true) ∧ digits ≠ []
  power : ∀ signed ∈ parts.power, (∀ c ∈ signed.2, isDigit c = true) ∧ signed.2 ≠ []

end Parts

lemma Ends.noDigit (h : Ends rest) : NoDigit rest := by
  intro c hc
  rcases h c hc with rfl | rfl | rfl <;> decide

lemma takes_fraction {β : Type} {b : β} {more : List UInt8} {further : Option (List UInt8) → Read β}
    (fraction : Option (List UInt8))
    (hfraction : ∀ digits ∈ fraction, (∀ c ∈ digits, isDigit c = true) ∧ digits ≠ [])
    (hmore : NoDigit (more ++ rest)) (hpoint : (more ++ rest).head? ≠ some (byte '.'))
    (h : ∀ index, Takes (further fraction) index more b rest) :
    Takes (peek >>= fun next =>
        if next = some (byte '.') then skip >>= fun _ => (some <$> someDigits) >>= further
        else pure none >>= further) index (Parts.fractionBytes fraction ++ more) b rest := by
  refine Takes.peek ?_
  cases fraction with
  | none =>
      rw [Parts.fractionBytes, List.nil_append, if_neg hpoint]
      exact Takes.bind (.pure _) (h _)
  | some digits =>
      obtain ⟨hdigits, hne⟩ := hfraction digits rfl
      simp only [Parts.fractionBytes, List.cons_append, List.head?_cons, if_true]
      exact Takes.skip (Takes.bind ((takes_someDigits hdigits hne hmore).map some) (h _))

lemma takes_power {β : Type} {b : β} {further : Option Int → Read β} (power : Option (Bool × List UInt8))
    (hpower : ∀ signed ∈ power, (∀ c ∈ signed.2, isDigit c = true) ∧ signed.2 ≠ []) (hrest : Ends rest)
    (h : ∀ index, Takes (further (power.map fun (minus, digits) => exponentOf minus digits)) index [] b rest) :
    Takes (peek >>= fun next =>
        if isExponentMark next then skip >>= fun _ => (some <$> exponent) >>= further
        else pure none >>= further) index (Parts.powerBytes power) b rest := by
  refine Takes.peek ?_
  cases power with
  | none =>
      have hmark : isExponentMark rest.head? = false := by
        cases hhead : rest.head? with
        | none => decide
        | some c =>
            rcases hrest c hhead with rfl | rfl | rfl <;> decide
      rw [Parts.powerBytes, List.nil_append, if_neg (by simp [hmark])]
      exact Takes.bind (.pure _) (h _)
  | some signed =>
      obtain ⟨minus, digits⟩ := signed
      obtain ⟨hdigits, hne⟩ := hpower _ rfl
      have hmark : isExponentMark (some (byte 'e')) = true := by decide
      simp only [Parts.powerBytes, List.cons_append, List.head?_cons, hmark, if_true]
      exact Takes.skip (Takes.last ((takes_exponent minus hdigits hne hrest.noDigit).map some) (h _))

/-- What stands behind the whole digits of a number. -/
lemma head?_power (power : Option (Bool × List UInt8)) (hrest : Ends rest) :
    ∀ c ∈ (Parts.powerBytes power ++ rest).head?, isDigit c = false ∧ c ≠ byte '.' := by
  intro c hc
  cases power with
  | none =>
      rcases hrest c hc with rfl | rfl | rfl <;> decide
  | some signed =>
      obtain rfl : byte 'e' = c := Option.some.inj hc
      decide

lemma takes_afterSign (parts : Parts) (h : parts.Proper) (hrest : Ends rest) (hstart : index ≤ start + 1)
    (hlimit : parts.whole.length + 1 ≤ limit) :
    Takes (afterSign parts.negative limit start) index
      (parts.whole ++ (Parts.fractionBytes parts.fraction ++ Parts.powerBytes parts.power)) parts.value rest := by
  obtain ⟨negative, whole, fraction, power⟩ := parts
  have hpower := head?_power power hrest
  have hwhole : NoDigit (Parts.fractionBytes fraction ++ Parts.powerBytes power ++ rest) := by
    cases fraction with
    | none => exact fun c hc => (hpower c hc).1
    | some digits =>
        intro c hc
        obtain rfl : byte '.' = c := Option.some.inj hc
        decide
  rw [afterSign]
  refine Takes.bind (takes_wholeDigits h.whole hwhole ?_) ?_
  · simp only at hlimit ⊢
    omega
  · dsimp only
    refine takes_fraction fraction h.fraction (fun c hc => (hpower c hc).1)
      (fun hc => (hpower _ hc).2 rfl) fun index => ?_
    refine takes_power power h.power hrest fun index => ?_
    cases fraction <;> cases power <;> exact .pure _

/-- **A number** is read as what its parts say. -/
theorem takes_number (parts : Parts) (h : parts.Proper) (hrest : Ends rest)
    (hlimit : parts.whole.length + 1 ≤ limit) :
    Takes (number limit) index parts.written parts.value rest := by
  obtain ⟨c, tail, hcons⟩ := List.exists_cons_of_ne_nil h.whole.nonempty
  have hdigit : isDigit c = true := h.whole.digits c (hcons ▸ List.mem_cons_self)
  have hhead : (parts.whole ++ (Parts.fractionBytes parts.fraction ++ Parts.powerBytes parts.power)
      ++ rest).head? = some c := by
    rw [hcons]
    rfl
  have hminus : c ≠ byte '-' := by
    rintro rfl
    exact absurd hdigit (by decide)
  have hinfinity : c ≠ byte 'I' := by
    rintro rfl
    exact absurd hdigit (by decide)
  rw [number, Parts.written]
  refine Takes.get (Takes.peek ?_)
  cases hnegative : parts.negative with
  | false =>
      simp only [Bool.false_eq_true, if_false, List.nil_append, hhead, Option.some.injEq, hminus]
      refine Takes.peek ?_
      rw [if_neg (by simp)]
      simp only [decide_false, ← hnegative]
      exact takes_afterSign parts h hrest (Nat.le_succ _) hlimit
  | true =>
      simp only [if_true, List.cons_append, List.nil_append, List.head?_cons]
      refine Takes.skip (Takes.peek ?_)
      rw [if_neg (by rw [hhead]; simp [hinfinity])]
      simp only [decide_true, ← hnegative]
      exact takes_afterSign parts h hrest (Nat.le_refl _) hlimit

/-- A byte that a number starts with. -/
def StartsNumber (c : UInt8) : Prop :=
  c = byte '-' ∨ isDigit c = true

lemma StartsNumber.ne {c d : UInt8} (h : StartsNumber c) (hdigit : isDigit d = false) (hminus : d ≠ byte '-') :
    c ≠ d := by
  rintro rfl
  rcases h with rfl | hc
  · exact hminus rfl
  · rw [hdigit] at hc
    cases hc

lemma scalar_of_startsNumber {c : UInt8} (h : StartsNumber c) : scalar limit c = number limit := by
  have hstart : (decide (c = byte '-') || isDigit c) = true := by simpa [StartsNumber] using h
  rw [scalar]
  simp only [h.ne (by decide : isDigit (byte '"') = false) (by decide),
    h.ne (by decide : isDigit (byte 't') = false) (by decide),
    h.ne (by decide : isDigit (byte 'f') = false) (by decide),
    h.ne (by decide : isDigit (byte 'n') = false) (by decide),
    h.ne (by decide : isDigit (byte 'N') = false) (by decide),
    h.ne (by decide : isDigit (byte 'I') = false) (by decide), if_false, hstart, if_true]

lemma startsNumber_written (parts : Parts) (h : parts.Proper) :
    ∃ c tail, parts.written = c :: tail ∧ StartsNumber c := by
  obtain ⟨c, tail, hcons⟩ := List.exists_cons_of_ne_nil h.whole.nonempty
  rw [Parts.written, hcons]
  cases parts.negative with
  | false => exact ⟨c, _, rfl, .inr (h.whole.digits c (hcons ▸ List.mem_cons_self))⟩
  | true => exact ⟨byte '-', _, rfl, .inl rfl⟩

/-- A number can stand as an item, however deeply. -/
theorem readable_number {digits depth : Nat} (parts : Parts) (h : parts.Proper)
    (hlimit : parts.written.length < digits) : Readable digits depth parts.written parts.value := by
  have hwhole : parts.whole.length + 1 ≤ digits := by
    simp only [Parts.written, List.length_append] at hlimit
    omega
  obtain ⟨c, tail, hcons, hc⟩ := startsNumber_written parts h
  have hspace : isSpace c = false := by
    simp [isSpace, hc.ne (by decide : isDigit 0x20 = false) (by decide),
      hc.ne (by decide : isDigit 0x09 = false) (by decide), hc.ne (by decide : isDigit 0x0A = false) (by decide),
      hc.ne (by decide : isDigit 0x0D = false) (by decide)]
  have htaken : ∀ index rest, Ends rest → Takes (number digits) index parts.written parts.value rest :=
    fun index rest hrest => takes_number parts h hrest hwhole
  rw [hcons] at htaken ⊢
  refine readable_scalar hspace (hc.ne (by decide) (by decide)) (hc.ne (by decide) (by decide))
    (hc.ne (by decide) (by decide)) fun index rest hrest => ?_
  rw [scalar_of_startsNumber hc]
  exact htaken index rest hrest

end

/-! ## Whole numbers -/

lemma toNat_bounds_of_isDigit {c : Char} (h : c.isDigit = true) : 0x30 ≤ c.toNat ∧ c.toNat ≤ 0x39 := by
  simp only [Char.isDigit, Bool.and_eq_true, decide_eq_true_eq] at h
  exact ⟨UInt32.le_iff_toNat_le.mp h.1, UInt32.le_iff_toNat_le.mp h.2⟩

lemma isDigit_byte {c : Char} (h : c.isDigit = true) : isDigit (byte c) = true := by
  obtain ⟨hleast, hmost⟩ := toNat_bounds_of_isDigit h
  simp only [isDigit, Bool.and_eq_true, decide_eq_true_eq, UInt8.le_iff_toNat_le, toNat_byte (c := c) (by omega)]
  exact ⟨hleast, hmost⟩

/-- Decimal digits of a number that is not zero do not start with a zero. -/
lemma head?_toDigits {n : Nat} (h : n ≠ 0) : (Nat.toDigits 10 n).head? ≠ some '0' := by
  induction n using Nat.strongRecOn with
  | ind n ih =>
      rw [Nat.toDigits_eq_if (by decide)]
      split_ifs with hlt
      · have hsmall : ∀ n < 10, n ≠ 0 → [Nat.digitChar n].head? ≠ some '0' := by decide
        exact hsmall n hlt h
      · obtain ⟨c, tail, hcons⟩ := List.exists_cons_of_ne_nil (Nat.toDigits_ne_nil (n := n / 10) (b := 10))
        have hrest := ih (n / 10) (by omega) (by omega)
        rw [hcons] at hrest ⊢
        exact hrest

lemma isDigit_of_mem_toDigits {n : Nat} {c : Char} (h : c ∈ Nat.toDigits 10 n) : c.isDigit = true :=
  Nat.isDigit_of_mem_toDigits (by decide) (by decide) h

lemma byte_toDigits_ascii {n : Nat} {c : Char} (h : c ∈ Nat.toDigits 10 n) : c.toNat < 0x80 := by
  have hbounds := toNat_bounds_of_isDigit (isDigit_of_mem_toDigits h)
  omega

lemma map_byte_digits {chars : List Char} (h : ∀ c ∈ chars, c.isDigit = true) :
    ∀ b ∈ chars.map byte, isDigit b = true := by
  intro b hb
  obtain ⟨c, hc, rfl⟩ := List.mem_map.mp hb
  exact isDigit_byte (h c hc)

/-- Characters whose bytes can stand before a point. -/
lemma whole_map_byte {chars : List Char} (h : ∀ c ∈ chars, c.isDigit = true) (hne : chars ≠ [])
    (hzero : chars.head? = some '0' → chars = ['0']) : Whole (chars.map byte) := by
  refine ⟨map_byte_digits h, by simpa using hne, fun hhead => ?_⟩
  obtain ⟨c, tail, hcons⟩ := List.exists_cons_of_ne_nil hne
  have hc : c = '0' := by
    by_contra hother
    have hbounds := toNat_bounds_of_isDigit (h c (hcons ▸ List.mem_cons_self))
    rw [hcons] at hhead
    exact byte_ne (by omega) (by decide) hother (Option.some.inj hhead)
  rw [hzero (by rw [hcons, hc]; rfl)]
  rfl

lemma whole_toDigits (n : Nat) : Whole ((Nat.toDigits 10 n).map byte) := by
  refine whole_map_byte (fun c => isDigit_of_mem_toDigits) Nat.toDigits_ne_nil fun hzero => ?_
  have hn : n = 0 := by
    by_contra hne
    exact head?_toDigits hne hzero
  rw [hn]
  rfl

lemma ofDigits_toDigits (n : Nat) : ofDigits ((Nat.toDigits 10 n).map byte) = n := by
  have hvalues : ((Nat.toDigits 10 n).map byte).map (fun b => b.toNat - 0x30)
      = (Nat.toDigits 10 n).map fun c => c.toNat - '0'.toNat := by
    rw [List.map_map]
    refine List.map_congr_left fun c hc => ?_
    show (byte c).toNat - 0x30 = _
    rw [toNat_byte (byte_toDigits_ascii hc)]
    rfl
  have hdigits : Nat.ofDigitChars 10 (Nat.toDigits 10 n) 0 = n := Nat.ofDigitChars_ten_toDigits
  rw [ofDigits, hvalues, Text.ofDigits, List.foldl_map]
  exact hdigits

/-- The parts of a whole number. -/
def wholeParts (n : Int) : Parts where
  negative := decide (n < 0)
  whole := (Nat.toDigits 10 n.natAbs).map byte

lemma encode_decimal (n : Nat) : Utf8.encode (decimal n) = (Nat.toDigits 10 n).map byte := by
  rw [decimal, Utf8.encode_ofList, flatMap_utf8_of_ascii fun c => byte_toDigits_ascii]

lemma encode_signedDecimal (n : Int) : Utf8.encode (signedDecimal n) = (wholeParts n).written := by
  have hminus : Utf8.encode "-" = [byte '-'] := by
    rw [Utf8.encode_eq]
    rfl
  rw [signedDecimal, Parts.written]
  by_cases hneg : n < 0 <;> simp [encode_append, encode_decimal, hminus, wholeParts, hneg, Parts.fractionBytes,
    Parts.powerBytes]

/-- **A whole number** is read as that number. -/
theorem readable_int {digits depth : Nat} (n : Int) (hlimit : (Utf8.encode (signedDecimal n)).length < digits) :
    Readable digits depth (Utf8.encode (signedDecimal n)) (.int n) := by
  have hproper : (wholeParts n).Proper := ⟨whole_toDigits _, by simp [wholeParts], by simp [wholeParts]⟩
  have hsigned : Binary64.signed (decide (n < 0)) n.natAbs = n := by
    rw [Binary64.signed]
    by_cases hneg : n < 0
    · rw [if_pos (decide_eq_true hneg)]
      omega
    · rw [if_neg (mt of_decide_eq_true hneg)]
      omega
  have hvalue : (wholeParts n).value = .int n := by
    rw [wholeParts, Parts.value, ofDigits_toDigits, hsigned]
  rw [encode_signedDecimal] at hlimit ⊢
  rw [← hvalue]
  exact readable_number _ hproper hlimit

end Json
end Redaction

/-!
# UTF-8

* `Utf8.decode`: the characters that bytes encode, or how many bytes are well formed from the start.
* `Utf8.encode`: the bytes of a text.
-/

namespace Redaction.Text.Utf8

/-- A byte that continues a character. -/
def isContinuation (b : UInt8) : Bool :=
  0x80 ≤ b && b ≤ 0xBF

/-- The six bits that a continuation byte adds. -/
def low (b : UInt8) : Nat :=
  b.toNat % 0x40

/-- The first character of some bytes with the bytes after it; none if they start with no character.
The second byte of a long form is bounded so that each character has one form only and surrogates have
none. -/
def first? : List UInt8 → Option (Char × List UInt8)
  | [] => none
  | a :: rest =>
    if a < 0x80 then some (Char.ofNat a.toNat, rest)
    else if 0xC2 ≤ a && a ≤ 0xDF then
      match rest with
      | b :: rest =>
        if isContinuation b then some (Char.ofNat (a.toNat % 0x20 * 0x40 + low b), rest) else none
      | _ => none
    else if 0xE0 ≤ a && a ≤ 0xEF then
      match rest with
      | b :: c :: rest =>
        let least : UInt8 := if a = 0xE0 then 0xA0 else 0x80
        let greatest : UInt8 := if a = 0xED then 0x9F else 0xBF
        if least ≤ b && b ≤ greatest && isContinuation c then
          some (Char.ofNat ((a.toNat % 0x10 * 0x40 + low b) * 0x40 + low c), rest)
        else none
      | _ => none
    else if 0xF0 ≤ a && a ≤ 0xF4 then
      match rest with
      | b :: c :: d :: rest =>
        let least : UInt8 := if a = 0xF0 then 0x90 else 0x80
        let greatest : UInt8 := if a = 0xF4 then 0x8F else 0xBF
        if least ≤ b && b ≤ greatest && isContinuation c && isContinuation d then
          some (Char.ofNat (((a.toNat % 0x08 * 0x40 + low b) * 0x40 + low c) * 0x40 + low d), rest)
        else none
      | _ => none
    else none

theorem length_lt_of_first? {bytes rest : List UInt8} {c : Char} (h : first? bytes = some (c, rest)) :
    rest.length < bytes.length := by
  unfold first? at h
  split at h
  · simp at h
  · grind

/-- Decodes bytes; `read` of them have been decoded before. -/
def decodeFrom (read : Nat) (bytes : List UInt8) : Except Nat (List Char) :=
  match _h : first? bytes with
  | some (c, rest) => do
    return c :: (← decodeFrom (read + c.utf8Size) rest)
  | none => if bytes.isEmpty then return [] else throw read
termination_by bytes.length
decreasing_by exact length_lt_of_first? _h

/-- The characters of well-formed bytes; otherwise the length of the well-formed beginning. -/
def decode (bytes : List UInt8) : Except Nat (List Char) :=
  decodeFrom 0 bytes

/-- The bytes of a text. -/
def encode (text : String) : List UInt8 :=
  text.toUTF8.toList

end Redaction.Text.Utf8

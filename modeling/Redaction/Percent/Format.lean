import Redaction.Percent.Directive
import Redaction.Percent.Fault
import Redaction.Text.Case
import Redaction.Value.Kind
import Redaction.Value.Text

/-!
# Rendering templates

A template is rendered piece by piece. Directives take their arguments one after the other from a row, or
by name from a dictionary.

* `Arguments`: the arguments of a template.
* `render`: the text of a template with its arguments.
-/

namespace Redaction.Percent

/-- The arguments of a template. -/
inductive Arguments
  | row (items : List Value)
  | mapping (entries : List (Value × Value))
deriving Repr, Inhabited

/-- The arguments that directives can still take. -/
inductive Supply
  | row (items : List Value)
  /-- The whole dictionary, or what a directive has picked from it; it is taken once. -/
  | single (item : Option Value)

/-- The supply at the start. -/
def Arguments.supply : Arguments → Supply
  | row items => .row items
  | mapping entries => .single (some (.dict entries))

/-- Takes the next argument. -/
def Supply.next : Supply → Except Fault (Value × Supply)
  | row (item :: rest) => .ok (item, .row rest)
  | single (some item) => .ok (item, .single none)
  | _ => .error .tooFewArguments

/-- Points the supply at the argument that a directive names. -/
def Supply.pick (arguments : Arguments) (key : Key) (supply : Supply) : Except Fault Supply :=
  match key, arguments with
  | .absent, _ => .ok supply
  | _, .row _ => .error .mappingRequired
  | .unclosed, _ => .error .unclosedKey
  | .named name, .mapping entries =>
    match entries.find? fun (key, _) => key.sameKey (.str name) with
    | some (_, item) => .ok (.single (some item))
    | none => .error (.unknownKey name)

/-! ## Widths and precisions -/

/-- Texts from this length on cannot be held. -/
def memory : Nat := 0x80000000

/-- The width, with a flag for a negative one, which means that the text goes to the left. -/
def takeWidth (amount : Amount) (supply : Supply) : Except Fault (Option Int × Supply) :=
  match amount with
  | .absent => .ok (none, supply)
  | .given n => .ok (some n, supply)
  | .tooBig => .error .widthTooBig
  | .fromArgument => do
    let (item, supply) ← supply.next
    match item.wholeNumber? with
    | none => .error .amountNotInteger
    | some n =>
      if n < -0x8000000000000000 || 0x8000000000000000 ≤ n then .error .widthOutOfRange else .ok (some n, supply)

/-- The precision. A negative one counts as zero. -/
def takePrecision (amount : Amount) (supply : Supply) : Except Fault (Option Nat × Supply) :=
  match amount with
  | .absent => .ok (none, supply)
  | .given n => .ok (some n, supply)
  | .tooBig => .error .precisionTooBig
  | .fromArgument => do
    let (item, supply) ← supply.next
    match item.wholeNumber? with
    | none => .error .amountNotInteger
    | some n =>
      if n < -0x80000000 || 0x80000000 ≤ n then .error .precisionOutOfRange else .ok (some n.toNat, supply)

/-! ## Conversions -/

/-- A converted argument: a sign, a mark of the base, and the rest. -/
structure Converted where
  sign : List Char := []
  base : List Char := []
  body : List Char
  /-- Whether zeros may fill the space before it. -/
  numeric : Bool

/-- The sign to write before a number. -/
def signFor (flags : Flags) (negative : Bool) : List Char :=
  if negative then ['-'] else if flags.sign then ['+'] else if flags.blank then [' '] else []

/-- The text of a value that may have none. -/
def shown (text : Except Value.TooLong String) : Except Fault (List Char) :=
  match text with
  | .ok text => .ok text.toList
  | .error _ => .error .integerTooLong

/-- A text cut to the precision. -/
def convertText (precision : Option Nat) (text : List Char) : Converted :=
  { body := match precision with
      | some n => text.take n
      | none => text
    numeric := false }

/-- A whole number in a base, with at least as many digits as the precision says. -/
def convertWhole (flags : Flags) (precision : Option Nat) (base : List Char) (digits : List Char)
    (negative : Bool) : Except Fault Converted :=
  let least := precision.getD 0
  if maxPrecision - 3 < least then .error .precisionTooLarge
  else if memory ≤ least then .error .outOfMemory
  else .ok {
    sign := signFor flags negative
    base := if flags.alternate then base else []
    body := List.replicate (least - digits.length) '0' ++ digits
    numeric := true }

/-- The number that a conversion to decimal digits writes: whole numbers, and the whole part of others. -/
def truncated (conversion : Char) (value : Value) : Except Fault Int :=
  match value.wholeNumber?, value with
  | some n, _ => .ok n
  | none, .float .nan => .error .nanNotInteger
  | none, .float x =>
    match x.truncate? with
    | some n => .ok n
    | none => .error .infinityNotInteger
  | none, value => .error (.realRequired conversion value.typeName)

/-- A number as a floating-point number. -/
def real (value : Value) : Except Fault Binary64 :=
  match value.wholeNumber?, value with
  | some n, _ =>
    match Binary64.ofInt? n with
    | some x => .ok x
    | none => .error .integerTooLargeForFloat
  | none, .float x => .ok x
  | none, value => .error (.floatRequired value.typeName)

/-- The ways to write a floating-point number. -/
inductive Style
  | scientific
  | fixed
  | general
deriving Repr, DecidableEq

/-- Floating-point numbers have no digits beyond this count, but for zeros. -/
def exactDigits : Nat := 1100

/-- The digits of a floating-point number without its sign. -/
def realDigits (way : Style) (alternate : Bool) (precision : Nat) (num den : Nat) : List Char :=
  match way with
  | .scientific =>
    (Decimal.atDigits num den (min (precision + 1) exactDigits)).scientific precision alternate 'e'
  | .fixed => (Decimal.atPlaces num den (min precision exactDigits)).positional precision alternate
  | .general =>
    let count := max precision 1
    let d := (Decimal.atDigits num den (min count exactDigits)).trimmed
    let places := fun (point : Int) => if alternate then (count - point).toNat else 0
    if d.point ≤ -4 || (count : Int) < d.point then d.scientific (places 1) alternate 'e'
    else d.positional (places d.point) alternate

/-- A floating-point number. -/
def convertReal (way : Style) (capital : Bool) (flags : Flags) (precision : Option Nat) (x : Binary64) :
    Except Fault Converted :=
  let places := precision.getD 6
  let cased := fun (text : List Char) => if capital then text.map Char.toUpper else text
  let converted := fun (negative : Bool) (text : List Char) =>
    { sign := signFor flags negative, body := cased text, numeric := true : Converted }
  match x with
  | .nan => .ok (converted false "nan".toList)
  | .infinity negative => .ok (converted negative "inf".toList)
  | .finite negative mantissa exponent =>
    if memory ≤ places then .error .outOfMemory
    else
      let (num, den) := Binary64.ratio mantissa exponent
      .ok (converted negative (realDigits way flags.alternate places num den))

/-- A single character, given as a text or by its code point. Texts hold no surrogates; the code point of one
gives the character zero. -/
def convertCharacter (value : Value) : Except Fault Converted :=
  match value, value.wholeNumber? with
  | .str text, _ =>
    match text.toList with
    | [c] => .ok { body := [c], numeric := false }
    | _ => .error .characterRequired
  | _, some n =>
    if n < 0 || 0x110000 ≤ n then .error .characterOutOfRange
    else .ok { body := [Char.ofNat n.toNat], numeric := false }
  | _, none => .error .characterRequired

/-- A whole number in octal or hexadecimal digits. -/
def convertBase (conversion mark : Char) (base : Nat) (capital : Bool) (flags : Flags)
    (precision : Option Nat) (value : Value) : Except Fault Converted :=
  match value.wholeNumber? with
  | none => .error (.integerRequired conversion value.typeName)
  | some n =>
    let digits := Nat.toDigits base n.natAbs
    convertWhole flags precision ['0', mark] (if capital then digits.map Char.toUpper else digits) (n < 0)

/-- Converts an argument. `index` is the place of the conversion in the template. -/
def convert (conversion : Char) (index : Nat) (flags : Flags) (precision : Option Nat) (value : Value) :
    Except Fault Converted :=
  match conversion with
  | 's' => (shown value.text).map (convertText precision)
  | 'r' => (shown value.literal).map (convertText precision)
  | 'a' => (shown value.asciiLiteral).map (convertText precision)
  | 'd' | 'i' | 'u' => do
    let n ← truncated conversion value
    let digits ← shown (Value.digits n.natAbs)
    convertWhole flags precision [] digits (n < 0)
  | 'o' => convertBase conversion 'o' 8 false flags precision value
  | 'x' => convertBase conversion 'x' 16 false flags precision value
  | 'X' => convertBase conversion 'X' 16 true flags precision value
  | 'e' => do convertReal .scientific false flags precision (← real value)
  | 'E' => do convertReal .scientific true flags precision (← real value)
  | 'f' => do convertReal .fixed false flags precision (← real value)
  | 'F' => do convertReal .fixed true flags precision (← real value)
  | 'g' => do convertReal .general false flags precision (← real value)
  | 'G' => do convertReal .general true flags precision (← real value)
  | 'c' => convertCharacter value
  | c => .error (.unsupported c index)

/-- Fills a converted argument up to a width. -/
def Converted.fill (converted : Converted) (left zero : Bool) (width : Nat) : Except Fault (List Char) :=
  let text := converted.sign ++ converted.base ++ converted.body
  let missing := width - text.length
  if memory ≤ width then .error .outOfMemory
  else if left then .ok (text ++ List.replicate missing ' ')
  else if zero && converted.numeric then
    .ok (converted.sign ++ converted.base ++ List.replicate missing '0' ++ converted.body)
  else .ok (List.replicate missing ' ' ++ text)

/-! ## Pieces -/

/-- Renders a directive. -/
def Directive.render (arguments : Arguments) (directive : Directive) (supply : Supply) :
    Except Fault (List Char × Supply) := do
  let supply ← supply.pick arguments directive.key
  let (width, supply) ← takeWidth directive.width supply
  let (precision, supply) ← takePrecision directive.precision supply
  match directive.conversion with
  | none => .error .incomplete
  | some (conversion, index) =>
    let (value, supply) ← supply.next
    let converted ← convert conversion index directive.flags precision value
    let left := directive.flags.left || width.any (· < 0)
    let text ← converted.fill left directive.flags.zero (width.getD 0).natAbs
    pure (text, supply)

/-- What must hold of the arguments after the last piece: none of a row is left. -/
def Supply.finish : Supply → Except Fault Unit
  | row (_ :: _) => .error .tooManyArguments
  | _ => .ok ()

/-- Renders pieces in order. -/
def renderPieces (arguments : Arguments) : List Piece → Supply → Except Fault (List Char)
  | [], supply => do
    supply.finish
    pure []
  | .plain text :: rest, supply => do
    let after ← renderPieces arguments rest supply
    pure (text ++ after)
  | .percent :: rest, supply => do
    let after ← renderPieces arguments rest supply
    pure ('%' :: after)
  | .directive directive :: rest, supply => do
    let (text, supply) ← directive.render arguments supply
    let after ← renderPieces arguments rest supply
    pure (text ++ after)

/-- The text of a template with its arguments. -/
def render (template : String) (arguments : Arguments) : Except Fault String := do
  let text ← renderPieces arguments (pieces template) arguments.supply
  pure (String.ofList text)

end Redaction.Percent

import Redaction.Pattern.Reader
import Redaction.Pattern.Syntax
import Redaction.Text.CharacterName
import Redaction.Text.Identifier
import Redaction.Text.Letter

/-!
# Reading search patterns

A search pattern is read from left to right, one mark after the other. Each open parenthesis is a frame
on a stack that collects the alternatives of its part; the first fault met refuses the pattern.

* `Pattern.Frame`: an open parenthesis with what has been read inside it.
* `Pattern.alternation`: alternatives as items, with common beginnings taken out and single
  characters gathered in a set.
* `Source.parse`: a whole pattern.
-/

namespace Redaction.Pattern

/-- What a parenthesis opens. -/
inductive Opener
  /-- The pattern as a whole, which no parenthesis opens. -/
  | whole
  | group (index : Option Nat) (on off : Flags)
  | atomic
  /-- A look ahead or behind; `outer` is the limit on group references outside it. -/
  | look (behind negated : Bool) (outer : Option Nat)
  /-- A choice by a group; `yes` is its first branch once that is complete. -/
  | test (group : Nat) (yes : Option (List Term))

/-- An open parenthesis: where it stands, the complete alternatives and the items of the current one,
the newest first in both. -/
structure Frame where
  opener : Opener
  start : Nat
  verbose : Bool
  done : List (List Term) := []
  items : List Term := []

/-- A pattern half read. -/
structure State where
  reader : Reader
  flags : Flags := {}
  groups : Array (Option Width) := #[none]
  names : List (String × Nat) := []
  /-- Inside a look behind: the number of groups there were before it. -/
  lookbehind : Option Nat := none
  /-- Groups that choices named by number, and where. -/
  tested : List (Nat × Nat) := []
  outer : List Frame := []
  frame : Frame

/-- Computations on a pattern half read. -/
abbrev Parse := StateT State (Except Refusal)

/-- A computation that only takes marks. -/
def reading {α : Type} (action : Read α) : Parse α := do
  let state ← get
  let (a, reader) ← action.run state.reader
  set { state with reader }
  return a

/-- The index of the next mark. -/
def here : Parse Nat := reading Reader.place

/-- Adds an item to the current alternative. -/
def addItem (term : Term) : Parse Unit :=
  modify fun state => { state with frame := { state.frame with items := term :: state.frame.items } }

/-! ## Sequences and alternatives -/

/-- A sequence with its plain parentheses removed. -/
def spliced (terms : List Term) : List Term :=
  terms.flatMap fun
    | .group none on off body => if on.isEmpty && off.isEmpty then body else [.group none on off body]
    | term => [term]

/-- The beginning that the first alternative shares with all others, and what is left of them. -/
def commonStart : List Term → List (List Term) → List Term × List (List Term)
  | [], others => ([], [] :: others)
  | term :: first, others =>
    if term.leaf?.isSome && others.all (fun other => (other.head?.bind Term.leaf?) = term.leaf?) then
      let (shared, left) := commonStart first (others.map List.tail)
      (term :: shared, left)
    else ([], (term :: first) :: others)

/-- The members that a one-character alternative adds to a set. -/
def members? : List Term → Option (List Member)
  | [.literal code] => some [.code code]
  | [.set false members] => some members
  | _ => none

/-- Alternatives as a sequence. -/
def alternation : List (List Term) → List Term
  | [] => []
  | [single] => single
  | first :: others =>
    let (shared, left) := commonStart first others
    match left.mapM members? with
    | some members => shared ++ [.set false members.flatten.eraseDups]
    | none => shared ++ [.branch left]

/-- The sequence of the current alternative. -/
def Frame.sequence (frame : Frame) : List Term :=
  spliced frame.items.reverse

/-- Everything read inside a parenthesis. -/
def Frame.body (frame : Frame) : List Term :=
  alternation (frame.done.reverse ++ [frame.sequence])

/-! ## Escapes -/

/-- An escape of a fixed number of hexadecimal digits that starts at `start`. -/
def hexEscape (letter : Char) (count start : Nat) : Read Nat := do
  let digits ← Reader.whileDigits isHexDigit count
  if digits.length = count then return ofDigits 16 digits
  else refuseAt (.incompleteEscape (String.ofList ('\\' :: letter :: digits))) start

/-- An escape by eight digits, which may write more than there are characters. -/
def longEscape (start : Nat) : Read Nat := do
  let digits ← Reader.whileDigits isHexDigit 8
  let written := String.ofList ('\\' :: 'U' :: digits)
  if digits.length = 8 then
    let code := ofDigits 16 digits
    if code ≤ 0x10FFFF then return code
    else if code < 0x80000000 then refuseAt (.badEscape written) start
    else throw (.limit .codeTooLarge)
  else refuseAt (.incompleteEscape written) start

/-- An escape by the name of a character. -/
def nameEscape (start : Nat) : Read Nat := do
  if ← Reader.accept '{' then
    let name := String.ofList (← Reader.until '}' "character name")
    match Text.CharacterName.code? name with
    | some code => return code
    | none => refuseAt (.undefinedCharacter name) start
  else refuseAt (.missingOpening '{') (← Reader.place)

/-- An octal escape whose first digit has been taken. -/
def octalEscape (digits : List Char) (start : Nat) : Read Nat := do
  let code := ofDigits 8 digits
  if code ≤ 0xFF then return code
  else refuseAt (.octalTooLarge (String.ofList ('\\' :: digits))) start

/-- The escapes that mean a single character inside and outside sets. -/
def sharedEscape? (c : Char) (start : Nat) : Option (Read Nat) :=
  match c with
  | 'x' => some (hexEscape 'x' 2 start)
  | 'u' => some (hexEscape 'u' 4 start)
  | 'U' => some (longEscape start)
  | 'N' => some (nameEscape start)
  | _ => none

/-- The class that an escape letter names. -/
def category? : Char → Option (Category × Bool)
  | 'd' => some (.digit, false)
  | 'D' => some (.digit, true)
  | 's' => some (.blank, false)
  | 'S' => some (.blank, true)
  | 'w' => some (.word, false)
  | 'W' => some (.word, true)
  | _ => none

/-- The condition that an escape letter names. -/
def anchor? : Char → Option Anchor
  | 'A' => some .textStart
  | 'b' => some .wordEdge
  | 'B' => some .notWordEdge
  | 'Z' => some .textEnd
  | _ => none

/-- A character that stands for itself after a backslash; letters and digits do not. -/
def plainEscape (c : Char) (start : Nat) : Read Nat :=
  if isAsciiLetter c || isDecimalDigit c then
    refuseAt (.badEscape (String.ofList ['\\', c])) start
  else return c.toNat

/-- The member that an escape inside a set means. -/
def setEscape (c : Char) (start : Nat) : Read Member := do
  match controlEscape? c, category? c, sharedEscape? c start with
  | some code, _, _ => return .code code
  | none, some (kind, negated), _ => return .category kind negated
  | none, none, some escape => return .code (← escape)
  | none, none, none =>
    if isOctalDigit c then
      let more ← Reader.whileDigits isOctalDigit 2
      return .code (← octalEscape (c :: more) start)
    else return .code (← plainEscape c start)

/-- Refuses a reference, from inside a look behind, to a group that is open or that the same look
behind defines. -/
def checkLookbehind (group : Nat) : Parse Unit := do
  let state ← get
  match state.lookbehind with
  | none => return
  | some before =>
    if (state.groups[group]?.join).isNone then refuseAt .openGroup (← here)
    else if before ≤ group then refuseAt .lookbehindGroup (← here)

/-- A reference by number, or an octal escape of three digits; `c` is its first digit. -/
def numberEscape (c : Char) (start : Nat) : Parse Term := do
  let second ← reading (Reader.whileDigits isDecimalDigit 1)
  let third ←
    if isOctalDigit c && !second.isEmpty && second.all isOctalDigit then
      reading (Reader.whileDigits isOctalDigit 1)
    else pure []
  let digits := c :: second ++ third
  if third.isEmpty then
    let group := ofDigits 10 digits
    let groups := (← get).groups
    if group < groups.size then
      if (groups[group]?.join).isNone then refuseAt .openGroup start
      checkLookbehind group
      return .groupRef group
    else refuseAt (.invalidGroup group) (start + 1)
  else return .literal (← reading (octalEscape digits start))

/-- The item that an escape outside sets means. -/
def escape (c : Char) (start : Nat) : Parse Term := do
  match anchor? c, category? c, controlEscape? c, sharedEscape? c start with
  | some anchor, _, _, _ => return .anchor anchor
  | none, some (kind, negated), _, _ => return .set false [.category kind negated]
  | none, none, some code, _ => return .literal code
  | none, none, none, some escape => return .literal (← reading escape)
  | none, none, none, none =>
    if c = '0' then
      let more ← reading (Reader.whileDigits isOctalDigit 2)
      return .literal (ofDigits 8 more)
    else if isDecimalDigit c then numberEscape c start
    else return .literal (← reading (plainEscape c start))

/-! ## Sets -/

/-- The member that a mark inside a set means. -/
def setMember (token : Token) (start : Nat) : Read Member :=
  match token with
  | .escaped c => setEscape c start
  | .plain c => return .code c.toNat
  | .lone => return .code 0x5C

/-- The members of a set up to its closing bracket, the newest first; each round takes a mark. -/
def setMembers (opening : Nat) : (rounds : Nat) → List Member → Read (List Member)
  | 0, members => return members
  | rounds + 1, members => do
    let start ← Reader.place
    match ← Reader.next with
    | none => refuseAt .unterminatedSet opening
    | some token =>
      if token = .plain ']' && !members.isEmpty then return members
      let first ← setMember token start
      if ← Reader.accept '-' then
        let lastStart ← Reader.place
        match ← Reader.next with
        | none => refuseAt .unterminatedSet opening
        | some (.plain ']') => return .code 0x2D :: first :: members
        | some lastToken =>
          let last ← setMember lastToken lastStart
          let bad : Cause :=
            .badRange (String.ofList token.text) (String.ofList lastToken.text)
          let place := (← Reader.place) - (token.size + 1 + lastToken.size)
          match first, last with
          | .code a, .code b =>
            if b < a then refuseAt bad place
            else setMembers opening rounds (.range a b :: members)
          | _, _ => refuseAt bad place
      else setMembers opening rounds (first :: members)

/-- A set whose opening bracket stands at `opening` and has been taken. -/
def charSet (opening : Nat) : Read Term := do
  let negated ← Reader.accept '^'
  let members := (← setMembers opening ((← get).rest.length + 1) []).reverse.eraseDups
  match members, negated with
  | [.code code], true => return .notLiteral code
  | [.code code], false => return .literal code
  | _, _ => return .set negated members

/-! ## Repetition -/

/-- Repetition counts end before this one. -/
def maxRepeat : Nat := 4294967295

/-- A repetition count, if there are digits. -/
def repeatCount? (digits : List Char) : Except Refusal (Option Nat) :=
  if digits.isEmpty then return none
  else if Text.maxDigits < digits.length then throw (.limit (.numberTooLong digits.length))
  else
    let count := ofDigits 10 digits
    if maxRepeat ≤ count then throw (.limit .repetitionTooLarge) else return some count

/-- The bounds in braces; `none` if the brace opens no bounds and is an ordinary character, which
leaves the reader where it was. -/
def bounds? : Read (Option (Nat × Option Nat)) := do
  let saved ← get
  if (← Reader.peek) = some (.plain '}') then return none
  let lo ← Reader.whileDigits isDecimalDigit saved.rest.length
  let hi ← if ← Reader.accept ',' then Reader.whileDigits isDecimalDigit saved.rest.length else pure lo
  if ← Reader.accept '}' then
    let least := (← repeatCount? lo).getD 0
    let greatest ← repeatCount? hi
    match greatest with
    | some most => if most < least then refuseAt .emptyRepeatRange saved.position
    | none => pure ()
    return some (least, greatest)
  else
    set saved
    return none

/-- The bounds that a repetition mark gives, if it gives any. -/
def repeatBounds? : Char → Read (Option (Nat × Option Nat))
  | '?' => return some (0, some 1)
  | '*' => return some (0, none)
  | '+' => return some (1, none)
  | _ => bounds?

/-- The part that a repetition repeats: plain parentheses fall away. -/
def repeatBody : Term → List Term
  | .group none on off body => if on.isEmpty && off.isEmpty then body else [.group none on off body]
  | term => [term]

/-- The mark after a repetition that says how eagerly it repeats. -/
def readGreed : Read Greed := do
  match ← Reader.peek with
  | some (.plain '?') =>
    let _ ← Reader.next
    return .lazy
  | some (.plain '+') =>
    let _ ← Reader.next
    return .possessive
  | _ => return .greedy

/-- Repeats the last item as the mark `c` at `start` says. -/
def repetition (c : Char) (start : Nat) : Parse Unit := do
  match ← reading (repeatBounds? c) with
  | none => addItem (.literal c.toNat)
  | some (least, greatest) =>
    let state ← get
    match state.frame.items with
    | [] | .anchor _ :: _ => refuseAt .nothingToRepeat start
    | .repeated _ _ _ _ :: _ => refuseAt .multipleRepeat start
    | item :: items =>
      let greed ← reading readGreed
      let term := Term.repeated greed least greatest (repeatBody item)
      modify fun state => { state with frame := { state.frame with items := term :: items } }

/-! ## Flags in parentheses -/

/-- The letters that name flags; one of them is for patterns of bytes only. -/
def isFlagLetter (c : Char) : Bool :=
  c = 'L' || (Flags.ofLetter? c).isSome

/-- The cause for a mark that is no flag letter. -/
def notFlag (token : Token) (otherwise : Cause) : Cause :=
  match token with
  | .plain c => if Text.isLetter c.toNat then .unknownFlag else otherwise
  | _ => otherwise

/-- Turns on the flag of a letter; the next mark is at `position`. -/
def turnOn (letter : Char) (on : Flags) (position : Nat) : Except Refusal Flags :=
  match Flags.ofLetter? letter with
  | none => refuseAt .localeFlag position
  | some flag =>
    let on := on.union flag
    if (flag.ascii || flag.unicode) && on.ascii && on.unicode then
      refuseAt .incompatibleFlags position
    else return on

/-- The flags turned on by `letter` and the letters after it, and the mark that ends them. -/
def flagsOn (letter : Char) (on : Flags) (position : Nat) :
    List Token → Except Refusal (Flags × Char × Reader)
  | [] => do
    let _ ← turnOn letter on position
    refuseAt .missingFlagEnd position
  | token :: rest => do
    let on ← turnOn letter on position
    let reader ← Reader.ready ⟨rest, position + token.size⟩
    match token with
    | .plain c =>
      if c = ')' || c = '-' || c = ':' then return (on, c, reader)
      else if isFlagLetter c then flagsOn c on reader.position rest
      else refuseAt (notFlag token .missingFlagEnd) position
    | _ => refuseAt (notFlag token .missingFlagEnd) position

/-- Turns off the flag of a letter; the next mark is at `position`. -/
def turnOff (letter : Char) (off : Flags) (position : Nat) : Except Refusal Flags :=
  match Flags.ofLetter? letter with
  | none => refuseAt .typeFlagOff position
  | some flag =>
    if flag.ascii || flag.unicode then refuseAt .typeFlagOff position
    else return off.union flag

/-- The flags turned off by `letter` and the letters after it, up to the colon. -/
def flagsOff (letter : Char) (off : Flags) (position : Nat) :
    List Token → Except Refusal (Flags × Reader)
  | [] => do
    let _ ← turnOff letter off position
    refuseAt .missingColon position
  | token :: rest => do
    let off ← turnOff letter off position
    let reader ← Reader.ready ⟨rest, position + token.size⟩
    match token with
    | .plain c =>
      if c = ':' then return (off, reader)
      else if isFlagLetter c then flagsOff c off reader.position rest
      else refuseAt (notFlag token .missingColon) position
    | _ => refuseAt (notFlag token .missingColon) position

/-- Flags in a parenthesis. -/
inductive FlagGroup
  /-- Flags for the whole pattern. -/
  | forWhole (on : Flags)
  /-- Flags for the part that follows. -/
  | forPart (on off : Flags)

/-- The flags turned off after a minus sign that has been taken. -/
def flagsAfterMinus (on : Flags) : Read FlagGroup := do
  let start ← Reader.place
  match ← Reader.next with
  | none => refuseAt .missingFlag start
  | some token =>
    match token with
    | .plain c =>
      if isFlagLetter c then
        let reader ← get
        let (off, reader) ← flagsOff c {} reader.position reader.rest
        set reader
        let colon := reader.position - 1
        if off.template then refuseAt .globalFlagOff colon
        if !(on.inter off).isEmpty then refuseAt .flagOnAndOff colon
        return .forPart on off
      else refuseAt (notFlag token .missingFlag) start
    | _ => refuseAt (notFlag token .missingFlag) start

/-- Flags in a parenthesis, the first mark of which has been taken. -/
def flagGroup (c : Char) : Read FlagGroup := do
  if c = '-' then flagsAfterMinus {}
  else
    let reader ← get
    let (on, last, reader) ← flagsOn c {} reader.position reader.rest
    set reader
    if last = ')' then return .forWhole on
    else
      if on.template then refuseAt .globalFlagOn (reader.position - 1)
      if last = '-' then flagsAfterMinus on else return .forPart on {}

/-! ## Parentheses -/

/-- Opens a parenthesis that stands at `start`. -/
def openFrame (opener : Opener) (start : Nat) (verbose : Bool) : Parse Unit :=
  modify fun state =>
    { state with outer := state.frame :: state.outer, frame := { opener, start, verbose } }

/-- Opens a capturing group; `name` is its name, if it has one, which ended just before the next mark. -/
def openGroup (name : Option (List Char)) (start : Nat) : Parse Unit := do
  let state ← get
  let index := state.groups.size
  let state := { state with groups := state.groups.push none }
  match name with
  | none => set state
  | some name =>
    let written := String.ofList name
    match state.names.lookup written with
    | some earlier =>
      refuseAt (.redefinedGroup written index earlier) ((← here) - (name.length + 1))
    | none => set { state with names := state.names ++ [(written, index)] }
  openFrame (.group (some index) {} {}) start state.frame.verbose

/-- A group name up to its terminator, which has to be an identifier. -/
def groupName (terminator : Char) : Parse (List Char) := do
  let name ← reading (Reader.until terminator "group name")
  if Text.isIdentifier name then return name
  else refuseAt (.badNameCharacter (String.ofList name)) ((← here) - (name.length + 1))

/-- A reference to a group by its name. -/
def namedReference : Parse Unit := do
  let name ← groupName ')'
  let start := (← here) - (name.length + 1)
  let state ← get
  match state.names.lookup (String.ofList name) with
  | none => refuseAt (.unknownGroupName (String.ofList name)) start
  | some group =>
    if (state.groups[group]?.join).isNone then refuseAt .openGroup start
    checkLookbehind group
    addItem (.groupRef group)

/-- The group that a choice asks about. -/
def testedGroup : Parse Nat := do
  let name ← reading (Reader.until ')' "group name")
  let start := (← here) - (name.length + 1)
  if Text.isIdentifier name then
    match (← get).names.lookup (String.ofList name) with
    | none => refuseAt (.unknownGroupName (String.ofList name)) start
    | some group => return group
  else
    match groupNumber? name with
    | none => refuseAt (.badNameCharacter (String.ofList name)) start
    | some group =>
      if group = 0 then refuseAt .badGroupNumber start
      if maxGroups ≤ group then refuseAt (.invalidGroup group) start
      modify fun state =>
        if (state.tested.lookup group).isSome then state
        else { state with tested := state.tested ++ [(group, start)] }
      return group

/-- Opens a look ahead or behind. -/
def openLook (behind negated : Bool) (start : Nat) : Parse Unit := do
  let state ← get
  if behind && state.lookbehind.isNone then
    set { state with lookbehind := some state.groups.size }
  openFrame (.look behind negated state.lookbehind) start state.frame.verbose

/-- Applies flags for the whole pattern, which must come before everything else. -/
def applyGlobal (on : Flags) (start : Nat) : Parse Unit := do
  let state ← get
  let flags := state.flags.union on
  match state.frame.opener, state.frame.done, state.frame.items with
  | .whole, [], [] => set { state with flags, frame := { state.frame with verbose := flags.verbose } }
  | _, _, _ => refuseAt .lateGlobalFlags start

/-- What follows an opening parenthesis, a question mark and `P`. -/
def extension (start : Nat) : Parse Unit := do
  match ← reading Reader.next with
  | none => refuseAt .unexpectedEnd (← here)
  | some (.plain '<') =>
    let name ← groupName '>'
    openGroup (some name) start
  | some (.plain '=') => namedReference
  | some token => refuseAt (.unknownExtension (String.ofList ('P' :: token.text))) (start + 1)

/-- What follows an opening parenthesis, a question mark and `<`. -/
def lookbehind (start : Nat) : Parse Unit := do
  match ← reading Reader.next with
  | none => refuseAt .unexpectedEnd (← here)
  | some (.plain '=') => openLook true false start
  | some (.plain '!') => openLook true true start
  | some token => refuseAt (.unknownExtension (String.ofList ('<' :: token.text))) (start + 1)

/-- What follows an opening parenthesis that stands at `start`. -/
def parenthesis (start : Nat) : Parse Unit := do
  let verbose := (← get).frame.verbose
  if ← reading (Reader.accept '?') then
    match ← reading Reader.next with
    | none => refuseAt .unexpectedEnd (← here)
    | some token =>
      match token with
      | .plain 'P' => extension start
      | .plain ':' => openFrame (.group none {} {}) start verbose
      | .plain '#' => reading (Reader.skipComment start)
      | .plain '=' => openLook false false start
      | .plain '!' => openLook false true start
      | .plain '<' => lookbehind start
      | .plain '(' =>
        let group ← testedGroup
        checkLookbehind group
        openFrame (.test group none) start verbose
      | .plain '>' => openFrame .atomic start verbose
      | .plain c =>
        if isFlagLetter c || c = '-' then
          match ← reading (flagGroup c) with
          | .forWhole on => applyGlobal on start
          | .forPart on off =>
            openFrame (.group none on off) start ((verbose || on.verbose) && !off.verbose)
        else refuseAt (.unknownExtension (String.ofList token.text)) (start + 1)
      | _ => refuseAt (.unknownExtension (String.ofList token.text)) (start + 1)
  else openGroup none start

/-- The item that a closed parenthesis makes, and the state after it. -/
def closeFrame : Parse Unit := do
  let _ ← reading Reader.next
  let state ← get
  let frame := state.frame
  match state.outer with
  | [] => return
  | parent :: outer =>
    set { state with outer, frame := parent }
    match frame.opener with
    | .whole => return
    | .group index on off =>
      let body := frame.body
      match index with
      | none => pure ()
      | some index =>
        modify fun state =>
          { state with
            groups := state.groups.set! index (some (seqWidth state.groups body).capped) }
      addItem (.group index on off body)
    | .atomic => addItem (.atomic frame.body)
    | .look behind negated limit =>
      if behind then modify fun state => { state with lookbehind := limit }
      addItem (.look behind negated frame.body)
    | .test group none => addItem (.groupTest group frame.sequence none)
    | .test group (some yes) => addItem (.groupTest group yes (some frame.sequence))

/-- Starts the next alternative. A choice by a group has two at most. -/
def nextBranch : Parse Unit := do
  let place ← here
  let frame := (← get).frame
  match frame.opener with
  | .test _ (some _) => refuseAt .thirdBranch place
  | .test group none =>
    let _ ← reading Reader.next
    modify fun state =>
      { state with
        frame := { frame with opener := .test group (some frame.sequence), items := [] } }
  | .whole =>
    let _ ← reading Reader.next
    modify fun state =>
      { state with
        frame := { frame with
          verbose := state.flags.verbose, done := frame.sequence :: frame.done, items := [] } }
  | _ =>
    let _ ← reading Reader.next
    modify fun state =>
      { state with frame := { frame with done := frame.sequence :: frame.done, items := [] } }

/-! ## Whole patterns -/

/-- Reads one item. -/
def item : Parse Unit := do
  let start ← here
  match ← reading Reader.next with
  | none => return
  | some (.escaped c) => addItem (← escape c start)
  | some .lone => return
  | some (.plain c) =>
    let verbose := (← get).frame.verbose
    if verbose && Text.isAsciiBlank c.toNat then return
    else if verbose && c = '#' then reading Reader.skipLine
    else if c = '[' then addItem (← reading (charSet start))
    else if c = '?' || c = '*' || c = '+' || c = '{' then repetition c start
    else if c = '.' then addItem .anyChar
    else if c = '(' then parenthesis start
    else if c = '^' then addItem (.anchor .lineStart)
    else if c = '$' then addItem (.anchor .lineEnd)
    else addItem (.literal c.toNat)

/-- Reads items until the marks end or a parenthesis closes that was never opened. Each round takes
at least one mark. -/
def items : (rounds : Nat) → Parse Unit
  | 0 => return
  | rounds + 1 => do
    match ← reading Reader.peek with
    | none => return
    | some (.plain ')') =>
      if (← get).outer.isEmpty then return
      closeFrame
      items rounds
    | some (.plain '|') =>
      nextBranch
      items rounds
    | some _ =>
      item
      items rounds

/-- The flags in force: characters are Unicode unless the pattern asks for ASCII. -/
def settled (flags : Flags) : Except Refusal Flags :=
  if !flags.ascii then return { flags with unicode := true }
  else if flags.unicode then throw (.limit .clashingTypeFlags)
  else return flags

/-- The pattern of a state in which all marks have been read. -/
def finished (state : State) : Except Refusal Source := do
  if !state.outer.isEmpty then refuseAt .unterminatedSubpattern state.frame.start
  let flags ← settled state.flags
  if !state.reader.rest.isEmpty then refuseAt .unbalancedParenthesis state.reader.position
  match state.tested.find? (fun (group, _) => state.groups.size ≤ group) with
  | some (group, place) => refuseAt (.invalidGroup group) place
  | none => return ⟨state.frame.body, flags, state.groups, state.names⟩

/-- Reads a whole pattern. -/
def Source.parse (text : String) : Except Refusal Source := do
  let reader ← Reader.ofText text
  let frame : Frame := { opener := .whole, start := 0, verbose := false }
  let ((), state) ← (items (reader.rest.length + 1)).run { reader, frame }
  finished state

end Redaction.Pattern

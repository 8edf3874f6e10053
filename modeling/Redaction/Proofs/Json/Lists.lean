import Redaction.Proofs.Json.Reading
import Redaction.Value.Text
import Mathlib.Tactic.Set

/-!
# Reading what was written: words and lists

A list is written with a comma and a space between its items.  An item does not know where it ends: a number
goes on as long as there are digits.  So an item is readable if it is taken whole in front of whatever can
stand behind it in a list, and a list of readable items is readable again.

* `Ends` — what can stand behind an item.
* `Readable` — bytes that are taken as a value in front of that.
* **`readable_array`**, **`readable_object`** — lists, without and with names.
* `readWithin_of_readable` — a readable text as a whole.
-/

namespace Redaction.Json

open Redaction.Text

section
variable {β : Type} {index : Nat} {bytes more rest : List UInt8} {b : β}

/-! ## Tokens and words -/

lemma takes_peekToken (spaces : List UInt8) (hspaces : ∀ c ∈ spaces, isSpace c = true)
    (hrest : ∀ c ∈ rest.head?, isSpace c = false) : Takes peekToken index spaces rest.head? rest := by
  have htake : (spaces ++ rest).takeWhile isSpace = spaces := takeWhile_append_eq hspaces hrest
  rw [Takes, peekToken, StateT.run_bind]
  show peek.run ⟨(spaces ++ rest).drop ((spaces ++ rest).takeWhile isSpace).length, _⟩ = _
  rw [htake, List.drop_left]
  rfl

/-- A byte that is no space is seen where it stands. -/
lemma Takes.tokenAt {c : UInt8} {further : Option UInt8 → Read β} (hhead : bytes.head? = some c)
    (hspace : isSpace c = false) (h : Takes (further (some c)) index bytes b rest) :
    Takes (peekToken >>= further) index bytes b rest := by
  obtain ⟨tail, rfl⟩ := List.head?_eq_some_iff.mp hhead
  have hpeek : Takes peekToken index [] (some c) (c :: tail ++ rest) :=
    takes_peekToken [] (by simp) (by simp [hspace])
  exact Takes.bind hpeek h

lemma Takes.token {c : UInt8} {further : Option UInt8 → Read β} (hspace : isSpace c = false)
    (h : Takes (further (some c)) index (c :: bytes) b rest) :
    Takes (peekToken >>= further) index (c :: bytes) b rest :=
  Takes.tokenAt rfl hspace h

/-- The byte after a space is seen, and the space is taken. -/
lemma Takes.spacedToken {c : UInt8} {further : Option UInt8 → Read β} (hspace : isSpace c = false)
    (h : Takes (further (some c)) (index + 1) (c :: bytes) b rest) :
    Takes (peekToken >>= further) index (byte ' ' :: c :: bytes) b rest := by
  have hpeek : Takes peekToken index [byte ' '] (some c) (c :: bytes ++ rest) :=
    takes_peekToken [byte ' '] (List.forall_mem_singleton.mpr rfl) (by simp [hspace])
  exact Takes.bind hpeek h

/-- What starts with a token may stand after a space. -/
lemma Takes.afterSpace {c : UInt8} {further : Option UInt8 → Read β} (hspace : isSpace c = false)
    (h : Takes (peekToken >>= further) (index + 1) (c :: bytes) b rest) :
    Takes (peekToken >>= further) index (byte ' ' :: c :: bytes) b rest := by
  have hpeek : peekToken.run ⟨c :: bytes ++ rest, index + 1⟩ = .ok (some c, ⟨c :: bytes ++ rest, index + 1⟩) :=
    takes_peekToken [] (by simp) (by simp [hspace])
  rw [Takes, StateT.run_bind, hpeek] at h
  exact Takes.spacedToken hspace h

lemma takes_word (c : Char) (letters : List Char) (index : Nat) (rest : List UInt8) :
    Takes (word (c :: letters)) index (byte c :: letters.map byte) () rest := by
  rw [word]
  refine Takes.skip ?_
  simp only [List.tail_cons]
  induction letters generalizing index with
  | nil => exact .pure _
  | cons c letters ih =>
      rw [List.forIn_cons, bind_assoc, bind_assoc]
      refine Takes.peek ?_
      simp only [List.map_cons, List.cons_append, List.head?_cons, if_true, bind_assoc, pure_bind]
      exact Takes.skip (ih _)

/-! ## Items -/

/-- What can stand behind an item of a list: nothing, a comma, or what closes the list. -/
def Ends (rest : List UInt8) : Prop :=
  ∀ c ∈ rest.head?, c = byte ',' ∨ c = byte ']' ∨ c = byte '\x7d'

lemma ends_cons {c : UInt8} (h : c = byte ',' ∨ c = byte ']' ∨ c = byte '\x7d') (rest : List UInt8) :
    Ends (c :: rest) := by
  intro c' hc'
  rw [List.head?_cons] at hc'
  exact Option.some.inj hc' ▸ h

/-- Bytes that can stand as an item: they are taken as a value, and do not start as white space or as the end
of an array does. -/
structure Readable (digits depth : Nat) (bytes : List UInt8) (value : Json) : Prop where
  start : ∃ c tail, bytes = c :: tail ∧ isSpace c = false ∧ c ≠ byte ']'
  taken : ∀ index rest, Ends rest → Takes (Json.value digits depth) index bytes value rest

/-- A value that is no list is readable if it is taken by its first byte. -/
lemma readable_scalar {digits depth : Nat} {c : UInt8} {v : Json} (hspace : isSpace c = false)
    (hclosing : c ≠ byte ']') (hbracket : c ≠ byte '[') (hbrace : c ≠ byte '\x7b')
    (h : ∀ index rest, Ends rest → Takes (scalar digits c) index (c :: bytes) v rest) :
    Readable digits depth (c :: bytes) v := by
  refine ⟨⟨c, bytes, rfl, hspace, hclosing⟩, fun index rest hrest => ?_⟩
  rw [value.eq_def]
  refine Takes.token hspace ?_
  simp only [hbracket, hbrace, if_false]
  exact h index rest hrest

/-- A text in quotes is readable. -/
lemma readable_quoted (digits depth : Nat) (text : String) :
    Readable digits depth (Utf8.encode (quoted text)) (.string text) := by
  have htaken := takes_quotedText text
  rw [encode_quoted] at htaken ⊢
  refine readable_scalar (by decide) (by decide) (by decide) (by decide) fun index rest _ => ?_
  rw [scalar, if_pos rfl]
  exact Takes.last (htaken index rest) (.pure _)

/-- What follows the first item of a list: the others, each after a comma and a space. -/
def furtherBytes (items : List (List UInt8)) : List UInt8 :=
  items.flatMap fun item => byte ',' :: byte ' ' :: item

variable {digits depth rounds : Nat}

/-- Behind an item of a list stands another one, or what closes the list. -/
lemma ends_furtherBytes (items : List (List UInt8)) {c : UInt8} (hc : c = byte ']' ∨ c = byte '\x7d') :
    Ends (furtherBytes items ++ [c] ++ rest) := by
  cases items with
  | nil => exact ends_cons (.inr hc) rest
  | cons item items => exact ends_cons (.inl rfl) _

lemma takes_moreItems (items : List (List UInt8 × Json))
    (h : ∀ item ∈ items, Readable digits depth item.1 item.2) (taken : List Json)
    (hrounds : items.length < rounds) :
    Takes (moreItems (value digits depth) rounds taken) index (furtherBytes (items.map (·.1)) ++ [byte ']'])
      (taken.reverse ++ items.map (·.2)) rest := by
  induction items generalizing rounds taken index with
  | nil =>
      obtain ⟨rounds, rfl⟩ := Nat.exists_eq_add_one_of_ne_zero (Nat.ne_zero_of_lt hrounds)
      rw [moreItems]
      refine Takes.token (by decide) (Takes.skip ?_)
      rw [List.map_nil, List.append_nil]
      exact .pure _
  | cons item items ih =>
      obtain ⟨rounds, rfl⟩ := Nat.exists_eq_add_one_of_ne_zero (Nat.ne_zero_of_lt hrounds)
      obtain ⟨⟨c, tail, hbytes, hspace, hclosing⟩, htaken⟩ := h item List.mem_cons_self
      have hmore : furtherBytes ((item :: items).map (·.1)) ++ [byte ']']
          = byte ',' :: byte ' ' :: (item.1 ++ (furtherBytes (items.map (·.1)) ++ [byte ']'])) := by
        simp [furtherBytes]
      have hends : Ends (furtherBytes (items.map (·.1)) ++ [byte ']'] ++ rest) :=
        ends_furtherBytes _ (.inl rfl)
      have hrest : Takes (moreItems (value digits depth) rounds (item.2 :: taken)) (index + 1 + 1 + item.1.length)
          (furtherBytes (items.map (·.1)) ++ [byte ']']) ((item.2 :: taken).reverse ++ items.map (·.2)) rest :=
        ih (fun item hitem => h item (List.mem_cons_of_mem _ hitem)) _ (Nat.lt_of_succ_lt_succ hrounds)
      rw [List.reverse_cons, List.append_assoc, List.singleton_append, ← List.map_cons] at hrest
      have hitem : Takes (do
          let next ← value digits depth
          moreItems (value digits depth) rounds (next :: taken)) (index + 1 + 1)
          (item.1 ++ (furtherBytes (items.map (·.1)) ++ [byte ']']))
          (taken.reverse ++ (item :: items).map (·.2)) rest := Takes.bind (htaken _ _ hends) hrest
      rw [moreItems, hmore]
      refine Takes.token (by decide) (Takes.skip ?_)
      rw [hbytes] at hitem ⊢
      refine Takes.spacedToken hspace ?_
      simp only [hclosing, if_false]
      exact hitem

/-! ## Arrays -/

/-- Items as they stand in a list. -/
def listBytes : List (List UInt8) → List UInt8
  | [] => []
  | first :: items => first ++ furtherBytes items

/-- There are rounds enough for the items that are left. -/
lemma length_lt_rounds (items : List (List UInt8)) (c : UInt8) (rest : List UInt8) :
    items.length < (furtherBytes items ++ [c] ++ rest).length + 1 := by
  have hle : items.length ≤ (furtherBytes items).length := by
    induction items with
    | nil => exact Nat.le_refl _
    | cons item items ih =>
        rw [furtherBytes, List.flatMap_cons, List.length_append, ← furtherBytes]
        simp only [List.length_cons]
        omega
  simp only [List.length_append]
  omega

/-- **An array** of items that are readable is readable a level further up. -/
theorem readable_array (items : List (List UInt8 × Json))
    (h : ∀ item ∈ items, Readable digits depth item.1 item.2) :
    Readable digits (depth + 1) (byte '[' :: (listBytes (items.map (·.1)) ++ [byte ']']))
      (.array (items.map (·.2))) := by
  refine ⟨⟨_, _, rfl, by decide, by decide⟩, fun index rest _ => ?_⟩
  rw [value]
  refine Takes.token (by decide) ?_
  simp only [if_true]
  refine Takes.skip ?_
  cases items with
  | nil => exact Takes.token (by decide) (Takes.skip (.pure _))
  | cons item items =>
      obtain ⟨⟨c, tail, hbytes, hspace, hclosing⟩, htaken⟩ := h item List.mem_cons_self
      have hends : Ends (furtherBytes (items.map (·.1)) ++ [byte ']'] ++ rest) :=
        ends_furtherBytes _ (.inl rfl)
      have hrounds : items.length < (furtherBytes (items.map (·.1)) ++ [byte ']'] ++ rest).length + 1 := by
        have hlt := length_lt_rounds (items.map (·.1)) (byte ']') rest
        rwa [List.length_map] at hlt
      have hmore : Takes (do
          let cursor ← get
          return array (← moreItems (value digits depth) (cursor.rest.length + 1) [item.2]))
          (index + 1 + item.1.length) (furtherBytes (items.map (·.1)) ++ [byte ']'])
          (.array ((item :: items).map (·.2))) rest := by
        refine Takes.get ?_
        exact Takes.last (takes_moreItems items (fun item hitem => h item (List.mem_cons_of_mem _ hitem)) [item.2]
          hrounds) (.pure _)
      have hitem : Takes (do
          let head ← value digits depth
          let cursor ← get
          return array (← moreItems (value digits depth) (cursor.rest.length + 1) [head])) (index + 1)
          (item.1 ++ (furtherBytes (items.map (·.1)) ++ [byte ']'])) (.array ((item :: items).map (·.2))) rest :=
        Takes.bind (htaken _ _ hends) hmore
      rw [List.map_cons, listBytes, List.append_assoc]
      rw [hbytes] at hitem ⊢
      refine Takes.token hspace ?_
      simp only [hclosing, if_false]
      exact hitem

/-! ## Objects -/

/-- A member of an object: its name in quotes, and its value after a colon and a space. -/
def memberBytes (name : String) (bytes : List UInt8) : List UInt8 :=
  Utf8.encode (quoted name) ++ byte ':' :: byte ' ' :: bytes

lemma takes_memberName (name : String) :
    Takes memberName index (Utf8.encode (quoted name) ++ [byte ':']) name rest := by
  rw [memberName]
  exact Takes.bind (takes_quotedText name _ _) (Takes.token (by decide) (Takes.skip (.pure _)))

/-- A value may stand after a space. -/
lemma Readable.afterSpace {v : Json} (h : Readable digits depth bytes v) (hrest : Ends rest) :
    Takes (value digits depth) index (byte ' ' :: bytes) v rest := by
  obtain ⟨⟨c, tail, rfl, hspace, -⟩, htaken⟩ := h
  have hvalue := htaken (index + 1) rest hrest
  rw [value.eq_def] at hvalue ⊢
  exact hvalue.afterSpace hspace

/-- Members of an object by name, with the bytes of their values and what these are read as. -/
abbrev Member := String × List UInt8 × Json

lemma takes_moreMembers (members : List Member)
    (h : ∀ member ∈ members, Readable digits depth member.2.1 member.2.2) (taken : List (String × Json))
    (hrounds : members.length < rounds) :
    Takes (moreMembers (value digits depth) rounds taken) index
      (furtherBytes (members.map fun member => memberBytes member.1 member.2.1) ++ [byte '\x7d'])
      (taken.reverse ++ members.map fun member => (member.1, member.2.2)) rest := by
  induction members generalizing rounds taken index with
  | nil =>
      obtain ⟨rounds, rfl⟩ := Nat.exists_eq_add_one_of_ne_zero (Nat.ne_zero_of_lt hrounds)
      rw [moreMembers]
      refine Takes.token (by decide) (Takes.skip ?_)
      rw [List.map_nil, List.append_nil]
      exact .pure _
  | cons member members ih =>
      obtain ⟨rounds, rfl⟩ := Nat.exists_eq_add_one_of_ne_zero (Nat.ne_zero_of_lt hrounds)
      obtain ⟨name, bytes, v⟩ := member
      have hv : Readable digits depth bytes v := h _ List.mem_cons_self
      have hends : Ends (furtherBytes (members.map fun member => memberBytes member.1 member.2.1)
          ++ [byte '\x7d'] ++ rest) := ends_furtherBytes _ (.inr rfl)
      have hout : taken.reverse ++ ((name, bytes, v) :: members).map (fun member => (member.1, member.2.2))
          = ((name, v) :: taken).reverse ++ members.map fun member => (member.1, member.2.2) := by
        simp
      have hmember : ∀ index, Takes (do
          let name ← memberName
          let next ← value digits depth
          moreMembers (value digits depth) rounds ((name, next) :: taken)) index
          (Utf8.encode (quoted name) ++ [byte ':'] ++ (byte ' ' :: bytes
            ++ (furtherBytes (members.map fun member => memberBytes member.1 member.2.1) ++ [byte '\x7d'])))
          (taken.reverse ++ ((name, bytes, v) :: members).map fun member => (member.1, member.2.2)) rest := by
        intro index
        rw [hout]
        refine Takes.bind (takes_memberName name) (Takes.bind (hv.afterSpace hends) ?_)
        exact ih (fun member hmember => h member (List.mem_cons_of_mem _ hmember)) _
          (Nat.lt_of_succ_lt_succ hrounds)
      have hbytes : furtherBytes (((name, bytes, v) :: members).map fun member => memberBytes member.1 member.2.1)
            ++ [byte '\x7d']
          = byte ',' :: byte ' ' :: (Utf8.encode (quoted name) ++ [byte ':'] ++ (byte ' ' :: bytes
            ++ (furtherBytes (members.map fun member => memberBytes member.1 member.2.1) ++ [byte '\x7d']))) := by
        simp [furtherBytes, memberBytes]
      rw [hbytes, moreMembers]
      refine Takes.token (by decide) (Takes.skip ?_)
      rw [encode_quoted] at hmember ⊢
      exact Takes.spacedToken (by decide) (hmember _)

/-- **An object** of members whose values are readable is readable a level further up. -/
theorem readable_object (members : List Member)
    (h : ∀ member ∈ members, Readable digits depth member.2.1 member.2.2) :
    Readable digits (depth + 1)
      (byte '\x7b' :: (listBytes (members.map fun member => memberBytes member.1 member.2.1) ++ [byte '\x7d']))
      (.object (members.map fun member => (member.1, member.2.2))) := by
  refine ⟨⟨_, _, rfl, by decide, by decide⟩, fun index rest _ => ?_⟩
  rw [value]
  refine Takes.token (by decide) ?_
  have hbracket : byte '\x7b' ≠ byte '[' := by decide
  simp only [hbracket, if_false, if_true]
  refine Takes.skip ?_
  cases members with
  | nil => exact Takes.token (by decide) (Takes.skip (.pure _))
  | cons member members =>
      obtain ⟨name, bytes, v⟩ := member
      obtain ⟨⟨c, tail, hbytes, hspace, -⟩, htaken⟩ : Readable digits depth bytes v := h _ List.mem_cons_self
      set further := members.map fun member => memberBytes member.1 member.2.1
      have hends : Ends (furtherBytes further ++ [byte '\x7d'] ++ rest) := ends_furtherBytes _ (.inr rfl)
      have hrounds : members.length < (furtherBytes further ++ [byte '\x7d'] ++ rest).length + 1 := by
        have hlt := length_lt_rounds further (byte '\x7d') rest
        rwa [List.length_map] at hlt
      have hmore : ∀ index, Takes (do
          let cursor ← get
          return object (← moreMembers (value digits depth) (cursor.rest.length + 1) [(name, v)])) index
          (furtherBytes further ++ [byte '\x7d'])
          (.object (((name, bytes, v) :: members).map fun member => (member.1, member.2.2))) rest := by
        intro index
        refine Takes.get ?_
        exact Takes.last (takes_moreMembers members
          (fun member hmember => h member (List.mem_cons_of_mem _ hmember)) [(name, v)] hrounds) (.pure _)
      have hvalue : ∀ index, Takes (do
          let head ← value digits depth
          let cursor ← get
          return object (← moreMembers (value digits depth) (cursor.rest.length + 1) [(name, head)])) index
          (bytes ++ (furtherBytes further ++ [byte '\x7d']))
          (.object (((name, bytes, v) :: members).map fun member => (member.1, member.2.2))) rest :=
        fun index => Takes.bind (htaken _ _ hends) (hmore _)
      have hlist : listBytes (((name, bytes, v) :: members).map fun member => memberBytes member.1 member.2.1)
            ++ [byte '\x7d']
          = Utf8.encode (quoted name) ++ [byte ':']
            ++ byte ' ' :: (bytes ++ (furtherBytes further ++ [byte '\x7d'])) := by
        rw [List.map_cons, listBytes, memberBytes]
        simp [further]
      have hhead : (Utf8.encode (quoted name) ++ [byte ':']
          ++ byte ' ' :: (bytes ++ (furtherBytes further ++ [byte '\x7d']))).head? = some (byte '"') := by
        rw [encode_quoted]
        rfl
      have hbrace : byte '"' ≠ byte '\x7d' := by decide
      rw [hlist]
      refine Takes.tokenAt hhead (by decide) ?_
      simp only [hbrace, if_false, if_true]
      rw [hbytes] at hvalue ⊢
      exact Takes.bind (takes_memberName name) (Takes.spacedToken hspace (hvalue _))

/-! ## Texts as a whole -/

/-- **A readable text** is read as a whole. -/
theorem readWithin_of_readable {v : Json} (h : Readable digits depth bytes v) :
    readWithin ⟨digits, depth⟩ bytes = .ok v := by
  have hdocument : Takes (document ⟨digits, depth⟩) 0 (bytes ++ []) v [] := by
    rw [document]
    refine Takes.bind (h.taken 0 _ fun c hc => by simp at hc) ?_
    exact Takes.bind (takes_peekToken [] (by simp) (by simp)) (.pure _)
  rw [List.append_nil, Takes, List.append_nil] at hdocument
  rw [readWithin, hdocument]

lemma encode_append (first second : String) :
    Utf8.encode (first ++ second) = Utf8.encode first ++ Utf8.encode second := by
  rw [Utf8.encode_eq, Utf8.encode_eq, Utf8.encode_eq, String.toList_append, List.flatMap_append]

lemma encode_listed (texts : List String) :
    Utf8.encode (Value.listed texts) = listBytes (texts.map Utf8.encode) := by
  cases texts with
  | nil => exact Utf8.encode_eq_nil_iff.mpr rfl
  | cons text texts =>
      have hcomma : Utf8.encode ", " = [byte ',', byte ' '] := by
        rw [Utf8.encode_eq]
        rfl
      rw [List.map_cons, listBytes, Value.listed]
      induction texts generalizing text with
      | nil => rw [String.intercalate_singleton, List.map_nil, furtherBytes, List.flatMap_nil, List.append_nil]
      | cons next texts ih =>
          rw [String.intercalate_cons_cons, encode_append, encode_append, ih next, hcomma]
          simp [furtherBytes]

end

end Redaction.Json

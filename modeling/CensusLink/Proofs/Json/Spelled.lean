import CensusLink.Proofs.Json.Documents
import CensusLink.Proofs.Json.Tokens
import Mathlib.Data.List.DropRight

/-!
Texts that spell a value. Blanks may stand before every value, key and mark, and the members of an
object stand in the order in which the value has them. What the printers write spells the value that
they write, and a text that spells a value is read as the draft of that value, up to where the
spelling ends. Binary numbers have spellings too, but are not among those spoken of here.
-/
namespace CensusLink

namespace Json

mutual
/-- All numbers in the value are whole. -/
def isExact : Json → Bool
  | .number (.real _) => false
  | .array items => isExactItems items
  | .object members => isExactMembers members
  | _ => true

def isExactItems : List Json → Bool
  | [] => true
  | j :: rest => isExact j && isExactItems rest

def isExactMembers : List (String × Json) → Bool
  | [] => true
  | (_, j) :: rest => isExact j && isExactMembers rest
end

mutual
/-- A text spells a value of whole numbers and leaves a rest. -/
def Spells : Json → List Char → List Char → Prop
  | .null, cs, rest => Draft.skipBlanks cs = 'n' :: 'u' :: 'l' :: 'l' :: rest
  | .bool true, cs, rest => Draft.skipBlanks cs = 't' :: 'r' :: 'u' :: 'e' :: rest
  | .bool false, cs, rest => Draft.skipBlanks cs = 'f' :: 'a' :: 'l' :: 's' :: 'e' :: rest
  | .number (.whole n _), cs, rest =>
    Draft.skipBlanks cs = (toString n).toList ++ rest ∧ Numeral.Ends rest
  | .number (.real _), _, _ => False
  | .string s, cs, rest => Draft.skipBlanks cs = writeString s rest
  | .array [], cs, rest =>
    ∃ inner, Draft.skipBlanks cs = '[' :: inner ∧ Draft.skipBlanks inner = ']' :: rest
  | .array (j :: items), cs, rest =>
    ∃ inner next, Draft.skipBlanks cs = '[' :: inner ∧ Spells j inner next ∧
      SpellsItems items next rest
  | .object [], cs, rest =>
    ∃ inner, Draft.skipBlanks cs = '{' :: inner ∧ Draft.skipBlanks inner = '}' :: rest
  | .object ((k, j) :: members), cs, rest =>
    ∃ inner mark value next, Draft.skipBlanks cs = '{' :: inner ∧
      Draft.skipBlanks inner = writeString k mark ∧ Draft.skipBlanks mark = ':' :: value ∧
      Spells j value next ∧ SpellsMembers members next rest

/-- A text spells the items behind one item, and the end of the array. -/
def SpellsItems : List Json → List Char → List Char → Prop
  | [], cs, rest => Draft.skipBlanks cs = ']' :: rest
  | j :: items, cs, rest =>
    ∃ inner next, Draft.skipBlanks cs = ',' :: inner ∧ Spells j inner next ∧
      SpellsItems items next rest

/-- A text spells the members behind one member, and the end of the object. -/
def SpellsMembers : List (String × Json) → List Char → List Char → Prop
  | [], cs, rest => Draft.skipBlanks cs = '}' :: rest
  | (k, j) :: members, cs, rest =>
    ∃ inner mark value next, Draft.skipBlanks cs = ',' :: inner ∧
      Draft.skipBlanks inner = writeString k mark ∧ Draft.skipBlanks mark = ':' :: value ∧
      Spells j value next ∧ SpellsMembers members next rest
end

end Json

namespace Draft

theorem skipBlanks_cons {c : Char} (h : isBlank c = false) (cs : List Char) :
    skipBlanks (c :: cs) = c :: cs := List.dropWhile_cons_of_neg (by simp [h])

theorem skipBlanks_skipBlanks (cs : List Char) : skipBlanks (skipBlanks cs) = skipBlanks cs :=
  List.dropWhile_idempotent _ _

theorem length_skipBlanks_le (cs : List Char) : (skipBlanks cs).length ≤ cs.length :=
  (List.dropWhile_sublist _).length_le

theorem skipBlanks_newLine (level : Nat) (cs : List Char) :
    skipBlanks (Json.newLine level cs) = skipBlanks cs := by
  have blanks : ∀ n, skipBlanks (List.replicate n ' ' ++ cs) = skipBlanks cs := by
    intro n
    induction n with
    | zero => rfl
    | succ n ih => exact ih
  exact blanks (2 * level)

end Draft

namespace Json

open Draft (skipBlanks)

variable {cs ds rest : List Char}

/-- Blanks before a value are no part of it. -/
theorem Spells.congr : ∀ {j : Json}, j.Spells cs rest → skipBlanks ds = skipBlanks cs →
    j.Spells ds rest
  | .null, h, eq => eq.trans h
  | .bool true, h, eq => eq.trans h
  | .bool false, h, eq => eq.trans h
  | .number (.whole _ _), ⟨h, ends⟩, eq => ⟨eq.trans h, ends⟩
  | .string _, h, eq => eq.trans h
  | .array [], ⟨inner, h, more⟩, eq => ⟨inner, eq.trans h, more⟩
  | .array (_ :: _), ⟨inner, next, h, more⟩, eq => ⟨inner, next, eq.trans h, more⟩
  | .object [], ⟨inner, h, more⟩, eq => ⟨inner, eq.trans h, more⟩
  | .object ((_, _) :: _), ⟨inner, mark, value, next, h, more⟩, eq =>
    ⟨inner, mark, value, next, eq.trans h, more⟩

/-- A number begins with no blank. -/
theorem skipBlanks_toString (n : Int) (rest : List Char) :
    skipBlanks ((toString n).toList ++ rest) = (toString n).toList ++ rest := by
  obtain ⟨c, ds, eq, head⟩ := Numeral.exists_toString_eq_cons n
  refine eq ▸ Draft.skipBlanks_cons ?_ (ds ++ rest)
  rcases Bool.or_eq_true_iff.1 head with minus | digit
  · rw [beq_iff_eq.1 minus]
    rfl
  · simp only [Draft.isBlank, Bool.or_eq_false_iff, beq_eq_false_iff_ne]
    refine ⟨⟨⟨?_, ?_⟩, ?_⟩, ?_⟩ <;> rintro rfl <;> exact absurd digit (by decide)

/-- A value begins with a character that does not end an array. -/
theorem Spells.exists_head : ∀ {j : Json}, j.Spells cs rest →
    ∃ c ds, skipBlanks cs = c :: ds ∧ c ≠ ']'
  | .null, h => ⟨_, _, h, by decide⟩
  | .bool true, h => ⟨_, _, h, by decide⟩
  | .bool false, h => ⟨_, _, h, by decide⟩
  | .number (.whole n _), ⟨h, _⟩ => by
    obtain ⟨c, ds, eq, head⟩ := Numeral.exists_toString_eq_cons n
    refine ⟨c, ds ++ rest, by rw [h, eq, List.cons_append], ?_⟩
    rintro rfl
    exact absurd head (by decide)
  | .string _, h => ⟨_, _, h, by decide⟩
  | .array [], ⟨_, h, _⟩ => ⟨_, _, h, by decide⟩
  | .array (_ :: _), ⟨_, _, h, _⟩ => ⟨_, _, h, by decide⟩
  | .object [], ⟨_, h, _⟩ => ⟨_, _, h, by decide⟩
  | .object ((_, _) :: _), ⟨_, _, _, _, h, _⟩ => ⟨_, _, h, by decide⟩

theorem length_lt_of_skipBlanks {c : Char} (h : skipBlanks cs = c :: ds) :
    ds.length < cs.length := by
  have le := Draft.length_skipBlanks_le cs
  rw [h, List.length_cons] at le
  exact le

theorem length_lt_writeString (s : String) (rest : List Char) :
    rest.length + 1 < (writeString s rest).length := by
  have chars : ∀ cs : List Char, rest.length < (writeChars cs rest).length := by
    intro cs
    induction cs with
    | nil => exact Nat.lt_succ_self _
    | cons c cs ih =>
      rw [writeChars, List.length_append]
      omega
  exact Nat.succ_lt_succ (chars s.toList)

mutual
/-- A spelling is not empty. -/
theorem Spells.length_lt : ∀ {j : Json} {cs rest : List Char}, j.Spells cs rest →
    rest.length < cs.length
  | .null, _, _, h => by
    have := length_lt_of_skipBlanks h
    simp only [List.length_cons] at this
    omega
  | .bool true, _, _, h => by
    have := length_lt_of_skipBlanks h
    simp only [List.length_cons] at this
    omega
  | .bool false, _, _, h => by
    have := length_lt_of_skipBlanks h
    simp only [List.length_cons] at this
    omega
  | .number (.whole n _), _, _, ⟨h, _⟩ => by
    obtain ⟨c, ds, eq, _⟩ := Numeral.exists_toString_eq_cons n
    rw [eq, List.cons_append] at h
    have := length_lt_of_skipBlanks h
    simp only [List.length_append] at this
    omega
  | .string s, _, rest, h => by
    have := length_lt_of_skipBlanks h
    have := length_lt_writeString s rest
    simp only [writeString, List.length_cons] at this
    omega
  | .array [], _, _, ⟨_, h, close⟩ => by
    have := length_lt_of_skipBlanks h
    have := length_lt_of_skipBlanks close
    omega
  | .array (_ :: _), _, _, ⟨_, _, h, item, items⟩ => by
    have := length_lt_of_skipBlanks h
    have := item.length_lt
    have := SpellsItems.length_lt items
    omega
  | .object [], _, _, ⟨_, h, close⟩ => by
    have := length_lt_of_skipBlanks h
    have := length_lt_of_skipBlanks close
    omega
  | .object ((k, _) :: _), _, _, ⟨inner, mark, _, _, h, key, colon, value, members⟩ => by
    have := length_lt_of_skipBlanks h
    have := Draft.length_skipBlanks_le inner
    have := key ▸ length_lt_writeString k mark
    have := length_lt_of_skipBlanks colon
    have := value.length_lt
    have := SpellsMembers.length_lt members
    omega

theorem SpellsItems.length_lt : ∀ {items : List Json} {cs rest : List Char},
    SpellsItems items cs rest → rest.length < cs.length
  | [], _, _, h => length_lt_of_skipBlanks h
  | _ :: _, _, _, ⟨_, _, h, item, items⟩ => by
    have := length_lt_of_skipBlanks h
    have := item.length_lt
    have := SpellsItems.length_lt items
    omega

theorem SpellsMembers.length_lt : ∀ {members : List (String × Json)} {cs rest : List Char},
    SpellsMembers members cs rest → rest.length < cs.length
  | [], _, _, h => length_lt_of_skipBlanks h
  | (k, _) :: _, _, _, ⟨inner, mark, _, _, h, key, colon, value, members⟩ => by
    have := length_lt_of_skipBlanks h
    have := Draft.length_skipBlanks_le inner
    have := key ▸ length_lt_writeString k mark
    have := length_lt_of_skipBlanks colon
    have := value.length_lt
    have := SpellsMembers.length_lt members
    omega
end

end Json

namespace Draft

open Json

variable {cs ds inner rest : List Char} {c : Char}

theorem readWord_append (opening : Char) (value : Draft) (word rest : List Char) :
    readWord opening value word (word ++ rest) = (value, some rest) := by
  induction word with
  | nil => cases rest <;> rfl
  | cons w word ih => simp [readWord, ih]

theorem readValue_number (fuel : Nat) (h : skipBlanks cs = c :: ds)
    (head : (c == '-' || c.isDigit) = true) : readValue (fuel + 1) cs = readNumber (c :: ds) := by
  have other : ∀ d, (d == '-' || d.isDigit) = false → c ≠ d := by
    rintro d no rfl
    exact absurd (head.symm.trans no) (by decide)
  rw [readValue, h]
  split
  case h_1 eq => cases eq
  case h_8 eq =>
    cases eq
    exact if_pos head
  all_goals
    rename_i eq
    exact absurd (List.cons.inj eq).1 (other _ rfl)

theorem readValue_items (fuel : Nat) (h : skipBlanks cs = '[' :: inner)
    (item : skipBlanks inner = c :: ds) (ne : c ≠ ']') :
    readValue (fuel + 1) cs =
      (.array (readItems fuel (skipBlanks inner)).1 (readItems fuel (skipBlanks inner)).2.1,
        (readItems fuel (skipBlanks inner)).2.2) := by
  rw [readValue, h]
  simp only [item]
  split
  case h_1 eq => cases eq
  case h_2 eq => exact absurd (List.cons.inj eq).1 ne
  case h_3 => rfl

theorem readValue_members (fuel : Nat) (h : skipBlanks cs = '{' :: inner)
    (key : skipBlanks inner = '"' :: ds) :
    readValue (fuel + 1) cs =
      (.object (readMembers fuel ds).1 (readMembers fuel ds).2.1, (readMembers fuel ds).2.2) := by
  simp only [readValue, h, key]

theorem readItems_more {fuel : Nat} {d : Draft} {next : List Char}
    (first : readValue fuel cs = (d, some next)) (comma : skipBlanks next = ',' :: inner)
    (item : skipBlanks inner = c :: ds) (ne : c ≠ ']') :
    readItems (fuel + 1) cs =
      (d :: (readItems fuel (skipBlanks inner)).1, (readItems fuel (skipBlanks inner)).2) := by
  rw [readItems, first]
  simp only [comma, item]
  split
  case h_1 eq => cases eq
  case h_2 eq => exact absurd (List.cons.inj eq).1 ne
  case h_3 => rfl

theorem readMembers_more (k : String) {fuel : Nat} {d : Draft} {mark text next : List Char}
    (colon : skipBlanks mark = ':' :: text) (first : readValue fuel text = (d, some next))
    (comma : skipBlanks next = ',' :: inner) (key : skipBlanks inner = '"' :: ds) :
    readMembers (fuel + 1) (writeChars k.toList mark) =
      ((.ok k, d) :: (readMembers fuel ds).1, (readMembers fuel ds).2) := by
  simp only [readMembers, Spelling.read_toList, colon, first, comma, key]

mutual
/-- A text that spells a value is read as its draft, up to where the spelling ends. -/
theorem readValue_of_spells : ∀ {j : Json} {cs rest : List Char} {fuel : Nat}, j.Spells cs rest →
    2 * cs.length ≤ fuel + 2 * rest.length + 2 → readValue (fuel + 1) cs = (ofJson j, some rest)
  | .null, _, rest, _, h, _ => by
    simp only [readValue, show skipBlanks _ = _ from h]
    exact readWord_append 'n' .null ['u', 'l', 'l'] rest
  | .bool true, _, rest, _, h, _ => by
    simp only [readValue, show skipBlanks _ = _ from h]
    exact readWord_append 't' (.bool true) ['r', 'u', 'e'] rest
  | .bool false, _, rest, _, h, _ => by
    simp only [readValue, show skipBlanks _ = _ from h]
    exact readWord_append 'f' (.bool false) ['a', 'l', 's', 'e'] rest
  | .number (.whole n fits), _, rest, fuel, ⟨h, ends⟩, _ => by
    obtain ⟨c, ds, eq, head⟩ := Numeral.exists_toString_eq_cons n
    have number := readNumber_toString fits ends
    rw [eq, List.cons_append] at h number
    exact (readValue_number fuel h head).trans number
  | .string s, _, rest, _, h, _ => by
    simp only [readValue, show skipBlanks _ = _ from h, writeString]
    exact readString_writeChars s rest
  | .array [], _, _, _, ⟨_, h, close⟩, _ => by
    simp only [readValue, h, close]
    rfl
  | .array (j :: items), cs, rest, fuel, ⟨inner, next, h, item, more⟩, room => by
    obtain ⟨c, ds, head, ne⟩ := item.exists_head
    have lt := length_lt_of_skipBlanks h
    have lt' := item.length_lt
    have lt'' := SpellsItems.length_lt more
    obtain ⟨steps, rfl⟩ := Nat.exists_eq_add_of_le (show 2 ≤ fuel by omega)
    have le := length_skipBlanks_le inner
    have first : readValue (steps + 1) (skipBlanks inner) = (ofJson j, some next) :=
      readValue_of_spells (item.congr (skipBlanks_skipBlanks _)) (by omega)
    have all := readItems_of_spells first more (by omega)
    rw [Nat.add_comm 2, readValue_items _ h head ne, all]
    rfl
  | .object [], _, _, _, ⟨_, h, close⟩, _ => by
    simp only [readValue, h, close]
    rfl
  | .object ((k, j) :: members), cs, rest, fuel,
      ⟨inner, mark, text, next, h, key, colon, value, more⟩, room => by
    have lt := length_lt_of_skipBlanks h
    have le := length_skipBlanks_le inner
    have lt' := key ▸ length_lt_writeString k mark
    have lt'' := length_lt_of_skipBlanks colon
    have less := value.length_lt
    have less' := SpellsMembers.length_lt more
    obtain ⟨steps, rfl⟩ := Nat.exists_eq_add_of_le (show 2 ≤ fuel by omega)
    have first : readValue (steps + 1) text = (ofJson j, some next) :=
      readValue_of_spells value (by omega)
    have all := readMembers_of_spells k first more (by omega) colon
    rw [Nat.add_comm 2, readValue_members _ h key, all]
    rfl

/-- What spells the items behind one that is read is read as their drafts. -/
theorem readItems_of_spells : ∀ {items : List Json} {d : Draft} {cs next rest : List Char}
    {fuel : Nat}, readValue (fuel + 1) cs = (d, some next) → SpellsItems items next rest →
      2 * next.length ≤ fuel + 2 * rest.length + 2 →
        readItems (fuel + 2) cs = (d :: ofItems items, .closed, some rest)
  | [], _, _, next, _, _, first, close, _ => by
    simp only [readItems, first, show skipBlanks next = _ from close]
    rfl
  | j :: items, d, cs, next, rest, fuel, first, ⟨inner, after, comma, item, more⟩, room => by
    obtain ⟨c, ds, head, ne⟩ := item.exists_head
    have lt := length_lt_of_skipBlanks comma
    have less := item.length_lt
    have less' := SpellsItems.length_lt more
    obtain ⟨steps, rfl⟩ := Nat.exists_eq_add_of_le (show 1 ≤ fuel by omega)
    have le := length_skipBlanks_le inner
    have second : readValue (steps + 1) (skipBlanks inner) = (ofJson j, some after) :=
      readValue_of_spells (item.congr (skipBlanks_skipBlanks _)) (by omega)
    have others := readItems_of_spells second more (by omega)
    rw [Nat.add_comm 1] at first ⊢
    rw [readItems_more first comma head ne, others]
    rfl

/-- What spells the members behind one that is read is read as their drafts. -/
theorem readMembers_of_spells : ∀ {members : List (String × Json)} (k : String) {d : Draft}
    {mark cs next rest : List Char} {fuel : Nat}, readValue (fuel + 1) cs = (d, some next) →
      SpellsMembers members next rest → 2 * next.length ≤ fuel + 2 * rest.length + 2 →
        skipBlanks mark = ':' :: cs →
          readMembers (fuel + 2) (writeChars k.toList mark) =
            ((.ok k, d) :: ofMembers members, .closed, some rest)
  | [], k, _, mark, _, next, _, _, first, close, _, colon => by
    simp only [readMembers, Spelling.read_toList, colon, first,
      show skipBlanks next = _ from close]
    rfl
  | (l, j) :: members, k, d, mark, cs, next, rest, fuel, first,
      ⟨inner, mark', text, after, comma, key, colon', value, more⟩, room, colon => by
    have lt := length_lt_of_skipBlanks comma
    have le := length_skipBlanks_le inner
    have lt' := key ▸ length_lt_writeString l mark'
    have lt'' := length_lt_of_skipBlanks colon'
    have less := value.length_lt
    have less' := SpellsMembers.length_lt more
    obtain ⟨steps, rfl⟩ := Nat.exists_eq_add_of_le (show 1 ≤ fuel by omega)
    have second : readValue (steps + 1) text = (ofJson j, some after) :=
      readValue_of_spells value (by omega)
    have others := readMembers_of_spells l second more (by omega) colon'
    rw [Nat.add_comm 1] at first ⊢
    rw [readMembers_more k colon first comma key, others]
    rfl
end

/-- A text that spells a value and no more is read as the draft of that value. -/
theorem ofText_of_spells {j : Json} (h : j.Spells cs rest) : ofText cs = (ofJson j, some rest) :=
  readValue_of_spells h (by omega)

end Draft

namespace Json

theorem ends_writePrettyItems (items : List Json) (level : Nat) (rest : List Char) :
    Numeral.Ends (writePrettyItems items level rest) := by
  cases items <;> exact Numeral.ends_cons (by decide) _

theorem ends_writePrettyMembers (members : List (String × Json)) (level : Nat)
    (rest : List Char) : Numeral.Ends (writePrettyMembers members level rest) := by
  cases members <;> exact Numeral.ends_cons (by decide) _

mutual
/-- What is written over several lines spells the value. -/
theorem spells_writePretty : ∀ {j : Json} (level : Nat) {rest : List Char}, j.isExact →
    Numeral.Ends rest → j.Spells (j.writePretty level rest) rest
  | .null, _, _, _, _ => rfl
  | .bool true, _, _, _, _ => rfl
  | .bool false, _, _, _, _ => rfl
  | .number (.whole n _), _, rest, _, ends => ⟨skipBlanks_toString n rest, ends⟩
  | .string _, _, _, _, _ => rfl
  | .array [], _, _, _, _ => ⟨_, rfl, rfl⟩
  | .array (j :: items), level, rest, exact, _ => by
    obtain ⟨item, others⟩ := Bool.and_eq_true_iff.1 exact
    have spells := spells_writePretty (level + 1) item (ends_writePrettyItems items level rest)
    exact ⟨_, _, rfl, spells.congr (Draft.skipBlanks_newLine _ _),
      spells_writePrettyItems level others⟩
  | .object [], _, _, _, _ => ⟨_, rfl, rfl⟩
  | .object ((k, j) :: members), level, rest, exact, _ => by
    obtain ⟨value, others⟩ := Bool.and_eq_true_iff.1 exact
    have spells := spells_writePretty (level + 1) value
      (ends_writePrettyMembers members level rest)
    exact ⟨_, _, _, _, rfl, Draft.skipBlanks_newLine _ _, rfl, spells.congr rfl,
      spells_writePrettyMembers level others⟩

theorem spells_writePrettyItems : ∀ {items : List Json} (level : Nat) {rest : List Char},
    isExactItems items → SpellsItems items (writePrettyItems items level rest) rest
  | [], _, _, _ => Draft.skipBlanks_newLine _ _
  | j :: items, level, rest, exact => by
    obtain ⟨item, others⟩ := Bool.and_eq_true_iff.1 exact
    have spells := spells_writePretty (level + 1) item (ends_writePrettyItems items level rest)
    exact ⟨_, _, rfl, spells.congr (Draft.skipBlanks_newLine _ _),
      spells_writePrettyItems level others⟩

theorem spells_writePrettyMembers : ∀ {members : List (String × Json)} (level : Nat)
    {rest : List Char}, isExactMembers members →
      SpellsMembers members (writePrettyMembers members level rest) rest
  | [], _, _, _ => Draft.skipBlanks_newLine _ _
  | (k, j) :: members, level, rest, exact => by
    obtain ⟨value, others⟩ := Bool.and_eq_true_iff.1 exact
    have spells := spells_writePretty (level + 1) value
      (ends_writePrettyMembers members level rest)
    exact ⟨_, _, _, _, rfl, Draft.skipBlanks_newLine _ _, rfl, spells.congr rfl,
      spells_writePrettyMembers level others⟩
end

/-- The text of a value is read as the draft of that value. -/
theorem ofText_pretty {j : Json} (exact : j.isExact) :
    Draft.ofText j.pretty.toList = (Draft.ofJson j, some []) := by
  rw [pretty, String.toList_ofList]
  exact Draft.ofText_of_spells (spells_writePretty 0 exact Numeral.ends_nil)

end Json
end CensusLink

import CensusLink.Uuid
import Mathlib.Algebra.Group.Nat.Defs

/-!
The written form of an identifier is read back as that identifier. Thirty-two digits stand for the
number itself, as it has at most so many, and the hyphens are put where they are looked for.
-/
namespace CensusLink

namespace Text

theorem hexValue?_hexDigit {n : Nat} (h : n < 16) : hexValue? (hexDigit n) = some n := by
  have all : ∀ n < 16, hexValue? (hexDigit n) = some n := by decide
  exact all n h

theorem utf8Size_hexDigit {n : Nat} (h : n < 16) : (hexDigit n).utf8Size = 1 := by
  have all : ∀ n < 16, (hexDigit n).utf8Size = 1 := by decide
  exact all n h

theorem length_hexDigits (count n : Nat) : (hexDigits count n).length = count := by
  induction count generalizing n with
  | zero => rfl
  | succ count ih => simp [hexDigits, ih]

theorem utf8Size_of_mem_hexDigits {count n : Nat} {c : Char} (h : c ∈ hexDigits count n) :
    c.utf8Size = 1 := by
  induction count generalizing n with
  | zero => cases h
  | succ count ih =>
    rcases List.mem_append.1 h with h | h
    · exact ih h
    · rw [List.mem_singleton.1 h]
      exact utf8Size_hexDigit (Nat.mod_lt _ (by decide))

theorem appendHex_append (n : Nat) (cs ds : List Char) :
    appendHex n (cs ++ ds) = (appendHex n cs).bind fun m => appendHex m ds := by
  induction cs generalizing n with
  | nil => rfl
  | cons c cs ih =>
    simp only [List.cons_append, appendHex, bind]
    cases hexValue? c with
    | none => rfl
    | some d => exact ih _

/-- Appending the last digits of a number to another. -/
theorem appendHex_hexDigits (m count n : Nat) :
    appendHex m (hexDigits count n) = some (m * 16 ^ count + n % 16 ^ count) := by
  induction count generalizing n with
  | zero => simp [hexDigits, appendHex, Nat.mod_one]
  | succ count ih =>
    have split : n % 16 ^ (count + 1) = 16 * (n / 16 % 16 ^ count) + n % 16 := by
      rw [Nat.pow_succ', Nat.mod_mul, Nat.add_comm]
    rw [hexDigits, appendHex_append, ih, Option.bind_some, appendHex,
      hexValue?_hexDigit (Nat.mod_lt _ (by decide)), split, Nat.pow_succ]
    simp only [bind, Option.bind, appendHex]
    have shift : m * (16 ^ count * 16) = 16 * (m * 16 ^ count) := by
      rw [← Nat.mul_assoc, Nat.mul_comm]
    rw [shift]
    congr 1
    omega

end Text

namespace Uuid

/-- Thirty-two digits stand for the whole number. -/
theorem appendHex_digits (u : Uuid) : Text.appendHex 0 u.digits = some u.value := by
  have small : u.value % 16 ^ 32 = u.value := Nat.mod_eq_of_lt u.fits
  rw [digits, Text.appendHex_hexDigits, small, Nat.zero_mul, Nat.zero_add]

theorem ofDigits_digits (u : Uuid) : ofDigits u.digits = some u := by
  rw [ofDigits, appendHex_digits]
  exact dif_pos u.fits

/-- The five groups are all of the digits. -/
theorem groups_eq (cs : List Char) : cs.take 8 ++ (cs.drop 8).take 4 ++ (cs.drop 12).take 4 ++
    (cs.drop 16).take 4 ++ cs.drop 20 = cs := by
  have parts : cs.take (8 + 4 + 4 + 4) ++ cs.drop 20 = cs := List.take_append_drop 20 cs
  simpa only [List.take_add, List.append_assoc] using parts

theorem length_grouped {cs : List Char} (h : cs.length = 32) : (grouped cs).length = 36 := by
  simp [grouped, h]

/-- The hyphens are found where they were put. -/
theorem ungrouped_grouped {cs : List Char} (h : cs.length = 32) :
    ungrouped (grouped cs) = some cs := by
  have hyphens : hyphenPlaces.all (fun i => (grouped cs)[i]? == some '-') = true := by
    simp [hyphenPlaces, grouped, List.getElem?_append, h]
  have groups : (grouped cs).take 8 ++ ((grouped cs).drop 9).take 4 ++
      ((grouped cs).drop 14).take 4 ++ ((grouped cs).drop 19).take 4 ++ (grouped cs).drop 24 =
      cs := by
    refine Eq.trans ?_ (groups_eq cs)
    simp [grouped, List.drop_append, List.drop_take, h]
  rw [ungrouped, length_grouped h, hyphens, groups]
  rfl

theorem byteCount_eq_length {cs : List Char} (h : ∀ c ∈ cs, c.utf8Size = 1) :
    Text.byteCount cs = cs.length := by
  suffices ∀ n, cs.foldl (fun n c => n + c.utf8Size) n = n + cs.length by
    rw [Text.byteCount, this, Nat.zero_add]
  induction cs with
  | nil => exact fun _ => rfl
  | cons c cs ih =>
    intro n
    rw [List.foldl_cons, h c (by simp), ih fun d hd => h d (by simp [hd])]
    simp [Nat.add_comm, Nat.add_left_comm]

theorem utf8Size_of_mem_grouped {cs : List Char} (h : ∀ c ∈ cs, c.utf8Size = 1) :
    ∀ c ∈ grouped cs, c.utf8Size = 1 := by
  intro c hc
  have or : c = '-' ∨ c ∈ cs := by
    simp only [grouped, List.mem_append, List.mem_cons] at hc
    rcases hc with (((hc | rfl | hc) | rfl | hc) | rfl | hc) | rfl | hc
    · exact .inr (List.mem_of_mem_take hc)
    · exact .inl rfl
    · exact .inr (List.mem_of_mem_drop (List.mem_of_mem_take hc))
    · exact .inl rfl
    · exact .inr (List.mem_of_mem_drop (List.mem_of_mem_take hc))
    · exact .inl rfl
    · exact .inr (List.mem_of_mem_drop (List.mem_of_mem_take hc))
    · exact .inl rfl
    · exact .inr (List.mem_of_mem_drop hc)
  rcases or with rfl | mem
  · rfl
  · exact h c mem

/-- The written form of an identifier is read back. -/
theorem ofText_text (u : Uuid) : ofText u.text = .ok u := by
  have length : u.digits.length = 32 := Text.length_hexDigits 32 u.value
  have ascii : ∀ c ∈ u.digits, c.utf8Size = 1 := fun _ => Text.utf8Size_of_mem_hexDigits
  have bytes : Text.byteCount (grouped u.digits) = 36 := by
    rw [byteCount_eq_length (utf8Size_of_mem_grouped ascii), length_grouped length]
  rw [ofText, text, String.toList_ofList]
  simp [read?, groups?, bytes, ungrouped_grouped length, ofDigits_digits]

end Uuid
end CensusLink

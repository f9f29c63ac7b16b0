import CensusLink.Json.Draft
import CensusLink.Json.Printer
import CensusLink.Proofs.Instant.RoundTrip
import CensusLink.Proofs.Uuid.RoundTrip

/-!
Numerals and strings of JSON texts are read back as they were written: a whole number up to the
first character that cannot belong to a numeral, a string up to its closing quote, whatever its
characters are.
-/
namespace CensusLink

namespace Numeral

open Instant (takeWhile_isDigit_append)

/-- What follows a numeral in a text: it can be no part of it. -/
def Ends (rest : List Char) : Prop :=
  ∀ c, rest.head? = some c → c.isDigit = false ∧ c ≠ '.' ∧ c ≠ 'e' ∧ c ≠ 'E'

theorem ends_nil : Ends [] := fun _ h => nomatch h

theorem ends_cons {c : Char} (h : c.isDigit = false ∧ c ≠ '.' ∧ c ≠ 'e' ∧ c ≠ 'E')
    (rest : List Char) : Ends (c :: rest) := by
  rintro d ⟨⟩
  exact h

theorem Ends.endsNumber {rest : List Char} (h : Ends rest) : Instant.EndsNumber rest :=
  fun c hc => (h c hc).1

theorem isDigit_of_mem_toDigits {n : Nat} {c : Char} (h : c ∈ Nat.toDigits 10 n) :
    c.isDigit = true := Nat.isDigit_of_mem_toDigits (by decide) (by decide) h

theorem exists_toDigits_eq_digit (n : Nat) :
    ∃ c cs, Nat.toDigits 10 n = c :: cs ∧ c.isDigit = true := by
  cases eq : Nat.toDigits 10 n with
  | nil => exact absurd eq Nat.toDigits_ne_nil
  | cons c cs => exact ⟨c, cs, rfl, isDigit_of_mem_toDigits (n := n) (by simp [eq])⟩

/-- The digits of a number that is not zero do not begin with a zero. -/
theorem exists_toDigits_eq_cons {n : Nat} (pos : 0 < n) :
    ∃ c cs, Nat.toDigits 10 n = c :: cs ∧ c ≠ '0' := by
  induction n using Nat.strongRecOn with
  | _ n ih =>
    by_cases small : n < 10
    · refine ⟨n.digitChar, [], Nat.toDigits_of_lt_base small, ?_⟩
      have all : ∀ m < 10, 0 < m → m.digitChar ≠ '0' := by decide
      exact all n small pos
    · obtain ⟨c, cs, eq, ne⟩ := ih (n / 10) (by omega) (by omega)
      exact ⟨c, cs ++ [(n % 10).digitChar],
        by rw [Nat.toDigits_of_base_le (by decide) (by omega), eq, List.cons_append], ne⟩

theorem dropWhile_isDigit_append {digits rest : List Char} (h : ∀ c ∈ digits, c.isDigit = true)
    (ends : Instant.EndsNumber rest) : (digits ++ rest).dropWhile Char.isDigit = rest := by
  rw [List.dropWhile_append_of_pos h]
  cases rest with
  | nil => rfl
  | cons c rest => exact List.dropWhile_cons_of_neg (by simp [ends c rfl])

theorem needDigit_toDigits (n : Nat) (rest : List Char) :
    needDigit (Nat.toDigits 10 n ++ rest) = .ok () := by
  obtain ⟨c, cs, eq, digit⟩ := exists_toDigits_eq_digit n
  simp [eq, needDigit, digit]

theorem scanWhole_toDigits (n : Nat) {rest : List Char} (ends : Ends rest) :
    scanWhole (Nat.toDigits 10 n ++ rest) = .ok (Nat.toDigits 10 n, rest) := by
  unfold scanWhole
  rw [needDigit_toDigits]
  rcases Nat.eq_zero_or_pos n with rfl | pos
  · cases rest with
    | nil => rfl
    | cons c rest => simp [bind, Except.bind, (ends c rfl).1]
  · obtain ⟨c, cs, eq, ne⟩ := exists_toDigits_eq_cons pos
    simp only [bind, Except.bind]
    split
    next head => simp [eq, ne] at head
    next =>
      rw [takeWhile_isDigit_append (fun _ => isDigit_of_mem_toDigits) ends.endsNumber,
        dropWhile_isDigit_append (fun _ => isDigit_of_mem_toDigits) ends.endsNumber]

theorem scanFraction_of_ends {rest : List Char} (ends : Ends rest) :
    scanFraction rest = .ok (false, [], rest) := by
  cases rest with
  | nil => rfl
  | cons c rest =>
    rw [scanFraction]
    rintro cs ⟨⟩
    exact (ends '.' rfl).2.1 rfl

theorem scanExponent_of_ends {rest : List Char} (ends : Ends rest) :
    scanExponent rest = .ok (none, rest) := by
  cases rest with
  | nil => rfl
  | cons c rest =>
    obtain ⟨_, _, small, large⟩ := ends c rfl
    simp [scanExponent, small, large]

/-- A whole number as its sign and its digits. -/
theorem toList_toString (n : Int) :
    (toString n).toList =
      if n < 0 then '-' :: Nat.toDigits 10 n.natAbs else Nat.toDigits 10 n.natAbs := by
  cases n with
  | ofNat m => exact (String.toList_ofList)
  | negSucc m =>
    rw [if_pos (Int.negSucc_lt_zero m)]
    change ("-" ++ Nat.repr (m + 1)).toList = _
    rw [String.toList_append]
    exact congrArg ('-' :: ·) String.toList_ofList

/-- A whole number begins with a minus sign or a digit. -/
theorem exists_toString_eq_cons (n : Int) :
    ∃ c cs, (toString n).toList = c :: cs ∧ (c == '-' || c.isDigit) = true := by
  rw [toList_toString]
  by_cases negative : n < 0
  · exact ⟨'-', _, if_pos negative, rfl⟩
  · rw [if_neg negative]
    obtain ⟨c, cs, eq, digit⟩ := exists_toDigits_eq_digit n.natAbs
    exact ⟨c, cs, eq, by simp [digit]⟩

theorem scan_toString (n : Int) {rest : List Char} (ends : Ends rest) :
    scan ((toString n).toList ++ rest) =
      .ok (⟨decide (n < 0), Nat.toDigits 10 n.natAbs, [], false, none⟩, rest) := by
  rw [toList_toString]
  by_cases negative : n < 0
  · rw [if_pos negative, List.cons_append]
    simp only [scan, scanWhole_toDigits _ ends, scanFraction_of_ends ends,
      scanExponent_of_ends ends, negative, decide_true, bind, Except.bind]
  · have unsigned : ∀ cs, Nat.toDigits 10 n.natAbs ++ rest ≠ '-' :: cs := by
      intro cs eq
      cases head : Nat.toDigits 10 n.natAbs with
      | nil => exact Nat.toDigits_ne_nil head
      | cons c ds =>
        rw [head] at eq
        have digit : c.isDigit = true := isDigit_of_mem_toDigits (n := n.natAbs) (by simp [head])
        rw [(List.cons.inj eq).1] at digit
        exact absurd digit (by decide)
    rw [if_neg negative]
    unfold scan
    split
    next sign cs eq =>
      split at eq
      next cs head => exact absurd head (unsigned cs)
      next =>
        cases eq
        simp only [scanWhole_toDigits _ ends, scanFraction_of_ends ends,
          scanExponent_of_ends ends, negative, decide_false, bind, Except.bind]

/-- Digits of a number of 64 bits are all taken in. -/
theorem absorb_eq_ofDigitChars {digits : List Char} {n : Nat}
    (fits : Nat.ofDigitChars 10 digits n < 18446744073709551616) :
    absorb n digits = (Nat.ofDigitChars 10 digits n, []) := by
  induction digits generalizing n with
  | nil => rfl
  | cons c digits ih =>
    have step : Nat.ofDigitChars 10 (c :: digits) n =
        Nat.ofDigitChars 10 digits (10 * n + Binary64.digitValue c) := rfl
    rw [step] at fits ⊢
    have le : 10 * n + Binary64.digitValue c ≤
        Nat.ofDigitChars 10 digits (10 * n + Binary64.digitValue c) := by
      generalize 10 * n + Binary64.digitValue c = m
      clear ih step fits
      induction digits generalizing m with
      | nil => exact Nat.le_refl m
      | cons d digits ih =>
        have grown : m ≤ 10 * m + (d.toNat - '0'.toNat) := by omega
        exact Nat.le_trans grown (ih _)
    simp only [absorb, if_pos (Nat.lt_of_le_of_lt le fits)]
    exact ih fits

theorem absorb_toDigits {n : Nat} (fits : n < 18446744073709551616) :
    absorb 0 (Nat.toDigits 10 n) = (n, []) := by
  rw [absorb_eq_ofDigitChars (by rwa [Nat.ofDigitChars_ten_toDigits]),
    Nat.ofDigitChars_ten_toDigits]

/-- The numeral of a whole number has that number as its value. -/
theorem value_toDigits {n : Int} (fits : -9223372036854775808 ≤ n ∧ n < 18446744073709551616) :
    value ⟨decide (n < 0), Nat.toDigits 10 n.natAbs, [], false, none⟩ = .ok (.whole n fits) := by
  simp only [value, absorb_toDigits (n := n.natAbs) (by omega), absorb, List.isEmpty_nil,
    Bool.not_true, Bool.or_self, Bool.false_eq_true, if_false]
  by_cases negative : n < 0
  · have range : 0 < n.natAbs ∧ n.natAbs ≤ 9223372036854775808 := by omega
    have back : -(n.natAbs : Int) = n := by omega
    simp only [negative, decide_true, wholeNumber, if_true, dif_pos range, back]
  · have range : n.natAbs < 18446744073709551616 := by omega
    have back : (n.natAbs : Int) = n := by omega
    simp only [negative, decide_false, wholeNumber, Bool.false_eq_true, if_false, dif_pos range,
      back]

end Numeral

theorem Draft.readNumber_toString {n : Int}
    (fits : -9223372036854775808 ≤ n ∧ n < 18446744073709551616) {rest : List Char}
    (ends : Numeral.Ends rest) :
    readNumber ((toString n).toList ++ rest) = (.number (.ok (.whole n fits)), some rest) := by
  simp only [readNumber, Numeral.scan_toString n ends, Numeral.value_toDigits fits]

namespace Spelling

theorem appendHex_control {n : Nat} (h : n < 0x20) :
    Text.appendHex 0 ['0', '0', Text.hexDigit (n / 16), Text.hexDigit (n % 16)] = some n := by
  have all : ∀ n < 0x20,
      Text.appendHex 0 ['0', '0', Text.hexDigit (n / 16), Text.hexDigit (n % 16)] = some n := by
    decide
  exact all n h

theorem unit_control {c : Char} (h : c.toNat < 0x20) (reversed : List Char) :
    (⟨reversed, none, none⟩ : Spelling).unit c.toNat = ⟨c :: reversed, none, none⟩ := by
  have lead : isLead c.toNat = false := by
    simp [isLead]
    omega
  have trail : isTrail c.toNat = false := by
    simp [isTrail]
    omega
  simp [Spelling.unit, lead, trail, push, settle]

/-- A character of a string is read back from its form inside quotes. -/
theorem read_escape (c : Char) (cs reversed : List Char) :
    read (Json.escape c ++ cs) ⟨reversed, none, none⟩ =
      read cs ⟨c :: reversed, none, none⟩ := by
  unfold Json.escape
  split
  case h_8 =>
    split
    next control =>
      simp only [List.cons_append, List.nil_append, read, appendHex_control control,
        unit_control control]
    next plain =>
      -- a character that stands for itself is neither a quote nor a backslash
      rw [List.singleton_append, read, if_neg plain]
      · rfl
      all_goals grind
  all_goals rfl

theorem read_writeChars (chars rest reversed : List Char) :
    read (Json.writeChars chars rest) ⟨reversed, none, none⟩ =
      .ok (.ok (String.ofList (reversed.reverse ++ chars)), rest) := by
  induction chars generalizing reversed with
  | nil => simp [Json.writeChars, read, text, settle]
  | cons c chars ih => simp [Json.writeChars, read_escape, ih]

/-- A string is read back, up to its closing quote. -/
theorem read_toList (s : String) (rest : List Char) :
    read (Json.writeChars s.toList rest) .empty = .ok (.ok s, rest) := by
  have read := read_writeChars s.toList rest []
  rwa [List.reverse_nil, List.nil_append, String.ofList_toList] at read

end Spelling

theorem Draft.readString_writeChars (s : String) (rest : List Char) :
    readString (Json.writeChars s.toList rest) = (.string (.ok s), some rest) := by
  rw [readString, Spelling.read_toList]

end CensusLink

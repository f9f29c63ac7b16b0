import CensusLink.Instant.Printer
import CensusLink.Instant.Reading
import Mathlib.Algebra.Group.Nat.Defs

/-!
The written form of an instant is read back as that instant: with any number of decimals, in a leap
second, and in every year that the calendar has.
-/
namespace CensusLink.Instant

theorem ok_bind {ε α β : Type} (a : α) (f : α → Except ε β) : (Except.ok a >>= f) = f a := rfl

/-- What follows a number in a text: it does not begin with a digit. -/
def EndsNumber (rest : List Char) : Prop := ∀ c, rest.head? = some c → c.isDigit = false

theorem isDigit_of_mem_padded {width n : Nat} {c : Char} (h : c ∈ padded width n) :
    c.isDigit = true := by
  rcases List.mem_append.1 h with h | h
  · rw [List.eq_of_mem_replicate h]
    rfl
  · exact Nat.isDigit_of_mem_toDigits (by decide) (by decide) h

theorem length_padded {width n : Nat} (pos : 0 < width) (h : n < 10 ^ width) :
    (padded width n).length = width := by
  have le : (Nat.toDigits 10 n).length ≤ width := (Nat.length_toDigits_le_iff (by decide) pos).2 h
  simp only [padded, List.length_append, List.length_replicate]
  omega

theorem padded_ne_nil (width n : Nat) : padded width n ≠ [] := by
  simp [padded, Nat.toDigits_ne_nil]

theorem digitsValue_padded (width n : Nat) : digitsValue (padded width n) = n := by
  have eq : digitsValue (padded width n) = Nat.ofDigitChars 10 (padded width n) 0 := by
    rw [Nat.ofDigitChars_eq_foldl]
    rfl
  rw [eq, padded, Nat.ofDigitChars_append, Nat.ofDigitChars_replicate_zero, Nat.mul_zero,
    Nat.ofDigitChars_ten_toDigits]

theorem takeWhile_isDigit_append {digits rest : List Char} (h : ∀ c ∈ digits, c.isDigit = true)
    (stop : EndsNumber rest) : (digits ++ rest).takeWhile Char.isDigit = digits := by
  rw [List.takeWhile_append_of_pos h]
  cases rest with
  | nil => simp
  | cons c rest =>
    have : c.isDigit = false := stop c rfl
    simp [this]

theorem leadingDigits_append {most : Option Nat} {digits rest : List Char}
    (h : ∀ c ∈ digits, c.isDigit = true) (fits : ∀ m ∈ most, digits.length ≤ m)
    (stop : EndsNumber rest) : leadingDigits most (digits ++ rest) = digits := by
  cases most with
  | none => exact takeWhile_isDigit_append h stop
  | some m =>
    have le := fits m rfl
    rw [leadingDigits, List.take_append, List.take_of_length_le le]
    refine takeWhile_isDigit_append h fun c hc => stop c ?_
    rw [List.head?_take] at hc
    split at hc
    · cases hc
    · exact hc

theorem readNumber_of_ne_nil {most : Option Nat} {cs : List Char} (h : cs ≠ []) :
    readNumber most cs =
      if (leadingDigits most cs).isEmpty then .error .invalid
      else if digitsValue (leadingDigits most cs) < 9223372036854775808 then
        .ok (digitsValue (leadingDigits most cs), cs.drop (leadingDigits most cs).length)
      else .error .outOfRange := by
  cases cs with
  | nil => exact absurd rfl h
  | cons c cs => rfl

/-- A written number is read as far as it goes. -/
theorem readNumber_padded {most : Option Nat} {width n : Nat} {rest : List Char}
    (fits : ∀ m ∈ most, (padded width n).length ≤ m) (small : n < 9223372036854775808)
    (stop : EndsNumber rest) : readNumber most (padded width n ++ rest) = .ok (n, rest) := by
  have digits : leadingDigits most (padded width n ++ rest) = padded width n :=
    leadingDigits_append (fun _ => isDigit_of_mem_padded) fits stop
  have some_digit := padded_ne_nil width n
  rw [readNumber_of_ne_nil (by simp [some_digit]), digits, digitsValue_padded, if_pos small,
    List.drop_left, if_neg (by simpa using some_digit)]

/-- The text begins with a digit, so a reader finds neither a sign nor a blank. -/
theorem exists_padded_eq_cons (width n : Nat) :
    ∃ c cs, padded width n = c :: cs ∧ c.isDigit = true := by
  cases eq : padded width n with
  | nil => exact absurd eq (padded_ne_nil width n)
  | cons c cs => exact ⟨c, cs, rfl, isDigit_of_mem_padded (eq ▸ List.mem_cons_self)⟩

theorem not_isBlank_of_isDigit {c : Char} (h : c.isDigit = true) : Text.isBlank c = false := by
  simp only [Char.isDigit, Bool.and_eq_true, decide_eq_true_eq] at h
  have low : 48 ≤ c.toNat := h.1
  have high : c.toNat ≤ 57 := h.2
  simp [Text.isBlank]
  omega

theorem trimStart_padded (width n : Nat) (rest : List Char) :
    Text.trimStart (padded width n ++ rest) = padded width n ++ rest := by
  obtain ⟨c, cs, eq, digit⟩ := exists_padded_eq_cons width n
  simp [eq, Text.trimStart, not_isBlank_of_isDigit digit]

theorem trimStart_cons {c : Char} (h : Text.isBlank c = false) (cs : List Char) :
    Text.trimStart (c :: cs) = c :: cs := by
  simp [Text.trimStart, h]

theorem readField_padded {low high n : Nat} {rest : List Char} (two : n < 100)
    (range : low ≤ n ∧ n ≤ high) (stop : EndsNumber rest) :
    readField low high (padded 2 n ++ rest) = .ok (n, rest) := by
  have fits : ∀ m ∈ some 2, (padded 2 n).length ≤ m := by
    rintro m ⟨⟩
    exact Nat.le_of_eq (length_padded (by decide) two)
  rw [readField, trimStart_padded, readNumber_padded fits (by omega) stop]
  simp [bind, Except.bind, range]

theorem readYear_minus {n : Nat} {c : Char} {cs rest : List Char} (minus : c = '-')
    (small : n < 2147483648) (read : readNumber none cs = .ok (n, rest)) :
    readYear (c :: cs) = .ok (-(n : Int), rest) := by
  have blank : Text.isBlank c = false := by
    rw [minus]
    decide
  rw [readYear, trimStart_cons blank]
  split
  next eq =>
    cases eq
    have range : -2147483648 ≤ -(n : Int) ∧ -(n : Int) < 2147483648 := by omega
    simp only [read, bind, Except.bind, if_pos range]
  next eq =>
    cases eq
    exact absurd minus (by decide)
  next other _ => exact absurd (by rw [minus]) (other cs)

theorem readYear_plus {n : Nat} {c : Char} {cs rest : List Char} (plus : c = '+')
    (small : n < 2147483648) (read : readNumber none cs = .ok (n, rest)) :
    readYear (c :: cs) = .ok ((n : Int), rest) := by
  have range : -2147483648 ≤ (n : Int) ∧ (n : Int) < 2147483648 := by omega
  have blank : Text.isBlank c = false := by
    rw [plus]
    decide
  rw [readYear, trimStart_cons blank]
  split
  next eq =>
    cases eq
    exact absurd plus (by decide)
  next eq =>
    cases eq
    rw [read, ok_bind]
    dsimp only
    rw [ok_bind]
    exact if_pos range
  next _ other => exact absurd (by rw [plus]) (other cs)

theorem readYear_of_isDigit {n : Nat} {c : Char} {cs rest : List Char} (digit : c.isDigit = true)
    (small : n < 2147483648) (read : readNumber (some 4) (c :: cs) = .ok (n, rest)) :
    readYear (c :: cs) = .ok ((n : Int), rest) := by
  have range : -2147483648 ≤ (n : Int) ∧ (n : Int) < 2147483648 := by omega
  rw [readYear, trimStart_cons (not_isBlank_of_isDigit digit)]
  split
  next eq =>
    cases eq
    cases digit
  next eq =>
    cases eq
    cases digit
  next =>
    rw [read, ok_bind]
    dsimp only
    rw [ok_bind]
    exact if_pos range

theorem readYear_writeYear {year : Int} {rest : List Char} (low : Calendar.firstYear ≤ year)
    (high : year ≤ Calendar.lastYear) (stop : EndsNumber rest) :
    readYear (writeYear year ++ rest) = .ok (year, rest) := by
  simp only [Calendar.firstYear, Calendar.lastYear] at low high
  rw [writeYear]
  split
  next four =>
    have same : (year.toNat : Int) = year := Int.toNat_of_nonneg four.1
    have fits : ∀ m ∈ some 4, (padded 4 year.toNat).length ≤ m := by
      rintro m ⟨⟩
      exact Nat.le_of_eq (length_padded (by decide) (by omega))
    have read := readNumber_padded fits (by omega) stop
    obtain ⟨c, cs, eq, digit⟩ := exists_padded_eq_cons 4 year.toNat
    rw [eq, List.cons_append] at read ⊢
    rw [readYear_of_isDigit digit (by omega) read, same]
  next signed =>
    have read := @readNumber_padded none 4 year.natAbs rest (by simp) (by omega) stop
    rw [List.cons_append]
    split
    next negative =>
      have same : -(year.natAbs : Int) = year := by omega
      rw [readYear_minus rfl (by omega) read, same]
    next positive =>
      have same : (year.natAbs : Int) = year := by omega
      rw [readYear_plus rfl (by omega) read, same]

theorem endsNumber_cons {c : Char} (h : c.isDigit = false) (rest : List Char) :
    EndsNumber (c :: rest) := by
  rintro d ⟨⟩
  exact h

theorem readFraction_padded {width n : Nat} (pos : 0 < width) (short : width ≤ 9)
    (h : n < 10 ^ width) :
    readFraction ('.' :: (padded width n ++ ['Z'])) = .ok (n * 10 ^ (9 - width), ['Z']) := by
  have length : (padded width n).length = width := length_padded pos h
  have small : n < 10 ^ 9 := Nat.lt_of_lt_of_le h (Nat.pow_le_pow_right (by decide) short)
  have fits : ∀ m ∈ some 9, (padded width n).length ≤ m := by
    rintro m ⟨⟩
    exact Nat.le_trans (Nat.le_of_eq length) short
  have stop : EndsNumber ['Z'] := endsNumber_cons (by decide) []
  have digits : leadingDigits (some 9) (padded width n ++ ['Z']) = padded width n :=
    leadingDigits_append (fun _ => isDigit_of_mem_padded) fits stop
  rw [readFraction, readNumber_padded fits (by omega) stop, ok_bind, digits]
  dsimp only
  rw [digitsValue_padded, length]
  rfl

/-- The decimals that are written are read as nanoseconds. -/
theorem readFraction_writeFraction {nano : Nat} (h : nano < 1000000000) :
    readFraction (writeFraction nano ++ ['Z']) = .ok (nano, ['Z']) := by
  rw [writeFraction]
  split
  next zero =>
    subst zero
    rfl
  next =>
    split
    next millis =>
      have exact : nano / 1000000 * 10 ^ (9 - 3) = nano := by omega
      rw [List.cons_append, readFraction_padded (by decide) (by decide) (by omega), exact]
    next =>
      split
      next micros =>
        have exact : nano / 1000 * 10 ^ (9 - 6) = nano := by omega
        rw [List.cons_append, readFraction_padded (by decide) (by decide) (by omega), exact]
      next =>
        rw [List.cons_append, readFraction_padded (by decide) (by decide) (by omega)]
        simp

theorem readMark_cons {mark : Char} (h : Text.isBlank mark = false) (rest : List Char) :
    readMark mark (mark :: rest) = .ok rest := by
  rw [readMark, trimStart_cons h]
  exact if_pos (beq_self_eq_true mark)

/-- The parts of a written instant, each before all that follows it. -/
theorem write_eq (t : Instant) : t.write =
    writeYear t.civil.year ++ '-' :: (padded 2 t.civil.month ++
    '-' :: (padded 2 t.civil.day ++ 'T' :: (padded 2 (t.civil.second / 3600) ++
    ':' :: (padded 2 (t.civil.second / 60 % 60) ++
    ':' :: (padded 2 (t.civil.second % 60 + t.civil.nano / 1000000000) ++
    (writeFraction (t.civil.nano % 1000000000) ++ ['Z'])))))) := by
  simp only [write, writeCivil, List.append_assoc, List.cons_append]

theorem endsNumber_fraction (nano : Nat) : EndsNumber (writeFraction nano ++ ['Z']) := by
  rw [writeFraction]
  repeat' split
  all_goals exact endsNumber_cons (by decide) _

theorem daysIn_le (year : Int) (month : Nat) : Calendar.daysIn year month ≤ 31 := by
  rw [Calendar.daysIn]
  repeat' split
  all_goals omega

theorem readSeparator_cons (rest : List Char) : readSeparator ('T' :: rest) = .ok rest := rfl

theorem readOffset_universal : readOffset (Text.trimStart ['Z']) = .ok (0, []) := by
  have blank : Text.isBlank 'Z' = false := by decide
  rw [trimStart_cons blank]
  rfl

/-- Every part is read as it was written; second sixty stands for a leap second. -/
theorem readCivil_write (t : Instant) : readCivil t.write = .ok ((t.civil, 0), []) := by
  obtain ⟨⟨low, high, m1, m2, d1, d2, second, nano⟩, regular⟩ := t.valid
  have leap : 1000000000 ≤ t.civil.nano → t.civil.second % 60 = 59 := regular
  have days := daysIn_le t.civil.year t.civil.month
  have dash : '-'.isDigit = false ∧ Text.isBlank '-' = false := by decide
  have colon : ':'.isDigit = false ∧ Text.isBlank ':' = false := by decide
  have separator : 'T'.isDigit = false := by decide
  rw [write_eq, readCivil, readYear_writeYear low high (endsNumber_cons dash.1 _), ok_bind]
  dsimp only
  rw [readMark_cons dash.2, ok_bind,
    readField_padded (by omega) ⟨m1, m2⟩ (endsNumber_cons dash.1 _), ok_bind]
  dsimp only
  rw [readMark_cons dash.2, ok_bind,
    readField_padded (by omega) ⟨d1, by omega⟩ (endsNumber_cons separator _), ok_bind]
  dsimp only
  rw [readSeparator_cons, ok_bind,
    readField_padded (by omega) (by omega) (endsNumber_cons colon.1 _), ok_bind]
  dsimp only
  rw [readMark_cons colon.2, ok_bind,
    readField_padded (by omega) (by omega) (endsNumber_cons colon.1 _), ok_bind]
  dsimp only
  rw [readMark_cons colon.2, ok_bind,
    readField_padded (by omega) (by omega) (endsNumber_fraction _), ok_bind]
  dsimp only
  rw [readFraction_writeFraction (by omega), ok_bind]
  dsimp only
  rw [readOffset_universal, ok_bind]
  have leap' : (t.civil.second % 60 + t.civil.nano / 1000000000) / 60 =
      t.civil.nano / 1000000000 := by omega
  have second' : t.civil.second / 3600 * 3600 + t.civil.second / 60 % 60 * 60 +
      (t.civil.second % 60 + t.civil.nano / 1000000000 - t.civil.nano / 1000000000) =
      t.civil.second := by omega
  have nano' : t.civil.nano % 1000000000 + t.civil.nano / 1000000000 * 1000000000 =
      t.civil.nano := by omega
  dsimp only
  rw [leap', second', nano']

theorem read_write (t : Instant) : read t.write = .ok t := by
  rw [read, readCivil_write]
  have here : t.civil.earlier 0 = t.civil := by
    have := t.valid.1.2.2.2.2.2.2.1
    have notNeg : ¬ ((t.civil.second : Int) - 0 < 0) := by omega
    have sameDay : ¬ (86400 ≤ (t.civil.second : Int) - 0) := by omega
    simp only [Civil.earlier, if_neg notNeg, if_neg sameDay]
    simp
  simp [bind, Except.bind, Text.trimStart, t.valid, here, ofCivil?]

/-- The written form of an instant is read back. -/
theorem ofText_text (t : Instant) : ofText t.text = .ok t := by
  rw [ofText, text, String.toList_ofList, read_write]

end CensusLink.Instant

import RandomC.Text.Integer

/-!
# Written numbers

A number is written with a sign if it is negative, and its digits.  If these are not too many, it is read as it was
written.
-/

namespace RandomC.Text

/-! ## Writing -/

/-- A number can be written if it has not too many digits. -/
theorem hasDecimalText_iff {number : Int} :
    hasDecimalText number ↔ (Nat.toDigits 10 number.natAbs).length ≤ maxDecimalDigits := by
  unfold hasDecimalText decimalLimit
  rw [decide_eq_true_iff, Nat.pow_eq]
  exact (Nat.length_toDigits_le_iff (by decide) (by decide)).symm

theorem hasDecimalText_of_lt {number : Int} (small : number.natAbs < 100) : hasDecimalText number := by
  have short : (Nat.toDigits 10 number.natAbs).length ≤ 2 :=
    (Nat.length_toDigits_le_iff (by decide) (by decide)).mpr small
  exact hasDecimalText_iff.mpr (Nat.le_trans short (by decide))

/-- The characters of a written number. -/
theorem toList_toString_int (number : Int) :
    (toString number).toList = (if number < 0 then ['-'] else []) ++ Nat.toDigits 10 number.natAbs := by
  cases number with
  | ofNat number =>
      rw [if_neg (by simp)]
      exact Nat.toList_repr
  | negSucc number =>
      have written : toString (Int.negSucc number) = "-" ++ (number + 1).repr := rfl
      rw [if_pos (Int.negSucc_lt_zero number), written, String.toList_append, Nat.toList_repr]
      rfl

theorem isDigit_of_mem_toDigits {number : Nat} {c : Char} (member : c ∈ Nat.toDigits 10 number) : c.isDigit :=
  Nat.isDigit_of_mem_toDigits (by decide) (by decide) member

theorem mem_toString_int {number : Int} {c : Char} (member : c ∈ (toString number).toList) :
    c = '-' ∨ c.isDigit := by
  rw [toList_toString_int, List.mem_append] at member
  rcases member with sign | digit
  · split at sign
    · exact .inl (List.mem_singleton.mp sign)
    · cases sign
  · exact .inr (isDigit_of_mem_toDigits digit)

/-! ## Reading digits -/

theorem toNat_of_isDigit {c : Char} (digit : c.isDigit) : 48 ≤ c.toNat ∧ c.toNat ≤ 57 := by
  simp only [Char.isDigit, Bool.and_eq_true, decide_eq_true_eq, ge_iff_le, UInt32.le_iff_toNat_le] at digit
  exact digit

theorem digitValue?_filter {c : Char} (digit : c.isDigit) :
    (digitValue? c).filter (· < 10) = some (c.toNat - '0'.toNat) := by
  have zero : '0'.toNat = 48 := rfl
  have small : c.toNat - '0'.toNat < 10 := by
    have bounds := toNat_of_isDigit digit
    omega
  rw [digitValue?, if_pos digit]
  exact Option.filter_some_pos (by simpa using small)

theorem readDigits_cons {c : Char} (digit : c.isDigit) (afterDigit : Bool) (value count : Nat) (rest : List Char) :
    readDigits 10 afterDigit value count (c :: rest) =
      readDigits 10 true (10 * value + (c.toNat - '0'.toNat)) (count + 1) rest := by
  have noUnderscore : c ≠ '_' := by
    rintro rfl
    cases digit
  rw [readDigits.eq_def]
  split
  · next same => cases same
  · next same => exact absurd (List.cons.inj same).1 noUnderscore
  · next same =>
      obtain ⟨rfl, rfl⟩ := List.cons.inj same
      rw [digitValue?_filter digit, Nat.mul_comm 10]

/-- Digits are read up to their end, and what is read is their value. -/
theorem readDigits_of_digits {cs : List Char} (digits : ∀ c ∈ cs, c.isDigit) (value count : Nat) :
    readDigits 10 true value count cs = some (Nat.ofDigitChars 10 cs value, count + cs.length, []) := by
  induction cs generalizing value count with
  | nil => rfl
  | cons c rest ih =>
      rw [readDigits_cons (digits c List.mem_cons_self), ih fun c member => digits c (List.mem_cons_of_mem _ member),
        Nat.ofDigitChars_cons, List.length_cons, Nat.add_assoc, Nat.add_comm 1]

theorem readDigits_toDigits (number : Nat) :
    readDigits 10 false 0 0 (Nat.toDigits 10 number) = some (number, (Nat.toDigits 10 number).length, []) := by
  have started : readDigits 10 false 0 0 (Nat.toDigits 10 number) = readDigits 10 true 0 0 (Nat.toDigits 10 number) := by
    cases written : Nat.toDigits 10 number with
    | nil => exact absurd written Nat.toDigits_ne_nil
    | cons c rest =>
        have digit : c.isDigit := isDigit_of_mem_toDigits (written ▸ List.mem_cons_self)
        rw [readDigits_cons digit, readDigits_cons digit]
  rw [started, readDigits_of_digits fun _ => isDigit_of_mem_toDigits, Nat.ofDigitChars_ten_toDigits, Nat.zero_add]

/-! ## Reading numbers -/

theorem isPlainBlank_of_isDigit {c : Char} (digit : c.isDigit) : isPlainBlank c = false := by
  have bounds := toNat_of_isDigit digit
  have noSpace : c ≠ ' ' := by
    rintro rfl
    cases digit
  simp [isPlainBlank, noSpace]
  omega

/-- The sign is split off, and only digits remain. -/
theorem readSign_toString (number : Int) :
    readSign ((toString number).toList.dropWhile isPlainBlank) =
      (decide (number < 0), Nat.toDigits 10 number.natAbs) := by
  rw [toList_toString_int]
  by_cases negative : number < 0
  · rw [if_pos negative, decide_eq_true negative]
    rfl
  · rw [if_neg negative, decide_eq_false negative, List.nil_append]
    cases written : Nat.toDigits 10 number.natAbs with
    | nil => exact absurd written Nat.toDigits_ne_nil
    | cons c rest =>
        have digit : c.isDigit := isDigit_of_mem_toDigits (written ▸ List.mem_cons_self)
        rw [List.dropWhile_cons_of_neg (by rw [isPlainBlank_of_isDigit digit]; decide)]
        unfold readSign
        split
        · next same => cases (List.cons.inj same).1 ▸ digit
        · next same => cases (List.cons.inj same).1 ▸ digit
        · rfl

theorem dropMark_ten (cs : List Char) : dropMark 10 cs = cs := by
  unfold dropMark
  split
  · exact if_neg (by simp [baseMark])
  · rfl

theorem signed_natAbs (number : Int) : (if number < 0 then -(number.natAbs : Int) else number.natAbs) = number := by
  split <;> omega

/-- A number that can be written is read as it was written. -/
theorem readInteger_toString {number : Int} (writable : hasDecimalText number) :
    readInteger 10 (toString number) = .ok number := by
  have short : ¬ maxDecimalDigits < (Nat.toDigits 10 number.natAbs).length :=
    Nat.not_lt.mpr (hasDecimalText_iff.mp writable)
  have plain : (toString number).toList.all (·.toNat < 0x80) := by
    refine List.all_eq_true.mpr fun c member => decide_eq_true ?_
    rcases mem_toString_int member with rfl | digit
    · decide
    · have bounds := toNat_of_isDigit digit
      omega
  simp only [readInteger, plain, if_true, readSign_toString, dropMark_ten, readDigits_toDigits, gt_iff_lt, short,
    decide_true, decide_false, Bool.and_false, Bool.false_eq_true, if_false, List.all_nil, Bool.not_true, decide_eq_true_eq]
  exact congrArg Except.ok (signed_natAbs number)

end RandomC.Text

import QueryLexer.Token.Classifier

/-!
The character classes are disjoint. A character that begins a name, a digit, a blank and a character
that begins an operator are four different things, over the whole range of code points; so the first
character of a token says of which class it is.
-/

namespace QueryLexer

namespace Text

def blankCodes : List Nat :=
  List.range' 0x9 5 ++ [0x20, 0x85, 0xA0, 0x1680] ++ List.range' 0x2000 11 ++
    [0x2028, 0x2029, 0x202F, 0x205F, 0x3000]

theorem toNat_mem_blankCodes (c : Char) (blank : isBlank c = true) : c.toNat ∈ blankCodes := by
  simp only [isBlank, inRanges, blankRanges, List.any_cons, List.any_nil, Bool.or_false,
    Bool.or_eq_true, Bool.and_eq_true, decide_eq_true_eq] at blank
  simp only [blankCodes, List.mem_append, List.mem_range'_1, List.mem_cons, List.not_mem_nil]
  omega

def operatorChars : List Char := ['+', '-', '*', '/', '%', '=', '!', '<', '>', '&', '|']

theorem mem_operatorChars_iff (c : Char) :
    c ∈ operatorChars ↔ (OperatorForm.ofChar? c).isSome = true := by
  constructor
  · have table : operatorChars.all (fun c => (OperatorForm.ofChar? c).isSome) = true := by decide
    exact List.all_eq_true.mp table c
  · intro formed
    unfold OperatorForm.ofChar? at formed
    split at formed <;> simp_all [operatorChars]

def digitChars : List Char := ['0', '1', '2', '3', '4', '5', '6', '7', '8', '9']

theorem mem_digitChars (c : Char) (digit : isDigit c = true) : c ∈ digitChars := by
  have range : 48 ≤ c.toNat ∧ c.toNat ≤ 57 := by
    simpa [isDigit, Char.le_def, UInt32.le_iff_toNat_le] using digit
  have table : ∀ n ∈ List.range' 48 10, Char.ofNat n ∈ digitChars := by decide
  have member : c.toNat ∈ List.range' 48 10 := by
    rw [List.mem_range'_1]
    omega
  simpa using table c.toNat member

-- Letters stand in long tables; the other classes are short enough to be looked up there.
theorem isLetter_blank (c : Char) (blank : isBlank c = true) : isLetter c = false := by
  have table : ∀ n ∈ blankCodes, isLetter (Char.ofNat n) = false := by decide +kernel
  simpa using table c.toNat (toNat_mem_blankCodes c blank)

theorem isLetter_digit (c : Char) (digit : isDigit c = true) : isLetter c = false := by
  have table : digitChars.all (!isLetter ·) = true := by decide +kernel
  simpa using List.all_eq_true.mp table c (mem_digitChars c digit)

theorem isLetter_operator (c : Char) (member : c ∈ operatorChars) : isLetter c = false := by
  have table : operatorChars.all (!isLetter ·) = true := by decide +kernel
  simpa using List.all_eq_true.mp table c member

theorem startsName_blank (c : Char) (blank : isBlank c = true) : startsName c = false := by
  have other : c ≠ '_' := by
    rintro rfl
    exact absurd blank (by decide)
  simp [startsName, other, isLetter_blank c blank]

theorem startsName_digit (c : Char) (digit : isDigit c = true) : startsName c = false := by
  have other : c ≠ '_' := by
    rintro rfl
    exact absurd digit (by decide)
  simp [startsName, other, isLetter_digit c digit]

theorem startsName_operator (c : Char) (member : c ∈ operatorChars) : startsName c = false := by
  have other : c ≠ '_' := by
    rintro rfl
    exact absurd member (by decide)
  simp [startsName, other, isLetter_operator c member]

theorem isBlank_digit (c : Char) (digit : isDigit c = true) : isBlank c = false := by
  have table : digitChars.all (!isBlank ·) = true := by decide
  simpa using List.all_eq_true.mp table c (mem_digitChars c digit)

theorem isBlank_operator (c : Char) (member : c ∈ operatorChars) : isBlank c = false := by
  have table : operatorChars.all (!isBlank ·) = true := by decide
  simpa using List.all_eq_true.mp table c member

theorem isDigit_operator (c : Char) (member : c ∈ operatorChars) : isDigit c = false := by
  have table : operatorChars.all (!isDigit ·) = true := by decide
  simpa using List.all_eq_true.mp table c member

theorem isBlank_startsName (c : Char) (starts : startsName c = true) : isBlank c = false := by
  cases blank : isBlank c with
  | false => rfl
  | true => simp [startsName_blank c blank] at starts

theorem isDigit_startsName (c : Char) (starts : startsName c = true) : isDigit c = false := by
  cases digit : isDigit c with
  | false => rfl
  | true => simp [startsName_digit c digit] at starts

theorem isDigit_blank (c : Char) (blank : isBlank c = true) : isDigit c = false := by
  cases digit : isDigit c with
  | false => rfl
  | true => simp [isBlank_digit c digit] at blank

theorem not_operator_startsName (c : Char) (starts : startsName c = true) : c ∉ operatorChars := by
  intro member
  simp [startsName_operator c member] at starts

theorem not_operator_digit (c : Char) (digit : isDigit c = true) : c ∉ operatorChars := by
  intro member
  simp [isDigit_operator c member] at digit

theorem not_operator_blank (c : Char) (blank : isBlank c = true) : c ∉ operatorChars := by
  intro member
  simp [isBlank_operator c member] at blank

theorem startsName_of_isLetter (c : Char) (letter : isLetter c = true) : startsName c = true := by
  simp [startsName, letter]

theorem continuesName_of_isLetter (c : Char) (letter : isLetter c = true) :
    continuesName c = true := by
  simp [continuesName, startsName, letter]

theorem isLetter_of_ascii (c : Char)
    (ascii : (65 ≤ c.toNat ∧ c.toNat ≤ 90) ∨ (97 ≤ c.toNat ∧ c.toNat ≤ 122)) :
    isLetter c = true := by
  have early : inRanges lettersBelow1000 c = true := by
    unfold lettersBelow1000
    rw [inRanges, List.any_cons, List.any_cons]
    simp only [Bool.or_eq_true, Bool.and_eq_true, decide_eq_true_eq]
    omega
  simp [isLetter, early]

theorem toNat_toLower (c : Char) : c.toLower.toNat =
    if 65 ≤ c.toNat ∧ c.toNat ≤ 90 then c.toNat + 32 else c.toNat := by
  unfold Char.toLower
  split
  case isTrue upper =>
    have range : 65 ≤ c.toNat ∧ c.toNat ≤ 90 := by
      simpa [UInt32.le_iff_toNat_le] using upper
    have shifted : (c.val + ('a'.val - 'A'.val)).toNat = c.toNat + 32 := by
      rw [UInt32.toNat_add]
      exact Nat.mod_eq_of_lt (by change c.toNat + 32 < 2 ^ 32; omega)
    rw [if_pos range]
    exact shifted
  case isFalse other =>
    have range : ¬ (65 ≤ c.toNat ∧ c.toNat ≤ 90) := by
      simpa [UInt32.le_iff_toNat_le] using other
    rw [if_neg range]

theorem isLetter_of_toLower (c : Char) (lower : 97 ≤ c.toLower.toNat ∧ c.toLower.toNat ≤ 122) :
    isLetter c = true := by
  rw [toNat_toLower] at lower
  apply isLetter_of_ascii
  split at lower <;> omega

end Text

end QueryLexer

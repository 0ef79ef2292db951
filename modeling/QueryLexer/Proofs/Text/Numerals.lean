import QueryLexer.Text.Decimal

/-!
Numbers and their numerals. A run of digits is read digit by digit, and the reading is given up as soon as
the number is out of range: it comes to the number that the digits stand for, or to nothing if that is too
large. A number of 64 bits is written with decimal digits, behind a sign if it is negative, and reading
these gives the number back: no number of 64 bits is out of range.
-/

namespace QueryLexer.Text

theorem appendDigit?_eq_some_iff (bound value number : Nat) (digit : Char) :
    appendDigit? bound value digit = some number ↔
      isDigit digit = true ∧ number = 10 * value + digitValue digit ∧ number ≤ bound := by
  simp only [appendDigit?, Option.ite_none_right_eq_some, Option.some.injEq]
  constructor
  · rintro ⟨⟨isDigit, inRange⟩, rfl⟩
    exact ⟨isDigit, rfl, inRange⟩
  · rintro ⟨isDigit, rfl, inRange⟩
    exact ⟨⟨isDigit, inRange⟩, rfl⟩

-- More digits make no number smaller, so a number that is out of range once stays out of range.
theorem le_foldl_digits (value : Nat) (digits : List Char) :
    value ≤ digits.foldl (fun value digit => 10 * value + digitValue digit) value := by
  induction digits generalizing value with
  | nil => exact Nat.le_refl value
  | cons digit later ih =>
      have further := ih (10 * value + digitValue digit)
      rw [List.foldl_cons]
      omega

theorem foldlM_appendDigit?_eq_some_iff (bound value number : Nat) (digits : List Char)
    (within : value ≤ bound) :
    digits.foldlM (appendDigit? bound) value = some number ↔
      (∀ c ∈ digits, isDigit c = true) ∧
        number = digits.foldl (fun value digit => 10 * value + digitValue digit) value ∧
        number ≤ bound := by
  induction digits generalizing value with
  | nil =>
      simp
      omega
  | cons digit later ih =>
      rw [List.foldlM_cons, List.foldl_cons, Option.bind_eq_bind, Option.bind_eq_some_iff]
      constructor
      · rintro ⟨longer, appended, read⟩
        rcases (appendDigit?_eq_some_iff _ _ _ _).mp appended with ⟨first, rfl, inRange⟩
        rcases (ih _ inRange).mp read with ⟨rest, same, below⟩
        exact ⟨List.forall_mem_cons.mpr ⟨first, rest⟩, same, below⟩
      · rintro ⟨inside, same, below⟩
        rcases List.forall_mem_cons.mp inside with ⟨first, rest⟩
        have further := le_foldl_digits (10 * value + digitValue digit) later
        have inRange : 10 * value + digitValue digit ≤ bound := by omega
        refine ⟨_, (appendDigit?_eq_some_iff _ _ _ _).mpr ⟨first, rfl, inRange⟩, ?_⟩
        exact (ih _ inRange).mpr ⟨rest, same, below⟩

theorem magnitude?_eq_some_iff (bound number : Nat) (digits : List Char) :
    magnitude? bound digits = some number ↔
      digits ≠ [] ∧ (∀ c ∈ digits, isDigit c = true) ∧ number = decimalValue digits ∧ number ≤ bound := by
  cases digits with
  | nil => simp [magnitude?]
  | cons digit later =>
      rw [magnitude?, foldlM_appendDigit?_eq_some_iff _ _ _ _ (Nat.zero_le bound)]
      · simp [decimalValue]
      · exact List.cons_ne_nil digit later

def IsDigits (chars : List Char) : Prop := chars ≠ [] ∧ ∀ c ∈ chars, isDigit c = true

-- A digit is no sign.
theorem integer?_digits (digits : List Char) (isDigits : IsDigits digits) :
    integer? digits = (magnitude? largestInteger digits).map Int64.ofNat := by
  unfold integer?
  split
  · exact absurd (isDigits.2 '-' List.mem_cons_self) (by decide)
  · exact absurd (isDigits.2 '+' List.mem_cons_self) (by decide)
  · rfl

theorem integer?_inRange (digits : List Char) (isDigits : IsDigits digits)
    (inRange : decimalValue digits ≤ largestInteger) :
    integer? digits = some (Int64.ofNat (decimalValue digits)) := by
  have read : magnitude? largestInteger digits = some (decimalValue digits) :=
    (magnitude?_eq_some_iff _ _ _).mpr ⟨isDigits.1, isDigits.2, rfl, inRange⟩
  rw [integer?_digits digits isDigits, read, Option.map_some]

theorem integer?_tooLarge (digits : List Char) (isDigits : IsDigits digits)
    (tooLarge : largestInteger < decimalValue digits) : integer? digits = none := by
  rw [integer?_digits digits isDigits, Option.map_eq_none_iff, Option.eq_none_iff_forall_ne_some]
  intro number read
  rcases (magnitude?_eq_some_iff _ _ _).mp read with ⟨_, _, rfl, inRange⟩
  omega

theorem isDigit_of_mem_toDigits (number : Nat) (c : Char) (member : c ∈ Nat.toDigits 10 number) :
    isDigit c = true := by
  have digit := Nat.isDigit_of_mem_toDigits (by decide) (by decide) member
  simpa [isDigit, Char.isDigit, Char.le_def] using digit

theorem isDigits_toDigits (number : Nat) : IsDigits (Nat.toDigits 10 number) :=
  ⟨Nat.toDigits_ne_nil, isDigit_of_mem_toDigits number⟩

theorem decimalValue_toDigits (number : Nat) : decimalValue (Nat.toDigits 10 number) = number := by
  have read : Nat.ofDigitChars 10 (Nat.toDigits 10 number) 0 = number := Nat.ofDigitChars_ten_toDigits
  rwa [Nat.ofDigitChars_eq_foldl] at read

theorem numeral_toInt (value : Int64) (unsigned : 0 ≤ value.toInt) :
    (toString value.toInt).toList = Nat.toDigits 10 value.toInt.toNat := by
  rw [Int.toString_eq_repr, Int.repr_eq_if, if_pos unsigned, Nat.toList_repr]

theorem numeral_toInt_negative (value : Int64) (negative : value.toInt < 0) :
    (toString value.toInt).toList = '-' :: Nat.toDigits 10 (-value.toInt).toNat := by
  rw [Int.toString_eq_repr, Int.repr_eq_if, if_neg (Int.not_le.mpr negative), String.toList_append,
    Nat.toList_repr]
  rfl

theorem integer?_numeral (value : Int64) : integer? (toString value.toInt).toList = some value := by
  have above := value.le_toInt
  have below := value.toInt_lt
  by_cases unsigned : 0 ≤ value.toInt
  · have same : Int64.ofNat value.toInt.toNat = value := by
      rw [← Int64.ofInt_eq_ofNat, Int.toNat_of_nonneg unsigned, Int64.ofInt_toInt]
    have inRange : value.toInt.toNat ≤ largestInteger := by
      simp only [largestInteger]
      omega
    rw [← decimalValue_toDigits value.toInt.toNat] at inRange
    rw [numeral_toInt value unsigned, integer?_inRange _ (isDigits_toDigits _) inRange,
      decimalValue_toDigits, same]
  · have negative : value.toInt < 0 := Int.not_le.mp unsigned
    have same : Int64.ofInt (-((-value.toInt).toNat : Int)) = value := by
      rw [Int.toNat_of_nonneg (by omega), Int.neg_neg, Int64.ofInt_toInt]
    have inRange : (-value.toInt).toNat ≤ largestInteger + 1 := by
      simp only [largestInteger]
      omega
    have read : magnitude? (largestInteger + 1) (Nat.toDigits 10 (-value.toInt).toNat) =
        some (-value.toInt).toNat :=
      (magnitude?_eq_some_iff _ _ _).mpr ⟨Nat.toDigits_ne_nil, isDigit_of_mem_toDigits _,
        (decimalValue_toDigits _).symm, inRange⟩
    rw [numeral_toInt_negative value negative, integer?, read, Option.map_some, same]

end QueryLexer.Text

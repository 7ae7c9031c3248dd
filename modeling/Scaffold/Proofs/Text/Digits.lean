import Mathlib.Data.List.Basic
import Mathlib.Data.List.Forall2
import Scaffold.Text.Digits

/-!
# Decimal numerals

A numeral is a text of decimal digits, zeros in front allowed, with a value that fits into 64 bits
(`IsNumeral`). Reading a number gives the value of a numeral and refuses all else
(`number?_eq_some_iff`); with a plus sign before the numeral it does the same
(`signedNumber?_eq_some_iff`).

Among the numerals of a value one has no zero in front: digits that begin with another digit are
the digits of their value (`toDigits_ofDigitChars`).
-/

set_option autoImplicit false

namespace Scaffold.Text

/-- The digits are a decimal numeral of the value, zeros in front allowed, and the value fits into
64 bits. -/
structure IsNumeral (digits : List Char) (value : Nat) : Prop where
  nonempty : digits ≠ []
  isDigit : ∀ c ∈ digits, c.isDigit = true
  ofDigitChars_eq : Nat.ofDigitChars 10 digits 0 = value
  fits : value < wordLimit

example : wordLimit = 2 ^ 64 :=
  rfl

theorem digitsValue_eq {digits : List Char} (hdigits : ∀ c ∈ digits, c.isDigit = true) :
    digitsValue 10 digits = Nat.ofDigitChars 10 digits 0 := by
  rw [digitsValue, Nat.ofDigitChars_eq_foldl]
  refine List.foldl_ext _ _ 0 fun value c hc ↦ ?_
  rw [digitValue, if_pos (hdigits c hc), Nat.mul_comm]

theorem number?_eq_some_iff {digits : List Char} {value : Nat} :
    number? digits = some value ↔ IsNumeral digits value := by
  rw [number?, Option.ite_none_right_eq_some, Option.some.injEq, List.all_eq_true]
  constructor
  · rintro ⟨⟨hnonempty, hdigits, hfits⟩, rfl⟩
    exact ⟨hnonempty, hdigits, (digitsValue_eq hdigits).symm, hfits⟩
  · rintro ⟨hnonempty, hdigits, rfl, hfits⟩
    rw [digitsValue_eq hdigits]
    exact ⟨⟨hnonempty, hdigits, hfits⟩, rfl⟩

/-- Whether digits are a numeral of a value is told by reading them. -/
instance (digits : List Char) (value : Nat) : Decidable (IsNumeral digits value) :=
  decidable_of_iff _ number?_eq_some_iff

theorem IsNumeral.ne_cons {digits : List Char} {value : Nat} (hnumeral : IsNumeral digits value)
    {c : Char} (hc : c.isDigit = false) (rest : List Char) : digits ≠ c :: rest := by
  rintro rfl
  simp [hnumeral.isDigit c List.mem_cons_self] at hc

/-- With an optional plus sign, the values of numerals are read. -/
theorem signedNumber?_eq_some_iff {digits : List Char} {value : Nat} :
    signedNumber? digits = some value ↔
      IsNumeral digits value ∨ ∃ rest, digits = '+' :: rest ∧ IsNumeral rest value := by
  unfold signedNumber?
  split
  · rename_i rest
    rw [number?_eq_some_iff]
    constructor
    · exact fun hrest ↦ .inr ⟨rest, rfl, hrest⟩
    · rintro (hnumeral | ⟨other, heq, hother⟩)
      · exact absurd rfl (hnumeral.ne_cons (by decide) rest)
      · cases heq
        exact hother
  · rename_i hunsigned
    rw [number?_eq_some_iff]
    constructor
    · exact .inl
    · rintro (hnumeral | ⟨rest, rfl, -⟩)
      · exact hnumeral
      · exact absurd rfl (hunsigned rest)

/-- Each digit list is a numeral of one value at most. -/
theorem forall₂_isNumeral_iff {numbers : List (List Char)} {values : List Nat} :
    List.Forall₂ IsNumeral numbers values ↔
      (∀ digits ∈ numbers, IsNumeral digits (Nat.ofDigitChars 10 digits 0)) ∧
        values = numbers.map fun digits ↦ Nat.ofDigitChars 10 digits 0 := by
  constructor
  · intro hnumbers
    induction hnumbers with
    | nil => simp
    | cons hnumeral _ ih =>
      obtain ⟨hrest, rfl⟩ := ih
      obtain rfl := hnumeral.ofDigitChars_eq
      exact ⟨List.forall_mem_cons.mpr ⟨hnumeral, hrest⟩, rfl⟩
  · rintro ⟨hnumbers, rfl⟩
    rwa [List.forall₂_map_right_iff, List.forall₂_same]

/-! ### The digits of a value -/

theorem isDigit_of_mem_toDigits {value : Nat} {c : Char} (hc : c ∈ Nat.toDigits 10 value) :
    c.isDigit = true :=
  Nat.isDigit_of_mem_toDigits (by decide) (by decide) hc

theorem isNumeral_toDigits {value : Nat} (hfits : value < wordLimit) :
    IsNumeral (Nat.toDigits 10 value) value :=
  ⟨Nat.toDigits_ne_nil, fun _ ↦ isDigit_of_mem_toDigits, Nat.ofDigitChars_ten_toDigits, hfits⟩

/-- A text that begins with the digits of a value begins with a digit. -/
theorem toDigits_append_ne_cons {c : Char} (hc : c.isDigit = false) (value : Nat)
    (rest other : List Char) : Nat.toDigits 10 value ++ rest ≠ c :: other := by
  obtain ⟨first, others, hdigits⟩ := List.exists_cons_of_ne_nil (@Nat.toDigits_ne_nil value 10)
  have hfirst : first.isDigit = true :=
    isDigit_of_mem_toDigits (hdigits ▸ List.mem_cons_self : first ∈ Nat.toDigits 10 value)
  rw [hdigits, List.cons_append]
  intro heq
  obtain ⟨rfl, -⟩ := List.cons.inj heq
  simp [hc] at hfirst

/-- The digits of a value are read as this value. -/
theorem eq_of_signedNumber?_toDigits {value other : Nat}
    (hread : signedNumber? (Nat.toDigits 10 value) = some other) : other = value := by
  rcases signedNumber?_eq_some_iff.mp hread with hnumeral | ⟨rest, hplus, -⟩
  · rw [← hnumeral.ofDigitChars_eq, Nat.ofDigitChars_ten_toDigits]
  · exact absurd ((List.append_nil _).trans hplus)
      (toDigits_append_ne_cons (by decide) value [] rest)

/-- The digits of a value with another character behind them are no number. -/
theorem signedNumber?_toDigits_append {value : Nat} {c : Char} (hc : c.isDigit = false)
    (rest : List Char) : signedNumber? (Nat.toDigits 10 value ++ c :: rest) = none := by
  rw [Option.eq_none_iff_forall_not_mem]
  intro other hread
  rcases signedNumber?_eq_some_iff.mp hread with hnumeral | ⟨behind, hplus, -⟩
  · have hdigit := hnumeral.isDigit c (List.mem_append_right _ List.mem_cons_self)
    simp [hc] at hdigit
  · exact toDigits_append_ne_cons (by decide) value _ behind hplus

/-- A digit is the digit of its place after `0`. -/
theorem digitChar_of_isDigit {c : Char} (hdigit : c.isDigit = true) :
    c.toNat - '0'.toNat < 10 ∧ Nat.digitChar (c.toNat - '0'.toNat) = c := by
  obtain ⟨hzero, hnine⟩ := Char.isDigit_iff_toNat.mp hdigit
  change 48 ≤ c.toNat at hzero
  change c.toNat ≤ 57 at hnine
  change c.toNat - 48 < 10 ∧ Nat.digitChar (c.toNat - 48) = c
  have hbelow : c.toNat - 48 < 10 := by omega
  refine ⟨hbelow, Char.toNat_inj.mp ?_⟩
  rw [Nat.toNat_digitChar_of_lt_ten hbelow]
  omega

/-- Digits are read behind those of a value other than zero. -/
theorem toDigits_ofDigitChars_of_pos {digits : List Char} {value : Nat} (hvalue : 0 < value)
    (hdigits : ∀ c ∈ digits, c.isDigit = true) :
    Nat.toDigits 10 (Nat.ofDigitChars 10 digits value) = Nat.toDigits 10 value ++ digits := by
  induction digits generalizing value with
  | nil => simp
  | cons c rest ih =>
    obtain ⟨hbelow, hchar⟩ := digitChar_of_isDigit (hdigits c List.mem_cons_self)
    have hnext : Nat.toDigits 10 (10 * value + (c.toNat - '0'.toNat)) =
        Nat.toDigits 10 value ++ [c] := by
      rw [← Nat.toDigits_append_toDigits (by decide) hvalue hbelow, Nat.toDigits_of_lt_base hbelow,
        hchar]
    have hrest := fun other hother ↦ hdigits other (List.mem_cons_of_mem c hother)
    rw [Nat.ofDigitChars_cons, ih (by omega) hrest, hnext, List.append_assoc,
      List.singleton_append]

/-- Digits that begin with another digit than zero are the digits of their value. -/
theorem toDigits_ofDigitChars {digits : List Char} (hnonempty : digits ≠ [])
    (hdigits : ∀ c ∈ digits, c.isDigit = true) (hhead : digits.head? ≠ some '0') :
    Nat.toDigits 10 (Nat.ofDigitChars 10 digits 0) = digits := by
  cases digits with
  | nil => exact absurd rfl hnonempty
  | cons c rest =>
    obtain ⟨hbelow, hchar⟩ := digitChar_of_isDigit (hdigits c List.mem_cons_self)
    have hpositive : 0 < c.toNat - '0'.toNat := by
      refine Nat.pos_of_ne_zero fun hzero ↦ hhead ?_
      rw [hzero] at hchar
      exact congrArg some hchar.symm
    rw [Nat.ofDigitChars_cons, Nat.mul_zero, Nat.zero_add, toDigits_ofDigitChars_of_pos hpositive
      fun other hother ↦ hdigits other (List.mem_cons_of_mem _ hother),
      Nat.toDigits_of_lt_base hbelow, hchar, List.singleton_append]

/-- The digits of a value other than zero do not begin with zero. -/
theorem head?_toDigits_ne {value : Nat} (hvalue : 0 < value) :
    (Nat.toDigits 10 value).head? ≠ some '0' := by
  induction value using Nat.strongRecOn with
  | ind value ih =>
    rw [Nat.toDigits_eq_if (by decide)]
    split
    · rename_i hbelow
      intro hzero
      have hcode := congrArg Char.toNat (Option.some.inj hzero)
      rw [Nat.toNat_digitChar_of_lt_ten hbelow] at hcode
      change 48 + value = 48 at hcode
      omega
    · rw [List.head?_append_of_ne_nil _ Nat.toDigits_ne_nil]
      exact ih (value / 10) (by omega) (by omega)

/-- Zeros in front have no say in the value. -/
theorem ofDigitChars_dropZeros (digits : List Char) :
    Nat.ofDigitChars 10 (digits.dropWhile (· == '0')) 0 = Nat.ofDigitChars 10 digits 0 := by
  induction digits with
  | nil => rfl
  | cons c rest ih =>
    by_cases hzero : c = '0'
    · subst hzero
      rw [List.dropWhile_cons_of_pos (by simp), ih, Nat.ofDigitChars_cons]
      rfl
    · rw [List.dropWhile_cons_of_neg (by simpa using hzero)]

end Scaffold.Text

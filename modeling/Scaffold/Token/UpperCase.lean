/-!
# Upper-case variants

`upperCase` turns any text into the form used for macro names. Its values hold only capital ASCII
letters, digits and underscores (`forall_mem_upperCase`), and it changes none of them
(`upperCase_upperCase`).
-/

set_option autoImplicit false

namespace Scaffold.Token

/-- ASCII letters become capitals, digits and underscores stay, all else becomes an underscore. -/
def upperChar (c : Char) : Char :=
  if c.isAlphanum || c = '_' then c.toUpper else '_'

/-- The text with each character in its upper-case form. -/
def upperCase (text : String) : String :=
  text.map upperChar

/-- A character of a macro name: a capital ASCII letter, a digit or an underscore. -/
def isMacroChar (c : Char) : Bool :=
  c.isUpper || c.isDigit || c == '_'

/-- The small letters by code point. -/
theorem isLower_iff (c : Char) : c.isLower = true ↔ 97 ≤ c.toNat ∧ c.toNat ≤ 122 := by
  change (decide (c.val ≥ 'a'.val) && decide (c.val ≤ 'z'.val)) = true ↔ _
  simp only [Bool.and_eq_true, decide_eq_true_eq, ge_iff_le, UInt32.le_iff_toNat_le]
  rfl

/-- The characters of macro names by code point. -/
theorem isMacroChar_iff (c : Char) :
    isMacroChar c = true ↔
      (65 ≤ c.toNat ∧ c.toNat ≤ 90) ∨ (48 ≤ c.toNat ∧ c.toNat ≤ 57) ∨ c = '_' := by
  change (decide (c.val ≥ 'A'.val ∧ c.val ≤ 'Z'.val) ||
    (decide (c.val ≥ '0'.val) && decide (c.val ≤ '9'.val)) || c == '_') = true ↔ _
  simp only [Bool.or_eq_true, Bool.and_eq_true, decide_eq_true_eq, beq_iff_eq, ge_iff_le,
    UInt32.le_iff_toNat_le, or_assoc]
  rfl

/-- What the upper-case form of a character depends on. -/
theorem upperChar_eq (c : Char) :
    upperChar c = if c.isLower || isMacroChar c then c.toUpper else '_' := by
  change (if ((c.isUpper || c.isLower) || c.isDigit) || c = '_' then c.toUpper else '_') =
    if c.isLower || (c.isUpper || c.isDigit || c == '_') then c.toUpper else '_'
  cases c.isUpper <;> cases c.isLower <;> cases c.isDigit <;> simp

/-- A small letter becomes a capital one. -/
theorem isMacroChar_toUpper {c : Char} (hlower : c.isLower = true) :
    isMacroChar c.toUpper = true := by
  have hall : ∀ offset < 26, isMacroChar (Char.ofNat (97 + offset)).toUpper = true := by decide
  have hcode := (isLower_iff c).mp hlower
  have hchar := hall (c.toNat - 97) (by omega)
  rwa [Nat.add_sub_cancel' hcode.1, Char.ofNat_toNat] at hchar

/-- What is no small letter stays. -/
theorem toUpper_of_not_isLower {c : Char} (hlower : c.isLower = false) : c.toUpper = c := by
  have hbounds : ¬('a'.val ≤ c.val ∧ c.val ≤ 'z'.val) := by
    intro hbounds
    have htrue := (isLower_iff c).mpr hbounds
    simp [hlower] at htrue
  exact dif_neg hbounds

/-- No character of a macro name is a small letter. -/
theorem isLower_of_isMacroChar {c : Char} (hname : isMacroChar c = true) : c.isLower = false := by
  rw [Bool.eq_false_iff]
  intro hlower
  have hsmall := (isLower_iff c).mp hlower
  rcases (isMacroChar_iff c).mp hname with hcapital | hdigit | rfl
  · omega
  · omega
  · exact absurd hsmall (by decide)

/-- The form of any character belongs to macro names. -/
theorem isMacroChar_upperChar (c : Char) : isMacroChar (upperChar c) = true := by
  rw [upperChar_eq]
  cases hlower : c.isLower with
  | true => simpa using isMacroChar_toUpper hlower
  | false =>
    rw [toUpper_of_not_isLower hlower]
    cases hname : isMacroChar c with
    | true => simpa using hname
    | false =>
      rw [if_neg (by simp)]
      decide

/-- A character of a macro name is its own form. -/
theorem upperChar_of_isMacroChar {c : Char} (hname : isMacroChar c = true) : upperChar c = c := by
  rw [upperChar_eq, hname, toUpper_of_not_isLower (isLower_of_isMacroChar hname)]
  simp

/-- An upper-case form holds characters of macro names alone. -/
theorem forall_mem_upperCase (text : String) :
    ∀ c ∈ (upperCase text).toList, isMacroChar c = true := by
  simp [upperCase, isMacroChar_upperChar]

/-- An upper-case form is its own. -/
theorem upperCase_upperCase (text : String) : upperCase (upperCase text) = upperCase text := by
  apply String.toList_inj.mp
  simp only [upperCase, String.toList_map, List.map_map]
  apply List.map_congr_left
  intro c _
  exact upperChar_of_isMacroChar (isMacroChar_upperChar c)

end Scaffold.Token

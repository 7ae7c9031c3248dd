/-!
# White space

The characters with the Unicode property `White_Space`, and the two readings of a text that depend
on them: `trim` removes them at both ends, `words` splits at them.

`pieces` splits a text at any characters: no piece holds one of them (`forall_mem_pieces`), and the
pieces between the occurrences of one character, put together with it, are the whole again
(`intercalate_pieces`).
-/

set_option autoImplicit false

namespace Scaffold.Text

/-- The code points with the Unicode property `White_Space`. -/
def blankCodes : List Nat :=
  [0x09, 0x0A, 0x0B, 0x0C, 0x0D, 0x20, 0x85, 0xA0, 0x1680, 0x2000, 0x2001, 0x2002, 0x2003, 0x2004,
    0x2005, 0x2006, 0x2007, 0x2008, 0x2009, 0x200A, 0x2028, 0x2029, 0x202F, 0x205F, 0x3000]

/-- A character with the Unicode property `White_Space`. -/
def isBlank (c : Char) : Bool :=
  blankCodes.contains c.toNat

/-- The characters without the blanks at either end. -/
def trimChars (cs : List Char) : List Char :=
  ((cs.dropWhile isBlank).reverse.dropWhile isBlank).reverse

/-- The text without the blanks at either end. -/
def trim (text : String) : String :=
  String.ofList (trimChars text.toList)

/-- The pieces of a text between the characters that satisfy `isBreak`, empty pieces included. -/
def pieces (isBreak : Char → Bool) : List Char → List (List Char)
  | [] => [[]]
  | c :: rest =>
    if isBreak c then [] :: pieces isBreak rest
    else
      match pieces isBreak rest with
      | [] => [[c]]
      | piece :: others => (c :: piece) :: others

/-- The maximal runs of characters that are not blank. -/
def words (text : String) : List String :=
  ((pieces isBlank text.toList).filter fun piece ↦ !piece.isEmpty).map String.ofList

/-- No piece holds a character at which the text is split. -/
theorem forall_mem_pieces (isBreak : Char → Bool) (cs : List Char) :
    ∀ piece ∈ pieces isBreak cs, ∀ c ∈ piece, isBreak c = false := by
  induction cs with
  | nil => simp [pieces]
  | cons c rest ih =>
    intro piece hpiece
    by_cases hbreak : isBreak c = true
    · simp only [pieces, hbreak, if_true, List.mem_cons] at hpiece
      rcases hpiece with rfl | hpiece
      · simp
      · exact ih piece hpiece
    · simp only [pieces, hbreak, Bool.false_eq_true, if_false] at hpiece
      cases hpieces : pieces isBreak rest with
      | nil =>
        rw [hpieces] at hpiece
        simp only [List.mem_cons, List.not_mem_nil, or_false] at hpiece
        subst hpiece
        simpa using hbreak
      | cons first others =>
        rw [hpieces] at hpiece ih
        simp only [List.mem_cons] at hpiece
        rcases hpiece with rfl | hpiece
        · intro d hd
          rcases List.mem_cons.mp hd with rfl | hd
          · simpa using hbreak
          · exact ih first (by simp) d hd
        · exact ih piece (by simp [hpiece])

/-- There is always a piece. -/
theorem pieces_ne_nil (isBreak : Char → Bool) (cs : List Char) : pieces isBreak cs ≠ [] := by
  cases cs with
  | nil => simp [pieces]
  | cons c rest =>
    unfold pieces
    split
    · simp
    · split <;> simp

/-- The pieces between the occurrences of `mark`, put together with it, are the whole again. -/
theorem intercalate_pieces (mark : Char) (cs : List Char) :
    [mark].intercalate (pieces (· == mark) cs) = cs := by
  induction cs with
  | nil => simp [pieces]
  | cons c rest ih =>
    cases hpieces : pieces (· == mark) rest with
    | nil => exact absurd hpieces (pieces_ne_nil _ rest)
    | cons first others =>
      rw [hpieces] at ih
      by_cases hmark : c = mark
      · subst hmark
        simp [pieces, hpieces, ih, List.intercalate_cons_cons]
      · cases others with
        | nil => simpa [pieces, hpieces, hmark] using ih
        | cons second later =>
          rw [List.intercalate_cons_cons] at ih
          simp [pieces, hpieces, hmark, List.intercalate_cons_cons, ih]

end Scaffold.Text

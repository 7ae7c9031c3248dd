import Scaffold.Text.Blank

/-!
# Cutting texts

Removing one leading stem (`dropStem`), splitting at the first occurrence of a character
(`cutAt?`), the part after its last occurrence (`afterLast`), the parts between its occurrences
(`parts`), and joining with a separator (`joinWith`).
-/

set_option autoImplicit false

namespace Scaffold.Text

/-- The text after `stem`, when the text begins with it. -/
def stripStem? (stem text : String) : Option String :=
  (stem.toList.isPrefixOf? text.toList).map String.ofList

/-- The text without one leading `stem`. -/
def dropStem (stem text : String) : String :=
  (stripStem? stem text).getD text

/-- The text before `ending`, when the text ends with it. -/
def stripEnding? (ending text : String) : Option String :=
  (ending.toList.isSuffixOf? text.toList).map String.ofList

/-- The characters before and after the first `mark`. -/
def cutChars? (mark : Char) : List Char → Option (List Char × List Char)
  | [] => none
  | c :: rest =>
    if c = mark then some ([], rest)
    else (cutChars? mark rest).map fun (before, after) ↦ (c :: before, after)

/-- The texts before and after the first `mark`. -/
def cutAt? (mark : Char) (text : String) : Option (String × String) :=
  (cutChars? mark text.toList).map fun (before, after) ↦ (String.ofList before, String.ofList after)

/-- Cutting takes the text apart at a `mark` that the first part does not hold. -/
theorem cutChars?_eq_some {mark : Char} {cs before after : List Char}
    (hcut : cutChars? mark cs = some (before, after)) :
    cs = before ++ mark :: after ∧ mark ∉ before := by
  induction cs generalizing before with
  | nil => simp [cutChars?] at hcut
  | cons c rest ih =>
    by_cases hmark : c = mark
    · simp only [cutChars?, hmark, if_true, Option.some.injEq, Prod.mk.injEq] at hcut
      obtain ⟨rfl, rfl⟩ := hcut
      simp [hmark]
    · simp only [cutChars?, hmark, if_false, Option.map_eq_some_iff] at hcut
      obtain ⟨⟨front, back⟩, hrest, heq⟩ := hcut
      simp only [Prod.mk.injEq] at heq
      obtain ⟨rfl, rfl⟩ := heq
      obtain ⟨rfl, hfree⟩ := ih hrest
      exact ⟨rfl, by simp [Ne.symm hmark, hfree]⟩

/-- The parts of the text between the occurrences of `mark`. -/
def parts (mark : Char) (text : String) : List String :=
  (pieces (· == mark) text.toList).map String.ofList

/-- The text after the last `mark`, or the whole text. -/
def afterLast (mark : Char) (text : String) : String :=
  String.ofList (text.toList.reverse.takeWhile (· != mark)).reverse

/-- The texts with `separator` between neighbours. -/
def joinWith (separator : String) : List String → String
  | [] => ""
  | [text] => text
  | text :: rest => text ++ separator ++ joinWith separator rest

/-- The character `c` repeated. -/
def repeated (c : Char) (count : Nat) : String :=
  String.ofList (List.replicate count c)

/-- The text in the middle of `width` characters, the odd space on the right. -/
def centred (width : Nat) (text : String) : String :=
  let gap := width - text.length
  repeated ' ' (gap / 2) ++ text ++ repeated ' ' (gap - gap / 2)

/-- The text followed by spaces up to `width` characters. -/
def padded (width : Nat) (text : String) : String :=
  text ++ repeated ' ' (width - text.length)

end Scaffold.Text

import Scaffold.Text.Cut
import Scaffold.Token.Table
import Scaffold.Token.UpperCase

/-!
# Derivation rules and the meaning of a token

A rule derives a token from others: its value is the concatenation of its parts, from left to
right. `rules` is the built-in table; no rule of it reaches its own token.

`meaning?` is what a token stands for over a table of supplied tokens, without any record of earlier
answers: the supplied value, else the value of its rule, else the upper-case form of its stem.
-/

set_option autoImplicit false

namespace Scaffold.Token

/-! ### Rules -/

/-- A part of a derived value. -/
inductive Part
  | text (written : String)
  | value (token : String)
  | valueWithoutLib (token : String)
  deriving DecidableEq, Repr

/-- How a token is derived. -/
structure Rule where
  token : String
  parts : List Part
  deriving DecidableEq, Repr

/-- The token that a part takes its value from. -/
def Part.input? : Part → Option String
  | .text _ => none
  | .value token => some token
  | .valueWithoutLib token => some token

/-- The text of a part, given the value of its input. -/
def Part.render (input : String) : Part → String
  | .text written => written
  | .value _ => input
  | .valueWithoutLib _ => Text.dropStem "lib" input

/-- The tokens that a rule needs, in the order of its parts. -/
def Rule.inputs (rule : Rule) : List String :=
  rule.parts.filterMap Part.input?

/-- The built-in rules. -/
def rules : List Rule :=
  [⟨"library_name_suffix", [.valueWithoutLib "library_name"]⟩,
    ⟨"python_module_name", [.text "py", .value "library_name_suffix"]⟩,
    ⟨"python_module_authors", [.value "authors"]⟩,
    ⟨"python_module_copyright", [.value "copyright"]⟩,
    ⟨"python_module_guid", [.value "python_module_name", .text "_guid"]⟩,
    ⟨"type_prefix", [.text "lib", .value "library_name_suffix", .text "_", .value "type_name"]⟩,
    ⟨"test_prefix", [.value "library_name_suffix", .text "_test_", .value "type_name"]⟩]

/-- The rule of a token. -/
def ruleFor? (token : String) : Option Rule :=
  rules.find? fun rule ↦ rule.token == token

/-- The ending that asks for the upper-case form of a token. -/
def upperCaseEnding : String := "_upper_case"

/-- The token whose upper-case form a token asks for. -/
def stem? (token : String) : Option String :=
  match Text.stripEnding? upperCaseEnding token with
  | some stem => if stem = "" then none else some stem
  | none => none

/-! ### Meanings -/

/-- More steps than any derivation of the token takes. -/
def depth (token : String) : Nat :=
  token.length + rules.length + 1

/-- The concatenation of the parts, when each input has a meaning. -/
def partsMeaning (meaning : String → Option String) : List Part → Option String
  | [] => some ""
  | part :: rest =>
    match part.input? with
    | none => (partsMeaning meaning rest).map fun text ↦ part.render "" ++ text
    | some token =>
      match meaning token, partsMeaning meaning rest with
      | some value, some text => some (part.render value ++ text)
      | _, _ => none

/-- The meaning of a token within a number of derivation steps. -/
def meaningWithin (base : TokenTable) : Nat → String → Option String
  | 0, _ => none
  | steps + 1, token =>
    match base.find? token with
    | some value => some value
    | none =>
      match ruleFor? token with
      | some rule => partsMeaning (meaningWithin base steps) rule.parts
      | none =>
        match stem? token with
        | some stem => (meaningWithin base steps stem).map upperCase
        | none => none

/-- The meaning of a token over the supplied tokens. -/
def meaning? (base : TokenTable) (token : String) : Option String :=
  meaningWithin base (depth token) token

end Scaffold.Token

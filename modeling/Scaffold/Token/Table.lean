import Scaffold.Fault
import Scaffold.Table

/-!
# Token tables

The tokens that a template is rendered with. A token is defined once: `define` refuses a second
value, and `merge` defines the tokens of another table in name order up to the first clash.
-/

set_option autoImplicit false

namespace Scaffold

/-- Token names with their values. -/
abbrev TokenTable := Table String

namespace TokenTable

/-- Adds a token; the same value again changes nothing and another value is refused. -/
def define (table : TokenTable) (name value : String) : Except Fault TokenTable :=
  match table.find? name with
  | none => .ok (table.insert name value)
  | some held => if held = value then .ok table else .error (.conflictingToken name)

/-- Defines the tokens from left to right up to the first clash. What was defined before a clash
stays. -/
def defineAll (table : TokenTable) : List (String × String) → TokenTable × Except Fault Unit
  | [] => (table, .ok ())
  | (name, value) :: rest =>
    match table.define name value with
    | .ok extended => defineAll extended rest
    | .error fault => (table, .error fault)

/-- Defines the tokens of another table, in name order. -/
def merge (table other : TokenTable) : TokenTable × Except Fault Unit :=
  table.defineAll other.entries

/-- The table merged with another, or the clash. -/
def merged (table other : TokenTable) : Except Fault TokenTable :=
  let (union, outcome) := table.merge other
  outcome.map fun _ ↦ union

end TokenTable

end Scaffold

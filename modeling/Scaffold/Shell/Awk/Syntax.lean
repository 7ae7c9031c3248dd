import Scaffold.Shell.Search.Expression

/-!
# Programs for records

What a program for `awk` is made of. A rule says which records it is for (`Rule`) and what is done
with them, in statements (`Statement`) that are made of terms (`Term`).
-/

set_option autoImplicit false

namespace Scaffold.Shell.Awk

open Text (Octets)

/-- What is done with two numbers. -/
inductive Operator
  | add
  | subtract
  | multiply
  | divide
  | remainder
  | power
  deriving DecidableEq, Repr

/-- How two values are compared. -/
inductive Relation
  | less
  | atMost
  | equal
  | differs
  | atLeast
  | more
  deriving DecidableEq, Repr

/-- Where a line is read from. -/
inductive LineSource
  /-- The records themselves. -/
  | records
  | file
  | command
  deriving DecidableEq, Repr

/-- What a name is one of: a global value or array, or a parameter of the function that is
running. -/
inductive Holder
  | global (name : String)
  | parameter (index : Nat)
  deriving DecidableEq, Repr

/-- What stands for a value. -/
inductive Term
  | number (value : Float)
  | text (octets : Octets)
  | pattern (sought : Sought)
  | named (holder : Holder)
  | element (array : Holder) (subscripts : List Term)
  | field (index : Term)
  | assign (target : Term) (operator : Option Operator) (value : Term)
  /-- A value that is one more or one less afterwards, or before. -/
  | step (target : Term) (goesUp isBefore : Bool)
  | binary (operator : Operator) (first second : Term)
  | compare (relation : Relation) (first second : Term)
  | join (first second : Term)
  | fits (isNegated : Bool) (text pattern : Term)
  | both (first second : Term)
  | either (first second : Term)
  | not (body : Term)
  | negative (body : Term)
  | positive (body : Term)
  | choose (condition yes no : Term)
  | member (subscripts : List Term) (array : Holder)
  | call (name : String) (arguments : List Term)
  | builtin (name : String) (arguments : List Term)
  | fetch (source : LineSource) (place : Option Term) (target : Option Term)
  /-- A term in parentheses. -/
  | grouped (body : Term)
  deriving Inhabited

/-- Where output goes. -/
inductive OutputKind
  | replaced
  | appended
  | command
  deriving DecidableEq, Repr

/-- What a program does. -/
inductive Statement
  | nothing
  | value (term : Term)
  | print (arguments : List Term) (output : Option (OutputKind × Term))
  | printf (arguments : List Term) (output : Option (OutputKind × Term))
  | block (body : List Statement)
  | branch (condition : Term) (yes no : Statement)
  /-- A loop with what is done after each round; without a condition it has no end of its own. -/
  | loop (condition : Option Term) (step : Option Term) (body : Statement)
  | repeated (body : Statement) (condition : Term)
  /-- A loop over the subscripts of an array. -/
  | each (target : Term) (array : Holder) (body : Statement)
  | nextRecord
  | nextFile
  | finish (status : Option Term)
  | giveBack (value : Option Term)
  | leave
  | goOn
  | delete (array : Holder) (subscripts : List Term)
  | clear (array : Holder)

/-- When a rule is carried out. -/
inductive Condition
  | start
  | finish
  | always
  | holds (term : Term)
  /-- From one record on up to another one. -/
  | range (first last : Term)

/-- What is done when. -/
structure Rule where
  condition : Condition
  /-- The statements; without any the record is printed. -/
  action : Option (List Statement)

/-- A function of the program. -/
structure Routine where
  /-- For each parameter, whether it is known to be an array. -/
  parameters : List Bool
  body : List Statement

/-- A program. -/
structure Program where
  rules : List Rule
  routines : List (String × Routine)

/-- The term has a place of its own, so that a value can be put there. -/
def Term.isTarget : Term → Bool
  | .named _ | .element _ _ | .field _ => true
  | _ => false

end Scaffold.Shell.Awk

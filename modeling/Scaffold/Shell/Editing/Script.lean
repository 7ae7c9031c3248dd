import Scaffold.Shell.Search.Dialect

/-!
# Scripts that edit lines

A script is a list of instructions. An instruction applies to the lines that its addresses select; a
range of lines begins at one address and ends at another one.
-/

set_option autoImplicit false

namespace Scaffold.Shell.Editing

open Text (Octets)

/-- What selects a line; an expression that is left out is the one that was used last. -/
inductive Address
  | number (line : Nat)
  | last
  | step (first gap : Nat)
  | text (sought : Option Sought)
  deriving Repr

/-- Where a range of lines ends. -/
inductive RangeEnd
  | address (address : Address)
  | plus (count : Nat)
  | multiple (count : Nat)
  deriving Repr

/-- The lines that an instruction applies to. -/
structure Selection where
  first : Option Address
  last : Option RangeEnd
  isOpposite : Bool
  deriving Repr

/-- The case that letters are put in: that of all, and that of the first one. -/
structure LetterCase where
  all : Option Bool
  first : Option Bool
  deriving DecidableEq, Repr

namespace LetterCase

/-- Letters stay as they are. -/
def plain : LetterCase :=
  ⟨none, none⟩

/-- An octet in upper or lower case. -/
def change (isUpper : Option Bool) (c : Char) : Char :=
  match isUpper with
  | some true => c.toUpper
  | some false => c.toLower
  | none => c

/-- A text in this case. -/
def apply (letters : LetterCase) (text : Octets) : Octets :=
  match text with
  | [] => []
  | c :: rest => change (letters.first <|> letters.all) c :: rest.map (change letters.all)

end LetterCase

/-- A part of what is put in the place of a match: a text, and after it a group of the match. -/
structure Segment where
  text : Octets
  letters : LetterCase
  group : Option Nat
  deriving Repr

/-- What a substitution does. -/
structure Substitution where
  sought : Option Sought
  replacement : List Segment
  isGlobal : Bool
  /-- The match that counts first. -/
  which : Nat
  prints : Bool
  /-- What comes of it is run as a command. -/
  evaluates : Bool
  target : Option Octets
  deriving Repr

/-- What an instruction does. -/
inductive Action
  | enter
  | leave
  | label (name : Octets)
  | jump (letter : Char) (name : Octets)
  | substitute (substitution : Substitution)
  | translate (table : List (Char × Char))
  | append (text : Octets)
  | insert (text : Octets)
  | change (text : Octets)
  | quit (isSilent : Bool) (status : Nat)
  | read (path : Octets)
  | readLine (path : Octets)
  | write (path : Octets)
  | writeFirst (path : Octets)
  /-- Shows the space unambiguously, in lines of this length. -/
  | list (length : Option Nat)
  /-- Runs a command, or the space as one. -/
  | execute (command : Octets)
  | simple (letter : Char)
  deriving Repr

/-- An instruction of a script, with its number. -/
structure Instruction where
  number : Nat
  selection : Selection
  action : Action
  deriving Repr

/-- A script as it was read: its instructions, and whether it says that nothing is to be printed of
itself. -/
structure Script where
  instructions : List Instruction
  isSilent : Bool
  deriving Repr

/-- The file that the instruction writes to. -/
def Instruction.target? (instruction : Instruction) : Option Octets :=
  match instruction.action with
  | .write path | .writeFirst path => some path
  | .substitute change => change.target
  | _ => none

end Scaffold.Shell.Editing

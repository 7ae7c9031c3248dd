import Scaffold.Shell.Awk.Value
import Std.Data.HashMap

/-!
# Arrays of programs for records

An array keeps values by texts. The order in which a loop meets the subscripts comes from shelves:
a subscript stands on the shelf that its octets lead to, what was used last in front. Whole numbers
have shelves of their own, and are put on those for texts when a text is first asked for
(`Table.withTexts`). There are twice as many shelves as soon as there are more than twelve
subscripts for each.
-/

set_option autoImplicit false

namespace Scaffold.Shell.Awk

open Text (Octets)

/-- A subscript: a text or a whole number. -/
inductive Subscript
  | text (octets : Octets)
  | whole (value : Int)

/-- The text of a subscript. -/
def Subscript.octets : Subscript → Octets
  | text octets => octets
  | whole value => Number.text value

/-- An array. -/
structure Table where
  values : Std.HashMap Octets Value
  /-- The number of shelves. -/
  shelves : Nat
  /-- The subscripts by their texts, if they are needed. -/
  texts : Option (Array (List Octets))
  wholes : Array (List Int)
  /-- The values are those of a row that was cut off a text, and nothing was added to it. -/
  isRow : Bool

namespace Table

/-- The shelves of an array without subscripts. -/
def startShelves : Nat := 64

/-- The array without subscripts. -/
def empty : Table :=
  ⟨{}, startShelves, none, Array.replicate startShelves [], false⟩

/-- The number of subscripts. -/
def count (table : Table) : Nat :=
  table.values.size

/-- The number that the octets of a text lead to. -/
def code (octets : Octets) : Nat :=
  (octets.foldl (fun (sum : UInt32) c ↦ (sum ^^^ c.toNat.toUInt32) * 16777619) 2166136261).toNat

/-- The shelf of a text. -/
def shelfOf (table : Table) (octets : Octets) : Nat :=
  code octets % table.shelves

/-- The shelf of a whole number. -/
def shelfOfWhole (table : Table) (value : Int) : Nat :=
  (value % table.shelves).toNat

/-- A list with one of its entries, or a new one, in front. -/
def fronted {α : Type} [BEq α] (entry : α) (entries : List α) : List α :=
  match entries with
  | [] => [entry]
  | first :: rest => if first == entry then entries else entry :: first :: rest.erase entry

/-- The shelves with an entry in front on one of them. -/
def put {α : Type} [BEq α] (shelves : Array (List α)) (shelf : Nat) (entry : α) :
    Array (List α) :=
  shelves.modify shelf (fronted entry)

/-- Twice as many shelves, with each entry where it belongs. -/
def doubled {α : Type} (shelfOf : α → Nat) (shelves : Array (List α)) : Array (List α) :=
  let stay := shelves.mapIdx fun index entries ↦ entries.filter fun entry ↦ shelfOf entry == index
  let move := shelves.map fun entries ↦ entries.filter fun entry ↦
    shelfOf entry ≥ shelves.size
  stay ++ move

/-- The array with enough shelves. -/
def grown (table : Table) : Table :=
  if table.count ≤ 12 * table.shelves then table
  else
    let shelves := 2 * table.shelves
    { table with
      shelves
      texts := table.texts.map (doubled fun octets ↦ code octets % shelves)
      wholes := doubled (fun value ↦ (value % shelves).toNat) table.wholes }

/-- The array of a row of values. -/
def ofRow (row : List Value) : Table :=
  let values := row.zipIdx.foldl (fun (values : Std.HashMap Octets Value) (value, index) ↦
    values.insert (Number.digits 10 (index + 1)) value) {}
  { empty with values, isRow := true }

/-- The array where the subscripts of a row stand on shelves. -/
def withShelves (table : Table) : Table :=
  if !table.isRow then table
  else
    let count := table.count
    let shelves := (List.range 40).foldl (fun shelves _ ↦
      if count > 12 * shelves then 2 * shelves else shelves) startShelves
    let wholes := (List.range count).foldl (fun (wholes : Array (List Int)) index ↦
      wholes.modify ((index + 1) % shelves) (((index + 1 : Nat) : Int) :: ·))
      (Array.replicate shelves [])
    { table with shelves, wholes, isRow := false }

/-- The array where all subscripts stand on the shelves for texts. -/
def withTexts (table : Table) : Table :=
  let table := table.withShelves
  match table.texts with
  | some _ => table
  | none =>
    let texts := table.wholes.foldl (fun (texts : Array (List Octets)) entries ↦
      entries.foldl (fun (texts : Array (List Octets)) value ↦
        let octets := Number.text value
        texts.modify (table.shelfOf octets) (octets :: ·)) texts)
      (Array.replicate table.shelves [])
    { table with texts := some texts }

/-- The array after a subscript of a row was asked for. -/
def isInRow (table : Table) (subscript : Subscript) : Bool :=
  table.isRow && match subscript with
    | .whole value => 1 ≤ value && value ≤ table.count
    | .text _ => false

/-- The array after a subscript was looked for: it stands in front if it is there, and is added if
`creates`. -/
def touched (table : Table) (creates : Bool) (subscript : Subscript) : Table :=
  if table.isInRow subscript then table
  else
    let octets := subscript.octets
    let isThere := table.values.contains octets
    let table := match subscript with
      | .text _ => table.withTexts
      | .whole _ => if creates || isThere then table.withShelves else table
    if !isThere && !creates then table
    else
      let table := if isThere then table
        else { table with values := table.values.insert octets .unset }.grown
      let shelf := table.shelfOf octets
      match subscript with
      | .text _ => { table with texts := table.texts.map (put · shelf octets) }
      | .whole value =>
        let wholeShelf := table.shelfOfWhole value
        let isOnShelf := (table.wholes[wholeShelf]?.getD []).contains value
        if isOnShelf then { table with wholes := put table.wholes wholeShelf value }
        else
          { table with
            texts := table.texts.map (put · shelf octets)
            wholes := put table.wholes wholeShelf value }

/-- The value of a subscript. -/
def get (table : Table) (subscript : Subscript) : Value :=
  table.values.getD subscript.octets .unset

/-- The array has the subscript. -/
def has (table : Table) (subscript : Subscript) : Bool :=
  table.values.contains subscript.octets

/-- The array with a value at a subscript that it has. -/
def set (table : Table) (subscript : Subscript) (value : Value) : Table :=
  { table with values := table.values.insert subscript.octets value }

/-- The whole number that a text names. -/
def wholeOf? (octets : Octets) : Option Int :=
  (Number.decimal? octets).filter fun value ↦ Number.text value == octets

/-- The array without a subscript. -/
def erase (table : Table) (subscript : Subscript) : Table :=
  let octets := subscript.octets
  if !table.values.contains octets then table
  else
    let table := (match subscript with
      | .text _ => table.withTexts
      | .whole _ => table.withShelves)
    let shelf := table.shelfOf octets
    if table.count ≤ 1 then empty
    else
      { table with
        values := table.values.erase octets
        texts := table.texts.map fun texts ↦ texts.modify shelf (·.erase octets)
        wholes := match wholeOf? octets with
          | some value => table.wholes.modify (table.shelfOfWhole value) (·.erase value)
          | none => table.wholes }

/-- The subscripts in the order in which a loop meets them, where all stand on the shelves for
texts. -/
def subscripts (table : Table) : List Octets :=
  ((table.texts.map Array.toList).getD []).flatten

end Table

end Scaffold.Shell.Awk

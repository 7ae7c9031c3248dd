import Std.Data.HashMap
import Scaffold.Text.Octets

/-!
# Differences of two texts

Which lines of a text give way to which others in a second one. Lines are known by numbers, equal
lines by equal ones (`Difference.classesOf`). A search from both ends finds a point that a shortest
way from the one text to the other passes (`Difference.midpoint`), which splits the task in two
(`Difference.mark`). Where a run of changed lines may lie at several places, it is moved to where
runs meet, and else as far down as it goes (`Difference.settled`).
-/

set_option autoImplicit false

namespace Scaffold.Shell

open Text (Octets)

/-- A run of lines that give way to others, which may be none: where both begin, counted from zero,
and how many they are. -/
structure Hunk where
  oldStart : Nat
  oldCount : Nat
  newStart : Nat
  newCount : Nat
  deriving DecidableEq, Repr

namespace Difference

/-- Numbers for the lines of two texts; equal lines have equal numbers. -/
def classesOf (first second : Array Octets) : Array Nat × Array Nat :=
  let number := fun (state : Std.HashMap Octets Nat × Array Nat) (line : Octets) ↦
    match state.1[line]? with
    | some known => (state.1, state.2.push known)
    | none => (state.1.insert line state.1.size, state.2.push state.1.size)
  let (known, old) := first.foldl number (∅, #[])
  let (_, new) := second.foldl number (known, #[])
  (old, new)

/-! ### The search from both ends -/

/-- A part of the task: the lines from a place in each text up to another one. -/
structure Part where
  oldStart : Nat
  oldEnd : Nat
  newStart : Nat
  newEnd : Nat
  deriving Repr

/-- The place in the first text after the lines that agree from two places on. -/
def forwards (old new : Array Nat) (part : Part) : (left : Nat) → (x y : Nat) → Nat
  | 0, x, _ => x
  | left + 1, x, y =>
    if x < part.oldEnd && y < part.newEnd && old.getD x 0 == new.getD y 0 then
      forwards old new part left (x + 1) (y + 1)
    else x

/-- The place in the first text before the lines that agree up to two places. -/
def backwards (old new : Array Nat) (part : Part) : (left : Nat) → (x y : Nat) → Nat
  | 0, x, _ => x
  | left + 1, x, y =>
    if part.oldStart < x && part.newStart < y && old.getD (x - 1) 0 == new.getD (y - 1) 0 then
      backwards old new part left (x - 1) (y - 1)
    else x

/-- How far a search has come on each diagonal, between the least and the greatest one. -/
structure Frontier where
  reached : Array Int
  least : Int
  greatest : Int

namespace Frontier

/-- The place that was reached on a diagonal; `base` is the number of the first one. -/
def get (frontier : Frontier) (base diagonal : Int) : Int :=
  frontier.reached.getD (diagonal - base).toNat 0

/-- The frontier with a place on a diagonal. -/
def set (frontier : Frontier) (base diagonal place : Int) : Frontier :=
  { frontier with reached := frontier.reached.setIfInBounds (diagonal - base).toNat place }

/-- The frontier with one more diagonal on either side, up to bounds. A diagonal that is new has an
outermost place beside it. -/
def widened (frontier : Frontier) (base least greatest outermost : Int) : Frontier :=
  let frontier :=
    if least < frontier.least then
      { frontier.set base (frontier.least - 2) outermost with least := frontier.least - 1 }
    else { frontier with least := frontier.least + 1 }
  if frontier.greatest < greatest then
    { frontier.set base (frontier.greatest + 2) outermost with greatest := frontier.greatest + 1 }
  else { frontier with greatest := frontier.greatest - 1 }

end Frontier

/-- One more step of the search from the start, on every second diagonal down from one; it ends
where it meets the search from the end. -/
def stepForwards (old new : Array Nat) (part : Part) (base : Int) (other : Option Frontier) :
    (left : Nat) → (diagonal : Int) → Frontier → Frontier × Option (Nat × Nat)
  | 0, _, frontier => (frontier, none)
  | left + 1, diagonal, frontier =>
    if diagonal < frontier.least then (frontier, none)
    else
      let below := frontier.get base (diagonal - 1)
      let above := frontier.get base (diagonal + 1)
      let start := if below < above then above else below + 1
      let x := forwards old new part (part.oldEnd + 1) start.toNat (start - diagonal).toNat
      let frontier := frontier.set base diagonal x
      let meets := other.any fun other ↦
        other.least ≤ diagonal && diagonal ≤ other.greatest && other.get base diagonal ≤ (x : Int)
      if meets then (frontier, some (x, ((x : Int) - diagonal).toNat))
      else stepForwards old new part base other left (diagonal - 2) frontier

/-- One more step of the search from the end, on every second diagonal down from one; it ends where
it meets the search from the start. -/
def stepBackwards (old new : Array Nat) (part : Part) (base : Int) (other : Option Frontier) :
    (left : Nat) → (diagonal : Int) → Frontier → Frontier × Option (Nat × Nat)
  | 0, _, frontier => (frontier, none)
  | left + 1, diagonal, frontier =>
    if diagonal < frontier.least then (frontier, none)
    else
      let below := frontier.get base (diagonal - 1)
      let above := frontier.get base (diagonal + 1)
      let start := if below < above then below else above - 1
      let x := backwards old new part (start.toNat + 1) start.toNat (start - diagonal).toNat
      let frontier := frontier.set base diagonal x
      let meets := other.any fun other ↦
        other.least ≤ diagonal && diagonal ≤ other.greatest && (x : Int) ≤ other.get base diagonal
      if meets then (frontier, some (x, ((x : Int) - diagonal).toNat))
      else stepBackwards old new part base other left (diagonal - 2) frontier

/-- Steps of both searches in turn until they meet; `left` bounds their number. -/
def meet (old new : Array Nat) (part : Part) (base : Int) (isOdd : Bool) :
    (left : Nat) → (ahead back : Frontier) → Nat × Nat
  | 0, _, _ => (part.oldStart, part.newStart)
  | left + 1, ahead, back =>
    let least := (part.oldStart : Int) - part.newEnd
    let greatest := (part.oldEnd : Int) - part.newStart
    let rounds := part.oldEnd + part.newEnd + 2
    let ahead := ahead.widened base least greatest (-1)
    let (ahead, met?) := stepForwards old new part base (if isOdd then some back else none) rounds
      ahead.greatest ahead
    match met? with
    | some point => point
    | none =>
      let back := back.widened base least greatest (part.oldEnd + part.newEnd + 2)
      let (back, met?) := stepBackwards old new part base (if isOdd then none else some ahead)
        rounds back.greatest back
      match met? with
      | some point => point
      | none => meet old new part base isOdd left ahead back

/-- A point that a shortest way through a part passes, as a place in each text. -/
def midpoint (old new : Array Nat) (part : Part) : Nat × Nat :=
  let base := (part.oldStart : Int) - part.newEnd - 2
  let size := part.oldEnd - part.oldStart + (part.newEnd - part.newStart) + 5
  let start := (part.oldStart : Int) - part.newStart
  let finish := (part.oldEnd : Int) - part.newEnd
  let blank : Frontier := ⟨Array.replicate size 0, start, start⟩
  let ahead := blank.set base start part.oldStart
  let back := { blank.set base finish part.oldEnd with least := finish, greatest := finish }
  meet old new part base ((start - finish) % 2 != 0) size ahead back

/-- Flags for the changed lines of two texts. -/
structure Flags where
  old : Array Bool
  new : Array Bool

/-- Marks the changed lines of a part. -/
def mark (old new : Array Nat) : (left : Nat) → Part → Flags → Flags
  | 0, _, flags => flags
  | left + 1, part, flags =>
    let x := forwards old new part (part.oldEnd + 1) part.oldStart part.newStart
    let part := { part with oldStart := x, newStart := part.newStart + (x - part.oldStart) }
    let x := backwards old new part (part.oldEnd + 1) part.oldEnd part.newEnd
    let part := { part with oldEnd := x, newEnd := part.newEnd - (part.oldEnd - x) }
    let raised := fun (flags : Array Bool) (start finish : Nat) ↦
      (List.range (finish - start)).foldl (fun flags offset ↦
        flags.setIfInBounds (start + offset) true) flags
    if part.oldStart = part.oldEnd then
      { flags with new := raised flags.new part.newStart part.newEnd }
    else if part.newStart = part.newEnd then
      { flags with old := raised flags.old part.oldStart part.oldEnd }
    else
      let (x, y) := midpoint old new part
      mark old new left { part with oldStart := x, newStart := y }
        (mark old new left { part with oldEnd := x, newEnd := y } flags)

/-! ### Lines that cannot stay -/

/-- The numbers of lines between two bounds that occur among others, with their places. -/
def kept (lines others : Array Nat) (start finish otherStart otherFinish : Nat) :
    Array Nat × Array Nat :=
  let known := (others.extract otherStart otherFinish).foldl (fun known line ↦
    known.insert line ()) (∅ : Std.HashMap Nat Unit)
  (List.range (finish - start)).foldl (fun (state : Array Nat × Array Nat) offset ↦
    let line := lines.getD (start + offset) 0
    if known.contains line then (state.1.push line, state.2.push (start + offset)) else state)
    (#[], #[])

/-- The flags of all lines, where those that were kept have the flags of a shorter list. -/
def spread (size start finish : Nat) (places : Array Nat) (flags : Array Bool) : Array Bool :=
  let gone := (List.range (finish - start)).foldl (fun (all : Array Bool) offset ↦
    all.setIfInBounds (start + offset) true) (Array.replicate size false)
  (places.zip flags).foldl (fun all (place, flag) ↦ all.setIfInBounds place flag) gone

/-! ### Runs that may lie at several places -/

/-- The place after the flagged lines from a place on. -/
def runEnd (flags : Array Bool) : (left : Nat) → (place : Nat) → Nat
  | 0, place => place
  | left + 1, place => if flags.getD place false then runEnd flags left (place + 1) else place

/-- The place of the last line before a place that has no flag. -/
def lineBefore (flags : Array Bool) : (place : Nat) → Nat
  | 0 => 0
  | place + 1 => if flags.getD place false then lineBefore flags place else place

/-- The start of the flagged lines before a place. -/
def runStart (flags : Array Bool) : (place : Nat) → Nat
  | 0 => 0
  | place + 1 => if flags.getD place false then runStart flags place else place + 1

/-- A run of changed lines that is moved: the flags, its bounds, and the place in the other text. -/
structure Run where
  flags : Array Bool
  start : Nat
  finish : Nat
  partner : Nat

/-- Moves a run up as far as it goes; it grows by runs that it meets. -/
def movedUp (lines : Array Nat) (least : Nat) (other : Array Bool) : (left : Nat) → Run → Run
  | 0, run => run
  | left + 1, run =>
    if run.start > least && lines.getD (run.start - 1) 0 == lines.getD (run.finish - 1) 0 then
      let flags := (run.flags.setIfInBounds (run.start - 1) true).setIfInBounds (run.finish - 1)
        false
      movedUp lines least other left
        ⟨flags, runStart flags (run.start - 1), run.finish - 1, lineBefore other run.partner⟩
    else run

/-- Moves a run down as far as it goes, and tells its end at the last place where it met a run of
the other text. -/
def movedDown (lines : Array Nat) (greatest : Nat) (other : Array Bool) :
    (left : Nat) → Run → (met : Nat) → Run × Nat
  | 0, run, met => (run, met)
  | left + 1, run, met =>
    if run.finish < greatest && lines.getD run.start 0 == lines.getD run.finish 0 then
      let flags := (run.flags.setIfInBounds run.start false).setIfInBounds run.finish true
      let finish := runEnd flags flags.size (run.finish + 1)
      let partner := runEnd other other.size (run.partner + 1)
      movedDown lines greatest other left ⟨flags, run.start + 1, finish, partner⟩
        (if partner > run.partner + 1 then finish else met)
    else (run, met)

/-- Moves a run up and down until it no longer grows. -/
def moved (lines : Array Nat) (least greatest : Nat) (other : Array Bool) :
    (left : Nat) → Run → Run × Nat
  | 0, run => (run, greatest)
  | left + 1, run =>
    let up := movedUp lines least other lines.size run
    let met :=
      if up.partner > 0 && other.getD (up.partner - 1) false then up.finish else greatest
    let (down, met) := movedDown lines greatest other lines.size up met
    if down.finish - down.start = run.finish - run.start then (down, met)
    else moved lines least greatest other left down

/-- Moves a run back up to where it met a run of the other text. -/
def movedBack (other : Array Bool) (met : Nat) : (left : Nat) → Run → Run
  | 0, run => run
  | left + 1, run =>
    if met < run.finish then
      let flags := (run.flags.setIfInBounds (run.start - 1) true).setIfInBounds (run.finish - 1)
        false
      movedBack other met left
        ⟨flags, run.start - 1, run.finish - 1, lineBefore other run.partner⟩
    else run

/-- The flags of a text with all runs from two places on moved to where they belong. -/
def settled (lines : Array Nat) (least greatest : Nat) (other : Array Bool) :
    (left : Nat) → (place partner : Nat) → Array Bool → Array Bool
  | 0, _, _, flags => flags
  | left + 1, place, partner, flags =>
    if place ≥ greatest then flags
    else if !flags.getD place false then
      settled lines least greatest other left (place + 1) (runEnd other other.size partner + 1)
        flags
    else
      let run : Run := ⟨flags, place, runEnd flags flags.size (place + 1),
        runEnd other other.size partner⟩
      let (run, met) := moved lines least greatest other (lines.size + 1) run
      let run := movedBack other met lines.size run
      settled lines least greatest other left run.finish run.partner run.flags

/-! ### The differences -/

/-- The runs of flagged lines from two places on. -/
def runs (flags : Flags) : (left : Nat) → (i j : Nat) → List Hunk
  | 0, _, _ => []
  | left + 1, i, j =>
    if i ≥ flags.old.size ∧ j ≥ flags.new.size then []
    else
      let oldEnd := runEnd flags.old flags.old.size i
      let newEnd := runEnd flags.new flags.new.size j
      let rest := runs flags left (oldEnd + 1) (newEnd + 1)
      if oldEnd = i ∧ newEnd = j then rest else ⟨i, oldEnd - i, j, newEnd - j⟩ :: rest

/-- The number of equal lines at the front of two texts from a place on. -/
def commonFront (first second : Array Octets) : (left : Nat) → (place : Nat) → Nat
  | 0, _ => 0
  | left + 1, place =>
    match first[place]?, second[place]? with
    | some a, some b => if a == b then commonFront first second left (place + 1) + 1 else 0
    | _, _ => 0

/-- The number of equal lines at the end of two texts, at most so many. -/
def commonEnd (first second : Array Octets) : (most : Nat) → (fromEnd : Nat) → Nat
  | 0, _ => 0
  | most + 1, fromEnd =>
    if first.getD (first.size - 1 - fromEnd) [] == second.getD (second.size - 1 - fromEnd) [] then
      commonEnd first second most (fromEnd + 1) + 1
    else 0

/-- The differences of two texts, whose lines are given as they are and by what counts of them.
Equal lines at both ends are left out but for so many, and all of those at the end are kept if
`keepsEnd`; `isMinimal` keeps lines that occur in one text alone among those that are searched. -/
def hunks (first second : Array Octets) (classes : Array Nat × Array Nat) (horizon : Nat)
    (keepsEnd isMinimal : Bool) : List Hunk :=
  let (old, new) := classes
  let front := commonFront first second first.size 0 - horizon
  let most := min (first.size - front) (second.size - front)
  let ending := if keepsEnd then 0 else commonEnd first second most 0 - horizon
  let oldEnd := first.size - ending
  let newEnd := second.size - ending
  let all := fun (lines : Array Nat) (start finish : Nat) ↦
    (lines.extract start finish, (List.range' start (finish - start)).toArray)
  let (oldKept, oldPlaces) :=
    if isMinimal then all old front oldEnd else kept old new front oldEnd front newEnd
  let (newKept, newPlaces) :=
    if isMinimal then all new front newEnd else kept new old front newEnd front oldEnd
  let marked := mark oldKept newKept (oldKept.size + newKept.size + 1)
    ⟨0, oldKept.size, 0, newKept.size⟩
    ⟨Array.replicate oldKept.size false, Array.replicate newKept.size false⟩
  let oldFlags := spread first.size front oldEnd oldPlaces marked.old
  let newFlags := spread second.size front newEnd newPlaces marked.new
  let oldFlags := settled old front oldEnd newFlags (first.size + 1) front front oldFlags
  let newFlags := settled new front newEnd oldFlags (second.size + 1) front front newFlags
  runs ⟨oldFlags, newFlags⟩ (first.size + second.size + 1) 0 0

end Difference

end Scaffold.Shell

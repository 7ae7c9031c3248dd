import Scaffold.Shell.Pattern
import Std.Data.HashSet

/-!
# Expressions to search for

An expression stands for parts of a text. `Expression.follow` gives the ends of the parts that begin
at a place, each end once, in the order of preference: an earlier alternative comes before a later
one, and a longer repetition before a shorter one unless it is a lazy one. A search (`Sought`) finds
the leftmost place where a part begins, and there the farthest end, or the preferred one.

A repetition takes another round only where the round reads something, so `follow` needs no more
rounds than octets are left.
-/

set_option autoImplicit false

namespace Scaffold.Shell

open Text (Octets)

/-- A place that is told by what lies around it. -/
inductive Anchor
  | textStart
  | textEnd
  /-- The end of the text, or the place before a newline that ends it. -/
  | lastLineEnd
  | lineStart
  | lineEnd
  | wordStart
  | wordEnd
  | word
  | noWord
  deriving DecidableEq, Repr

/-- An expression. -/
inductive Expression
  | nothing
  | octet (c : Char)
  | any
  | oneOf (isNegated : Bool) (ranges : List (Char × Char))
  | edge (kind : Anchor)
  | sequence (first second : Expression)
  | either (first second : Expression)
  | repeated (body : Expression) (least : Nat) (most : Option Nat) (isLazy : Bool)
  /-- A part that is remembered. An optional one does not forget what it stood for when it comes to
  stand for nothing. -/
  | group (number : Nat) (isOptional : Bool) (body : Expression)
  | again (number : Nat) (folds : Bool)
  /-- A part for which only its preferred end counts. -/
  | settled (body : Expression)
  /-- What follows is a part of this kind, or is none. -/
  | ahead (isNegated : Bool) (body : Expression)
  /-- What comes before is a part of this kind, or is none. -/
  | behind (isNegated : Bool) (body : Expression)
  /-- The part that is found begins here. -/
  | cut
  /-- One expression if a group stands for something, else another one. -/
  | given (number : Nat) (yes no : Expression)
  deriving Repr

/-- A place in a text: the octets before it, the nearest first, what follows it, and how many octets
come before. -/
structure Place where
  passed : Octets
  rest : Octets
  index : Nat
  deriving Repr

namespace Place

/-- The start of a text. -/
def start (text : Octets) : Place :=
  ⟨[], text, 0⟩

/-- The octet before a place. -/
def before (place : Place) : Option Char :=
  place.passed.head?

/-- The octet after a place. -/
def after (place : Place) : Option Char :=
  place.rest.head?

/-- The place after one more octet, if there is one. -/
def next? (place : Place) : Option Place :=
  match place.rest with
  | c :: rest => some ⟨c :: place.passed, rest, place.index + 1⟩
  | [] => none

/-- The place after so many octets more. -/
def skip (place : Place) (count : Nat) : Place :=
  ⟨(place.rest.take count).reverse ++ place.passed, place.rest.drop count, place.index + count⟩

/-- The places before this one, the nearest first, and the place itself. -/
def backwards (place : Place) : List Place :=
  let rec go : Octets → Octets → Nat → List Place
    | c :: passed, rest, index + 1 =>
      ⟨c :: passed, rest, index + 1⟩ :: go passed (c :: rest) index
    | passed, rest, index => [⟨passed, rest, index⟩]
  go place.passed place.rest place.index

/-- The octets from one place to a later one. -/
def upTo (start finish : Place) : Octets :=
  start.rest.take (finish.index - start.index)

end Place

/-- The parts that groups stand for. -/
abbrev Groups := List (Nat × Octets)

/-- Where a part ends, with the parts that groups stand for, and the place where it begins if that
is another one. -/
structure Found where
  place : Place
  groups : Groups
  /-- The groups as they were when the last group came to stand for something. -/
  kept : Groups
  start : Option Place
  deriving Repr

namespace Found

/-- A place where a part may begin. -/
def at_ (place : Place) : Found :=
  ⟨place, [], [], none⟩

/-- Notes what a group stands for. -/
def close (found : Found) (number : Nat) (isOptional : Bool) (text : Octets) : Found :=
  let groups := (number, text) :: found.groups.filter (·.1 != number)
  if !text.isEmpty then { found with groups, kept := groups }
  else if isOptional && (found.kept.lookup number).isSome then { found with groups := found.kept }
  else { found with groups }

end Found

namespace Expression

/-- An octet of a word. -/
def isWordOctet (c : Char) : Bool :=
  c.isAlphanum || c == '_'

/-- The place is such an edge. -/
def isAt (kind : Anchor) (place : Place) : Bool :=
  let before := place.before.any isWordOctet
  let after := place.after.any isWordOctet
  match kind with
  | .textStart => place.passed.isEmpty
  | .textEnd => place.rest.isEmpty
  | .lastLineEnd => place.rest.isEmpty || place.rest == ['\n']
  | .lineStart => place.before.all (· == '\n')
  | .lineEnd => place.after.all (· == '\n')
  | .wordStart => !before && after
  | .wordEnd => before && !after
  | .word => before != after
  | .noWord => before == after

/-- The expression stands for one octet, which it accepts. -/
def acceptsOctet : Expression → Option (Char → Bool)
  | octet expected => some (· == expected)
  | any => some fun _ ↦ true
  | oneOf isNegated ranges =>
    some fun c ↦ ranges.any (fun range ↦ range.1 ≤ c && c ≤ range.2) != isNegated
  | _ => none

/-- What tells ends apart: the place, and the groups if they are asked for again. -/
def keyOf (tracks : Bool) (found : Found) : Nat × Groups :=
  (found.place.index, if tracks then found.groups else [])

/-- The ends without those that come again. -/
def distinct (tracks : Bool) (found : List Found) : List Found :=
  match found with
  | [] => []
  | [only] => [only]
  | several =>
    let seen : Std.HashSet (Nat × Groups) := {}
    (several.foldl (fun (kept, seen) next ↦
      let key := keyOf tracks next
      if seen.contains key then (kept, seen) else (next :: kept, seen.insert key))
      (([] : List Found), seen)).1.reverse

/-- The places that are reached by reading octets that `accepts` accepts, at most `most` of them,
the last one first, before those in `reached`. -/
def reach (accepts : Char → Bool) : (most : Nat) → (reached : List Place) → Place → List Place
  | 0, reached, place => place :: reached
  | most + 1, reached, place =>
    match place.next? with
    | some next =>
      if next.before.any accepts then reach accepts most (place :: reached) next
      else place :: reached
    | none => place :: reached

/-- The ends of at least `least` and at most `most` octets that `accepts` accepts. -/
def runs (accepts : Char → Bool) (least : Nat) (most : Option Nat) (isLazy : Bool)
    (found : Found) : List Found :=
  let places := reach accepts (most.getD found.place.rest.length) [] found.place
  let places := places.take (places.length - least)
  (if isLazy then places.reverse else places).map fun place ↦ { found with place }

/-- What is known while the ends of a repetition are gathered: what was visited, with the rounds
that were left there, and the ends, the last one first. -/
structure Gathering where
  visited : Std.HashSet (Nat × Nat × Groups)
  ends : List Found

/-- Gathers the ends of further rounds of a body from a place on; `step` gives the ends of one, and
`left` bounds the rounds. A round that reads nothing is the last one. -/
def gather (tracks : Bool) (step : Found → List Found) (isLazy : Bool) :
    (left : Nat) → (most : Option Nat) → Found → Gathering → Gathering
  | 0, _, found, state => { state with ends := found :: state.ends }
  | left + 1, most, found, state =>
    let key := (most.elim 0 (· + 1), keyOf tracks found)
    if state.visited.contains key then state
    else
      let state := { state with visited := state.visited.insert key }
      if most == some 0 then { state with ends := found :: state.ends }
      else
        let state := if isLazy then { state with ends := found :: state.ends } else state
        let state := (step found).foldl (fun state next ↦
          if next.place.index == found.place.index then
            { state with ends := next :: state.ends }
          else gather tracks step isLazy left (most.map (· - 1)) next state) state
        if isLazy then state else { state with ends := found :: state.ends }

/-- The ends of so many rounds. -/
def exactly (tracks : Bool) (step : Found → List Found) : (count : Nat) → List Found → List Found
  | 0, found => found
  | count + 1, found => exactly tracks step count (distinct tracks (found.flatMap step))

/-- Every end of a part of the text that begins at a place and that the expression stands for. -/
def follow (tracks : Bool) : Expression → Found → List Found
  | nothing, found => [found]
  | octet c, found => single (octet c) found
  | any, found => single any found
  | oneOf isNegated ranges, found => single (oneOf isNegated ranges) found
  | edge kind, found => if isAt kind found.place then [found] else []
  | sequence first second, found =>
    distinct tracks ((follow tracks first found).flatMap (follow tracks second))
  | either first second, found =>
    distinct tracks (follow tracks first found ++ follow tracks second found)
  | repeated body least most isLazy, found =>
    match acceptsOctet body with
    | some accepts => runs accepts least most isLazy found
    | none =>
      let started := exactly tracks (follow tracks body) least [found]
      let state := started.foldl (fun state found ↦
        gather tracks (follow tracks body) isLazy (found.place.rest.length + 1)
          (most.map (· - least)) found state) ⟨{}, []⟩
      distinct tracks state.ends.reverse
  | group number isOptional body, found =>
    (follow tracks body found).map fun inner ↦
      inner.close number isOptional (found.place.upTo inner.place)
  | again number folds, found =>
    match found.groups.lookup number with
    | some text =>
      let rest := found.place.rest
      let isSame :=
        if folds then (text.map Char.toLower).isPrefixOf ((rest.take text.length).map Char.toLower)
        else text.isPrefixOf rest
      if isSame then [{ found with place := found.place.skip text.length }] else []
    | none => []
  | settled body, found => (follow tracks body found).take 1
  | ahead isNegated body, found =>
    match isNegated, follow tracks body found with
    | false, inner :: _ => [{ inner with place := found.place }]
    | true, [] => [found]
    | _, _ => []
  | behind isNegated body, found =>
    let ends := found.place.backwards.flatMap fun place ↦
      (follow tracks body { found with place }).filter (·.place.index == found.place.index)
    match isNegated, ends with
    | false, inner :: _ => [{ inner with place := found.place }]
    | true, [] => [found]
    | _, _ => []
  | cut, found => [{ found with start := some found.place }]
  | given number yes no, found =>
    if (found.groups.lookup number).isSome then follow tracks yes found
    else follow tracks no found
where
  /-- The end of one octet, if it is accepted. -/
  single (expression : Expression) (found : Found) : List Found :=
    match acceptsOctet expression, found.place.next? with
    | some accepts, some place =>
      if place.before.any accepts then [{ found with place }] else []
    | _, _ => []

/-- A group is asked for again somewhere in the expression. -/
def asksAgain : Expression → Bool
  | again _ _ => true
  | cut => true
  | given _ _ _ => true
  | sequence first second | either first second => asksAgain first || asksAgain second
  | repeated body _ _ _ | group _ _ body | settled body => asksAgain body
  | ahead _ body | behind _ body => asksAgain body
  | _ => false

/-- The expression may stand for an empty part. -/
def mayBeEmpty : Expression → Bool
  | octet _ | any | oneOf _ _ => false
  | sequence first second => mayBeEmpty first && mayBeEmpty second
  | either first second => mayBeEmpty first || mayBeEmpty second
  | repeated body least _ _ => least == 0 || mayBeEmpty body
  | group _ _ body | settled body => mayBeEmpty body
  | _ => true

/-- A part that is not empty may begin with this octet. -/
def mayBegin (c : Char) : Expression → Bool
  | octet expected => c == expected
  | oneOf isNegated ranges => ranges.any (fun range ↦ range.1 ≤ c && c ≤ range.2) != isNegated
  | edge _ | nothing | ahead _ _ | behind _ _ | cut => false
  | sequence first second => mayBegin c first || (mayBeEmpty first && mayBegin c second)
  | either first second => mayBegin c first || mayBegin c second
  | repeated body _ most _ => most != some 0 && mayBegin c body
  | group _ _ body | settled body => mayBegin c body
  | any | again _ _ | given _ _ _ => true

/-- A range with the same letters in the other case. -/
def otherCase (range : Char × Char) : List (Char × Char) :=
  let shifted (low high : Char) (shift : Char → Char) : List (Char × Char) :=
    let first := if range.1 < low then low else range.1
    let last := if high < range.2 then high else range.2
    if first ≤ last then [(shift first, shift last)] else []
  shifted 'a' 'z' Char.toUpper ++ shifted 'A' 'Z' Char.toLower

/-- The expression where the case of letters does not count. -/
def folded : Expression → Expression
  | octet c =>
    if c.isAlpha then oneOf false [(c.toLower, c.toLower), (c.toUpper, c.toUpper)] else octet c
  | oneOf isNegated ranges => oneOf isNegated (ranges ++ ranges.flatMap otherCase)
  | sequence first second => sequence (folded first) (folded second)
  | either first second => either (folded first) (folded second)
  | repeated body least most isLazy => repeated (folded body) least most isLazy
  | group number isOptional body => group number isOptional (folded body)
  | again number _ => again number true
  | settled body => settled (folded body)
  | ahead isNegated body => ahead isNegated (folded body)
  | behind isNegated body => behind isNegated (folded body)
  | given number yes no => given number (folded yes) (folded no)
  | other => other

/-- The expression that stands for a text as it is. -/
def literal (text : Octets) : Expression :=
  text.foldr (fun c rest ↦ match rest with
    | nothing => octet c
    | rest => sequence (octet c) rest) nothing

end Expression

/-- A part of a text that was found: where it begins and ends, and what groups stand for. -/
structure Match where
  start : Place
  finish : Place
  groups : Groups
  deriving Repr

/-- The text of a match. -/
def Match.text (found : Match) : Octets :=
  found.start.upTo found.finish

/-- What is searched for. -/
structure Sought where
  expression : Expression
  /-- The preferred end counts, and not the farthest. -/
  isDirect : Bool
  tracks : Bool
  mayBeEmpty : Bool
  deriving Repr

namespace Sought

/-- What a search for an expression needs to know. -/
def of (expression : Expression) (isDirect : Bool) : Sought :=
  ⟨expression, isDirect, expression.asksAgain, expression.mayBeEmpty⟩

/-- The first of the ends that are farthest. -/
def farthest (ends : List Found) : Option Found :=
  ends.foldl (fun best next ↦
    match best with
    | some best => if best.place.index < next.place.index then some next else some best
    | none => some next) none

/-- The ends of the matches that begin at a place. -/
def endsAt (sought : Sought) (place : Place) : List Found :=
  if sought.mayBeEmpty || place.after.any sought.expression.mayBegin then
    sought.expression.follow sought.tracks (.at_ place)
  else []

/-- The end that counts of several. -/
def choose (sought : Sought) (ends : List Found) : Option Found :=
  if sought.isDirect then ends.head? else farthest ends

/-- The match that begins at a place. -/
def matchAt (sought : Sought) (place : Place) : Option Match :=
  (sought.choose (sought.endsAt place)).map fun found ↦
    ⟨found.start.getD place, found.place, found.groups⟩

/-- The leftmost match from a place on, and no further than a text is long. -/
def search (sought : Sought) : (left : Octets) → Place → Option Match
  | [], place => sought.matchAt place
  | _ :: left, place =>
    match sought.matchAt place with
    | some found => some found
    | none =>
      match place.next? with
      | none => none
      | some next => search sought left next

/-- The leftmost match from a place on. -/
def matchFrom (sought : Sought) (place : Place) : Option Match :=
  sought.search place.rest place

/-- The text has a part that is searched for. -/
def isIn (sought : Sought) (text : Octets) : Bool :=
  (sought.matchFrom (Place.start text)).isSome

end Sought

end Scaffold.Shell

import Scaffold.Proofs.Version.Reading

/-!
# Comparing the texts of versions

The order of versions and the order of lists of numbers are total orders up to equivalence: the
instances of `Std.TransCmp` say that they are transitive and that turning the operands round turns
the outcome round. How far two lists of numbers are padded makes no difference, as long as both are
padded as far (`numbersOrder_eq`), and on lists of up to three numbers the order is that of the
versions which they stand for (`order_ofNumbers`).

Two texts are compared as versions if both read as versions, else as lists of numbers if both read
as dotted numbers, and else as they stand. A text that reads in both ways stands for the same
numbers in both (`eq_ofNumbers_of_numbers?`), so whichever of the two ways is taken, dotted numbers
are in the order of their values (`compareTexts_of_isDotted`).

Turning the texts round turns the outcome round (`compareTexts_reverses`). The order of three texts
is transitive if their comparisons are all made of the texts as they stand, or none is. Otherwise
the orders mix: for any such combination of ways in which three texts read, there are texts that
read so, and a greater one misses a minimum that a lesser one meets (`meetsMinimum_monotone`).
-/

set_option autoImplicit false

namespace Scaffold.Version

/-! ### The order of versions -/

/-- Things are in transitive order by a part of them that is. -/
theorem transCmp_on {α β : Type} (cmp : β → β → Ordering) [Std.TransCmp cmp] (f : α → β) :
    Std.TransCmp fun first second ↦ cmp (f first) (f second) where
  eq_swap {first second} := (Std.OrientedCmp.eq_swap : cmp (f first) (f second) = _)
  isLE_trans {_ second _} hfirst hsecond :=
    Std.TransCmp.isLE_trans (hfirst : (cmp _ (f second)).isLE = true) hsecond

instance : Std.TransCmp preReleaseOrder :=
  inferInstanceAs (Std.TransCmp (compareLex _ (compareLex _ compare)))

instance : Std.TransCmp buildOrder :=
  inferInstanceAs (Std.TransCmp (compareLex _ (compareLex _ (compareLex _ _))))

instance : Std.TransCmp order :=
  have := transCmp_on (List.compareLex preReleaseOrder) preRelease
  have := transCmp_on (List.compareLex buildOrder) build
  inferInstanceAs (Std.TransCmp (compareLex (compareOn major) <| compareLex (compareOn minor) <|
    compareLex (compareOn patch) <| compareLex (compareOn releaseRank) <| compareLex _ _))

/-! ### Lists of numbers -/

theorem length_padTo {size : Nat} {numbers : List Nat} (hlength : numbers.length ≤ size) :
    (padTo size numbers).length = size := by
  rw [padTo, List.length_append, List.length_replicate]
  omega

theorem padTo_add {size : Nat} {numbers : List Nat} (hlength : numbers.length ≤ size) (more : Nat) :
    padTo (size + more) numbers = padTo size numbers ++ List.replicate more 0 := by
  have hzeros : size + more - numbers.length = size - numbers.length + more := by omega
  rw [padTo, padTo, hzeros, List.replicate_add, List.append_assoc]

/-- What two lists of one length have behind them alike makes no difference to their order. -/
theorem compareLex_append {first second : List Nat} (hlength : first.length = second.length)
    (rest : List Nat) :
    List.compareLex compare (first ++ rest) (second ++ rest) =
      List.compareLex compare first second := by
  induction first generalizing second with
  | nil =>
    obtain rfl := List.length_eq_zero_iff.mp hlength.symm
    exact Std.ReflCmp.compare_self
  | cons number others ih =>
    cases second with
    | nil => cases hlength
    | cons other others' =>
      rw [List.cons_append, List.cons_append, List.compareLex_cons_cons,
        List.compareLex_cons_cons, ih (Nat.succ.inj hlength)]

/-- Lists of numbers are in the order in which they are when padded to any one length. -/
theorem numbersOrder_eq {first second : List Nat} {size : Nat} (hfirst : first.length ≤ size)
    (hsecond : second.length ≤ size) :
    numbersOrder first second =
      List.compareLex compare (padTo size first) (padTo size second) := by
  have hleft := Nat.le_max_left first.length second.length
  have hright := Nat.le_max_right first.length second.length
  obtain ⟨more, rfl⟩ := Nat.exists_eq_add_of_le (Nat.max_le.mpr ⟨hfirst, hsecond⟩)
  rw [numbersOrder, padTo_add hleft, padTo_add hright, compareLex_append]
  rw [length_padTo hleft, length_padTo hright]

instance : Std.TransCmp numbersOrder where
  eq_swap {first second} := by
    have hleft := Nat.le_max_left first.length second.length
    have hright := Nat.le_max_right first.length second.length
    rw [numbersOrder_eq hleft hright, numbersOrder_eq hright hleft]
    exact Std.OrientedCmp.eq_swap
  isLE_trans {first second third} hfirst hsecond := by
    obtain ⟨size, hone, htwo, hthree⟩ : ∃ size, first.length ≤ size ∧ second.length ≤ size ∧
        third.length ≤ size := ⟨max first.length (max second.length third.length), by omega⟩
    rw [numbersOrder_eq hone htwo] at hfirst
    rw [numbersOrder_eq htwo hthree] at hsecond
    rw [numbersOrder_eq hone hthree]
    exact Std.TransCmp.isLE_trans hfirst hsecond

theorem padTo_three {numbers : List Nat} (hlength : numbers.length ≤ 3) :
    padTo 3 numbers = [numbers.getD 0 0, numbers.getD 1 0, numbers.getD 2 0] := by
  match numbers, hlength with
  | [], _ => rfl
  | [_], _ => rfl
  | [_, _], _ => rfl
  | [_, _, _], _ => rfl

/-- Up to three numbers are in the order of the versions that they stand for. -/
theorem order_ofNumbers {first second : List Nat} (hfirst : first.length ≤ 3)
    (hsecond : second.length ≤ 3) :
    (ofNumbers first).order (ofNumbers second) = numbersOrder first second := by
  rw [numbersOrder_eq hfirst hsecond, padTo_three hfirst, padTo_three hsecond]
  simp [order, compareLex, compareOn, ofNumbers, releaseRank, List.compareLex_cons_cons,
    List.compareLex_nil_nil]

/-! ### Numbers in versions -/

theorem mapM_eq_some_iff {α β : Type} {f : α → Option β} {items : List α} {results : List β} :
    items.mapM f = some results ↔
      List.Forall₂ (fun item result ↦ f item = some result) items results := by
  induction items generalizing results with
  | nil => simp [eq_comm]
  | cons item rest ih =>
    simp only [List.mapM_cons, Option.bind_eq_bind, Option.bind_eq_some_iff, Option.pure_def,
      Option.some.injEq, ih, List.forall₂_cons_left_iff]
    constructor
    · rintro ⟨first, hfirst, others, hothers, rfl⟩
      exact ⟨first, others, hfirst, hothers, rfl⟩
    · rintro ⟨first, others, hfirst, hothers, rfl⟩
      exact ⟨first, hfirst, others, hothers, rfl⟩

/-- A text is read number by number once all marks in front of it are gone. -/
theorem numbers?_eq_some_iff {text : String} {values : List Nat} :
    numbers? text = some values ↔
      List.Forall₂ (fun number value ↦ Text.signedNumber? number = some value)
        (Text.pieces (· == '.') ((Text.trimChars text.toList).dropWhile (· == 'v'))) values :=
  mapM_eq_some_iff

theorem written_ne_cons (version : Version) (rest : List Char) : version.written ≠ 'v' :: rest := by
  rw [written, core, numerals, List.intercalate_cons_cons]
  simp only [List.append_assoc]
  exact Text.toDigits_append_ne_cons (by decide) _ _ _

theorem IsDotted.ne_cons {text : List Char} {values : List Nat} (hdotted : IsDotted text values)
    (rest : List Char) : text ≠ 'v' :: rest := by
  obtain ⟨numbers, hnonempty, rfl, hvalues⟩ := hdotted
  cases hvalues with
  | nil => exact absurd rfl hnonempty
  | cons hnumeral _ =>
    obtain ⟨c, digits, rfl⟩ := List.exists_cons_of_ne_nil hnumeral.nonempty
    rw [List.intercalate_cons_cons_left]
    intro heq
    obtain ⟨rfl, -⟩ := List.cons.inj heq
    exact hnumeral.ne_cons (by decide) digits rfl

/-- A text that has no mark in front when one is gone is what is left when all are gone. -/
theorem dropWhile_eq_withoutMark {text : List Char}
    (hfree : ∀ rest, withoutMark text ≠ 'v' :: rest) :
    text.dropWhile (· == 'v') = withoutMark text := by
  have hdrop : ∀ cs : List Char, (∀ rest, cs ≠ 'v' :: rest) → cs.dropWhile (· == 'v') = cs := by
    intro cs hcs
    cases cs with
    | nil => rfl
    | cons c rest =>
      exact List.dropWhile_cons_of_neg (by simpa using fun heq : c = 'v' ↦ hcs rest (heq ▸ rfl))
  unfold withoutMark at hfree ⊢
  split at hfree
  · rw [List.dropWhile_cons_of_pos (by simp)]
    exact hdrop _ hfree
  · exact hdrop _ hfree

/-- A version that also reads as dotted numbers is the version of these numbers. -/
theorem eq_ofNumbers_of_numbers? {text : String} {version : Version} {values : List Nat}
    (hversion : parse? text = some version) (hvalues : numbers? text = some values) :
    values.length ≤ 3 ∧ version = ofNumbers values := by
  rw [numbers?_eq_some_iff] at hvalues
  rcases parse?_eq_some_iff.mp hversion with ⟨-, hwritten⟩ | ⟨others, hlength, hdotted, rfl⟩
  · rw [dropWhile_eq_withoutMark (hwritten ▸ written_ne_cons version), ← hwritten] at hvalues
    obtain ⟨hlength, heq⟩ := eq_ofNumbers_of_written hvalues
    exact ⟨hlength.le, heq⟩
  · rw [dropWhile_eq_withoutMark hdotted.ne_cons] at hvalues
    have hsame : values = others := by
      have hread := mapM_eq_some_iff.mpr hvalues
      rw [mapM_eq_some_iff.mpr hdotted.forall₂_signedNumber?] at hread
      exact (Option.some.inj hread).symm
    exact ⟨hsame ▸ hlength, hsame ▸ rfl⟩

/-! ### The three ways of comparing -/

theorem compareTexts_of_parse? {first second : String} {left right : Version}
    (hfirst : parse? first = some left) (hsecond : parse? second = some right) :
    compareTexts first second = left.order right := by
  rw [compareTexts, hfirst, hsecond]

/-- Dotted numbers are compared by their values, whether they also read as versions or not. -/
theorem compareTexts_of_numbers? {first second : String} {left right : List Nat}
    (hfirst : numbers? first = some left) (hsecond : numbers? second = some right) :
    compareTexts first second = numbersOrder left right := by
  rw [compareTexts, hfirst, hsecond]
  split
  · rename_i hleft hright
    obtain ⟨hleftLength, rfl⟩ := eq_ofNumbers_of_numbers? hleft hfirst
    obtain ⟨hrightLength, rfl⟩ := eq_ofNumbers_of_numbers? hright hsecond
    exact order_ofNumbers hleftLength hrightLength
  · rfl

/-- Dotted numbers behind blanks and marks, with any number of components and with zeros in front,
are in the lexicographic order of their values, the shorter list padded with zeros. -/
theorem compareTexts_of_isDotted {first second : String} {left right : List Nat}
    (hfirst : IsDotted ((Text.trimChars first.toList).dropWhile (· == 'v')) left)
    (hsecond : IsDotted ((Text.trimChars second.toList).dropWhile (· == 'v')) right) :
    compareTexts first second =
      List.compareLex compare (left ++ List.replicate (right.length - left.length) 0)
        (right ++ List.replicate (left.length - right.length) 0) := by
  have hleft : max left.length right.length - left.length = right.length - left.length := by omega
  have hright : max left.length right.length - right.length = left.length - right.length := by omega
  rw [compareTexts_of_numbers? (numbers?_eq_some_iff.mpr hfirst.forall₂_signedNumber?)
    (numbers?_eq_some_iff.mpr hsecond.forall₂_signedNumber?), numbersOrder, padTo, padTo, hleft,
    hright]

/-- Four numbers with zeros in front, the last one the greatest that fits, behind two marks come
after two numbers behind one. -/
theorem compareTexts_of_four_and_two :
    IsDotted ((Text.trimChars " vv01.2.0.18446744073709551615".toList).dropWhile (· == 'v'))
        [1, 2, 0, 18446744073709551615] ∧
      IsDotted ((Text.trimChars "v1.002\n".toList).dropWhile (· == 'v')) [1, 2] ∧
      compareTexts " vv01.2.0.18446744073709551615" "v1.002\n" = .gt := by
  have hfirst : IsDotted
      ((Text.trimChars " vv01.2.0.18446744073709551615".toList).dropWhile (· == 'v'))
      [1, 2, 0, 18446744073709551615] := by decide +kernel
  have hsecond : IsDotted ((Text.trimChars "v1.002\n".toList).dropWhile (· == 'v')) [1, 2] := by
    decide +kernel
  exact ⟨hfirst, hsecond, (compareTexts_of_isDotted hfirst hsecond).trans (by decide)⟩

/-- Whether a text reads as a version, and whether it reads as dotted numbers. -/
structure Reading where
  isVersion : Bool
  isNumbers : Bool
  deriving DecidableEq, Repr

/-- The ways in which a text reads. -/
def reading (text : String) : Reading where
  isVersion := (parse? text).isSome
  isNumbers := (numbers? text).isSome

/-- Two texts that both read as versions or both as numbers are not compared as they stand. -/
def Reading.isAlike (first second : Reading) : Bool :=
  first.isVersion && second.isVersion || first.isNumbers && second.isNumbers

theorem Reading.isAlike_comm (first second : Reading) :
    first.isAlike second = second.isAlike first := by
  rw [isAlike, isAlike, Bool.and_comm, Bool.and_comm first.isNumbers]

theorem isAlike_reading_iff {first second : String} :
    (reading first).isAlike (reading second) = true ↔
      (∃ left right, parse? first = some left ∧ parse? second = some right) ∨
        ∃ left right, numbers? first = some left ∧ numbers? second = some right := by
  simp [Reading.isAlike, reading, Option.isSome_iff_exists]

theorem compareTexts_of_not_alike {first second : String}
    (halike : (reading first).isAlike (reading second) = false) :
    compareTexts first second = compare (Text.trim first) (Text.trim second) := by
  rw [Bool.eq_false_iff, Ne, isAlike_reading_iff, not_or] at halike
  rw [compareTexts]
  split
  · rename_i left right hleft hright
    exact absurd ⟨left, right, hleft, hright⟩ halike.1
  · split
    · rename_i left right hleft hright
      exact absurd ⟨left, right, hleft, hright⟩ halike.2
    · rfl

/-! ### Turning the texts round -/

instance : Std.OrientedCmp compareTexts where
  eq_swap {first second} := by
    cases halike : (reading first).isAlike (reading second) with
    | false =>
      rw [compareTexts_of_not_alike halike,
        compareTexts_of_not_alike ((Reading.isAlike_comm _ _).trans halike)]
      exact Std.OrientedCmp.eq_swap
    | true =>
      rcases isAlike_reading_iff.mp halike with
        ⟨left, right, hleft, hright⟩ | ⟨left, right, hleft, hright⟩
      · rw [compareTexts_of_parse? hleft hright, compareTexts_of_parse? hright hleft]
        exact Std.OrientedCmp.eq_swap
      · rw [compareTexts_of_numbers? hleft hright, compareTexts_of_numbers? hright hleft]
        exact Std.OrientedCmp.eq_swap

theorem meetsMinimum_iff {found minimum : String} :
    meetsMinimum found minimum = true ↔ (compareTexts found minimum).isGE = true := by
  rw [meetsMinimum]
  cases compareTexts found minimum <;> decide

/-- Turning two texts round turns the outcome round, and a text is level with itself. So of two
texts one meets the other as a minimum, and each meets the other exactly if they are level. -/
theorem compareTexts_reverses (first second : String) :
    compareTexts second first = (compareTexts first second).swap ∧
      compareTexts first first = .eq ∧
      (meetsMinimum first second = true ∨ meetsMinimum second first = true) ∧
      (meetsMinimum first second = true ∧ meetsMinimum second first = true ↔
        compareTexts first second = .eq) := by
  have hswap : compareTexts second first = (compareTexts first second).swap :=
    Std.OrientedCmp.eq_swap
  refine ⟨hswap, Std.ReflCmp.compare_self, ?_⟩
  rw [meetsMinimum_iff, meetsMinimum_iff, hswap]
  cases compareTexts first second <;> decide

/-! ### Minima -/

/-- Of the comparisons among three texts, all are of the texts as they stand, or none is. -/
def Reading.IsUniform (first second third : Reading) : Prop :=
  first.isAlike second = second.isAlike third ∧ first.isAlike second = first.isAlike third

/-- Three texts of which any two are read in one way are all read in one way. -/
theorem Reading.IsUniform.all_or_all {first second third : Reading}
    (huniform : first.IsUniform second third) (halike : first.isAlike second = true) :
    (first.isVersion = true ∧ second.isVersion = true ∧ third.isVersion = true) ∨
      (first.isNumbers = true ∧ second.isNumbers = true ∧ third.isNumbers = true) := by
  obtain ⟨hsecond, hthird⟩ := huniform
  rw [halike] at hsecond hthird
  simp only [isAlike] at halike hsecond hthird
  grind

/-- Comparisons that are made in one way are transitive. -/
theorem isGE_trans_of_isUniform {first second third : String}
    (huniform : (reading first).IsUniform (reading second) (reading third))
    (hfirst : (compareTexts first second).isGE = true)
    (hsecond : (compareTexts second third).isGE = true) :
    (compareTexts first third).isGE = true := by
  cases halike : (reading first).isAlike (reading second) with
  | false =>
    rw [compareTexts_of_not_alike halike] at hfirst
    rw [compareTexts_of_not_alike (huniform.1.symm.trans halike)] at hsecond
    rw [compareTexts_of_not_alike (huniform.2.symm.trans halike)]
    exact Std.TransCmp.isGE_trans hfirst hsecond
  | true =>
    have hall := huniform.all_or_all halike
    simp only [reading, Option.isSome_iff_exists] at hall
    rcases hall with
      ⟨⟨one, hone⟩, ⟨two, htwo⟩, ⟨three, hthree⟩⟩ | ⟨⟨one, hone⟩, ⟨two, htwo⟩, ⟨three, hthree⟩⟩
    · rw [compareTexts_of_parse? hone htwo] at hfirst
      rw [compareTexts_of_parse? htwo hthree] at hsecond
      rw [compareTexts_of_parse? hone hthree]
      exact Std.TransCmp.isGE_trans hfirst hsecond
    · rw [compareTexts_of_numbers? hone htwo] at hfirst
      rw [compareTexts_of_numbers? htwo hthree] at hsecond
      rw [compareTexts_of_numbers? hone hthree]
      exact Std.TransCmp.isGE_trans hfirst hsecond

/-- A text that reads so, with one of three numbers in front. The numbers rise, and as texts they
fall. -/
def Reading.sample (reading : Reading) (place : Fin 3) : String :=
  let ending := match reading.isVersion, reading.isNumbers with
    | true, true => ".0.0"
    | true, false => ".0.0-x"
    | false, true => ".0.0.0"
    | false, false => "~"
  ["9", "80", "700"][place] ++ ending

theorem reading_sample (reading : Reading) (place : Fin 3) :
    Version.reading (reading.sample place) = reading := by
  have hsamples : ∀ (isVersion isNumbers : Bool) (place : Fin 3),
      (parse? (Reading.sample ⟨isVersion, isNumbers⟩ place)).isSome = isVersion ∧
        (numbers? (Reading.sample ⟨isVersion, isNumbers⟩ place)).isSome = isNumbers := by
    decide +kernel
  obtain ⟨hversion, hnumbers⟩ := hsamples reading.isVersion reading.isNumbers place
  exact congrArg₂ Reading.mk hversion hnumbers

/-- The place of the greater of two samples: above the other if they are compared as numbers, below
it if they are compared as texts. -/
def isAbove (isAlike : Bool) (greater lesser : Fin 3) : Bool :=
  if isAlike then lesser < greater else greater < lesser

theorem compareTexts_sample {first second : Reading} {greater lesser : Fin 3}
    (habove : isAbove (first.isAlike second) greater lesser = true) :
    compareTexts (first.sample greater) (second.sample lesser) = .gt := by
  have hsamples : ∀ (version numbers version' numbers' : Bool) (greater lesser : Fin 3),
      isAbove (Reading.isAlike ⟨version, numbers⟩ ⟨version', numbers'⟩) greater lesser = true →
        compareTexts (Reading.sample ⟨version, numbers⟩ greater)
          (Reading.sample ⟨version', numbers'⟩ lesser) = .gt := by
    decide +kernel
  exact hsamples _ _ _ _ greater lesser habove

/-- Unless three comparisons are made in one way, samples can be placed so that each comes after the
next and the last after the first. -/
theorem exists_places : ∀ one two three : Bool, ¬(one = two ∧ one = three) →
    ∃ first second third : Fin 3, isAbove one first second = true ∧
      isAbove two second third = true ∧ isAbove three third first = true := by
  decide

/-- A text that is not below another one meets every minimum that the other meets, if the
comparisons among the three are all made of the texts as they stand, or none is. For any ways of
reading of which this is not so, three texts that read in these ways are an exception. -/
theorem meetsMinimum_monotone :
    (∀ newer older minimum : String,
      (reading newer).IsUniform (reading older) (reading minimum) →
        compareTexts newer older ≠ .lt → meetsMinimum older minimum = true →
          meetsMinimum newer minimum = true) ∧
      ∀ first second third : Reading, ¬first.IsUniform second third →
        ∃ newer older minimum : String,
          reading newer = first ∧ reading older = second ∧ reading minimum = third ∧
            compareTexts newer older ≠ .lt ∧ meetsMinimum older minimum = true ∧
              meetsMinimum newer minimum = false := by
  constructor
  · intro newer older minimum huniform hnewer hmeets
    rw [meetsMinimum_iff] at hmeets ⊢
    exact isGE_trans_of_isUniform huniform (Ordering.ne_lt_iff_isGE.mp hnewer) hmeets
  · intro first second third hmixed
    obtain ⟨one, two, three, hone, htwo, hthree⟩ := exists_places _ _ _ hmixed
    refine ⟨first.sample one, second.sample two, third.sample three, reading_sample _ _,
      reading_sample _ _, reading_sample _ _, ?_, ?_, ?_⟩
    · rw [compareTexts_sample hone]
      decide
    · rw [meetsMinimum, compareTexts_sample htwo]
      decide
    · rw [Reading.isAlike_comm] at hthree
      rw [meetsMinimum, Std.OrientedCmp.lt_of_gt (compareTexts_sample hthree)]
      decide

/-- A version comes after one that meets a minimum, and misses it: the minimum is no version. -/
theorem meetsMinimum_mixed :
    compareTexts "10.0.0" "9.0.0" ≠ .lt ∧ meetsMinimum "9.0.0" "8a" = true ∧
      meetsMinimum "10.0.0" "8a" = false := by
  decide +kernel

end Scaffold.Version

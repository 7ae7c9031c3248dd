import Mathlib.Data.List.Forall2
import Scaffold.Proofs.Text.Cutting
import Scaffold.Proofs.Text.Digits
import Scaffold.Version

/-!
# Reading versions

Every version has one written form (`written`): its three numbers without zeros in front, the
pre-release identifiers behind a hyphen and the build identifiers behind a plus sign. The strict
reader accepts exactly the written forms of well-formed versions (`strict?_eq_some_iff`).

Up to three dotted numbers, zeros in front allowed (`IsDotted`), stand for the version of their
values (`ofNumbers`). The full text that they are put into is the written form of this version
(`fullText_eq`), so the strict reader refuses it for no zero in front, only for a value that does
not fit (`short?_eq_some_iff`).

A text that is read in both ways is read as the same version (`eq_ofNumbers_of_written`).
-/

set_option autoImplicit false

namespace Scaffold.Version

/-! ### The written form -/

/-- An identifier consists of letters, digits and hyphens. -/
def IsIdentifier (identifier : String) : Prop :=
  identifier ≠ "" ∧ ∀ c ∈ identifier.toList, c.isAlphanum = true ∨ c = '-'

/-- Unless it is the number zero, the identifier is no number with a zero in front. -/
def IsPlain (identifier : String) : Prop :=
  (∀ c ∈ identifier.toList, c.isDigit = true) → identifier.toList.head? = some '0' →
    identifier = "0"

/-- The numbers fit into 64 bits, and all identifiers consist of the right characters; those of a
pre-release have no zero in front of a number. -/
structure IsWellFormed (version : Version) : Prop where
  major : version.major < Text.wordLimit
  minor : version.minor < Text.wordLimit
  patch : version.patch < Text.wordLimit
  preRelease : ∀ identifier ∈ version.preRelease, IsIdentifier identifier ∧ IsPlain identifier
  build : ∀ identifier ∈ version.build, IsIdentifier identifier

/-- An optional part behind its mark. -/
def marked (mark : Char) : Option (List Char) → List Char
  | none => []
  | some part => mark :: part

/-- The identifiers with dots between them; without identifiers there is no part. -/
def joined? : List String → Option (List Char)
  | [] => none
  | identifiers => some (['.'].intercalate (identifiers.map String.toList))

/-- The digits of the three numbers, without zeros in front. -/
def numerals (version : Version) : List (List Char) :=
  [Nat.toDigits 10 version.major, Nat.toDigits 10 version.minor, Nat.toDigits 10 version.patch]

/-- The text of the three numbers. -/
def core (version : Version) : List Char :=
  ['.'].intercalate version.numerals

/-- The text of a version. -/
def written (version : Version) : List Char :=
  version.core ++ marked '-' (joined? version.preRelease) ++ marked '+' (joined? version.build)

theorem joined?_eq_some_iff {identifiers : List String} {text : List Char} :
    joined? identifiers = some text ↔
      identifiers ≠ [] ∧ ['.'].intercalate (identifiers.map String.toList) = text := by
  cases identifiers <;> simp [joined?]

theorem joined?_eq_none_iff {identifiers : List String} :
    joined? identifiers = none ↔ identifiers = [] := by
  cases identifiers <;> simp [joined?]

/-! ### Numbers and identifiers -/

theorem plainNumber?_eq_some_iff {digits : List Char} {value : Nat} :
    plainNumber? digits = some value ↔ digits = Nat.toDigits 10 value ∧ value < Text.wordLimit := by
  rw [plainNumber?, Option.ite_none_left_eq_some, Text.number?_eq_some_iff]
  constructor
  · rintro ⟨hplain, hnumeral⟩
    refine ⟨?_, hnumeral.fits⟩
    rw [← hnumeral.ofDigitChars_eq]
    by_cases hhead : digits.head? = some '0'
    · have hzero : digits = ['0'] := by
        by_contra hmore
        exact hplain ⟨hhead, hmore⟩
      subst hzero
      rfl
    · exact (Text.toDigits_ofDigitChars hnumeral.nonempty hnumeral.isDigit hhead).symm
  · rintro ⟨rfl, hfits⟩
    refine ⟨?_, Text.isNumeral_toDigits hfits⟩
    rintro ⟨hhead, hmore⟩
    rcases Nat.eq_zero_or_pos value with rfl | hpositive
    · exact hmore (Nat.toDigits_zero 10)
    · exact Text.head?_toDigits_ne hpositive hhead

theorem isIdentifier_ofList_iff {chars : List Char} :
    IsIdentifier (String.ofList chars) ↔ chars ≠ [] ∧ chars.all isIdentifierChar = true := by
  simp [IsIdentifier, isIdentifierChar, ← String.toList_eq_nil_iff]

theorem isPlain_iff {identifier : String} :
    isPreRelease identifier.toList = true ↔ IsPlain identifier := by
  rw [isPreRelease, IsPlain, ← String.toList_inj]
  simp [imp_iff_not_or, or_assoc]

theorem not_mem_identifier {identifier : String} (hidentifier : IsIdentifier identifier) {c : Char}
    (hc : c.isAlphanum = false) (hhyphen : c ≠ '-') : c ∉ identifier.toList := by
  intro hmem
  rcases hidentifier.2 c hmem with halphanum | hsame
  · simp [hc] at halphanum
  · exact hhyphen hsame

/-- Only the mark of the build identifiers is a plus sign. -/
theorem plus_not_mem_marked {identifiers : List String}
    (hidentifiers : ∀ identifier ∈ identifiers, IsIdentifier identifier) :
    '+' ∉ marked '-' (joined? identifiers) := by
  intro hmem
  cases hjoined : joined? identifiers with
  | none => simp [hjoined, marked] at hmem
  | some text =>
    obtain ⟨-, rfl⟩ := joined?_eq_some_iff.mp hjoined
    rw [hjoined, marked, List.mem_cons] at hmem
    rcases hmem with hhyphen | htext
    · exact absurd hhyphen (by decide)
    · obtain hdot | ⟨chars, hchars, hplus⟩ := Text.mem_intercalate htext
      · exact absurd (List.mem_singleton.mp hdot) (by decide)
      · obtain ⟨identifier, hidentifier, rfl⟩ := List.mem_map.mp hchars
        exact not_mem_identifier (hidentifiers identifier hidentifier) (by decide) (by decide) hplus

/-- The identifiers of a text are those that it is put together from. -/
theorem identifiers?_eq_some_iff {accept : List Char → Bool} {text : List Char}
    {identifiers : List String} :
    identifiers? accept text = some identifiers ↔
      joined? identifiers = some text ∧ ∀ identifier ∈ identifiers,
        IsIdentifier identifier ∧ accept identifier.toList = true := by
  rw [identifiers?, Option.ite_none_right_eq_some, Option.some.injEq, joined?_eq_some_iff]
  constructor
  · rintro ⟨hpieces, rfl⟩
    refine ⟨⟨by simp [Text.pieces_ne_nil], ?_⟩, ?_⟩
    · simp [Function.comp_def, Text.intercalate_pieces]
    · intro identifier hidentifier
      obtain ⟨piece, hpiece, rfl⟩ := List.mem_map.mp hidentifier
      have hchecked := List.all_eq_true.mp hpieces piece hpiece
      rw [isIdentifier_ofList_iff, String.toList_ofList]
      simpa [and_assoc] using hchecked
  · rintro ⟨⟨hnonempty, rfl⟩, hidentifiers⟩
    have hpieces : Text.pieces (· == '.') (['.'].intercalate (identifiers.map String.toList)) =
        identifiers.map String.toList := by
      refine Text.pieces_intercalate (by simpa using hnonempty) ?_
      simp only [List.forall_mem_map]
      exact fun identifier hidentifier ↦
        not_mem_identifier (hidentifiers identifier hidentifier).1 (by decide) (by decide)
    rw [hpieces]
    refine ⟨List.all_eq_true.mpr ?_, by simp [Function.comp_def]⟩
    simp only [List.forall_mem_map]
    intro identifier hidentifier
    obtain ⟨hchars, haccepted⟩ := hidentifiers identifier hidentifier
    rw [← String.ofList_toList (s := identifier), isIdentifier_ofList_iff] at hchars
    simp [hchars, haccepted]

theorem optionalIdentifiers?_eq_some_iff {accept : List Char → Bool} {part : Option (List Char)}
    {identifiers : List String} :
    optionalIdentifiers? accept part = some identifiers ↔
      joined? identifiers = part ∧ ∀ identifier ∈ identifiers,
        IsIdentifier identifier ∧ accept identifier.toList = true := by
  cases part with
  | some text => exact identifiers?_eq_some_iff
  | none => cases identifiers <;> simp [optionalIdentifiers?, joined?]

/-! ### Full versions -/

/-- The text is cut where the first mark stands. -/
theorem cutOptional_eq_iff {mark : Char} {text front : List Char} {part : Option (List Char)} :
    cutOptional mark text = (front, part) ↔ mark ∉ front ∧ front ++ marked mark part = text := by
  rw [cutOptional]
  constructor
  · intro hcut
    split at hcut <;> cases hcut
    · rename_i hfound
      exact ⟨(Text.cutChars?_eq_some hfound).2, (Text.cutChars?_eq_some hfound).1.symm⟩
    · rename_i hnone
      exact ⟨Text.cutChars?_eq_none_iff.mp hnone, List.append_nil _⟩
  · rintro ⟨hfree, rfl⟩
    cases part with
    | none => rw [marked, List.append_nil, Text.cutChars?_eq_none_iff.mpr hfree]
    | some part => rw [marked, Text.cutChars?_append hfree]

/-- What is read is told by the pieces that the text is cut into. -/
theorem strict?_eq_some_iff_of_cut {text front core : List Char}
    {preRelease build : Option (List Char)} (hbuild : cutOptional '+' text = (front, build))
    (hpreRelease : cutOptional '-' front = (core, preRelease)) {version : Version} :
    strict? text = some version ↔
      version.IsWellFormed ∧ Text.pieces (· == '.') core = version.numerals ∧
        joined? version.preRelease = preRelease ∧ joined? version.build = build := by
  obtain ⟨major, minor, patch, preReleases, builds⟩ := version
  simp only [strict?, hbuild, hpreRelease, numerals]
  constructor
  · intro hread
    split at hread
    · rename_i hpieces
      simp only [Option.pure_def, Option.bind_eq_bind, Option.bind_eq_some_iff,
        plainNumber?_eq_some_iff, optionalIdentifiers?_eq_some_iff, isPlain_iff,
        Option.some.injEq] at hread
      obtain ⟨_, ⟨hmajor, hmajorFits⟩, _, ⟨hminor, hminorFits⟩, _, ⟨hpatch, hpatchFits⟩, _,
        ⟨hpre, hpreFits⟩, _, ⟨hbuilds, hbuildFits⟩, heq⟩ := hread
      cases heq
      rw [hpieces, hmajor, hminor, hpatch]
      exact ⟨⟨hmajorFits, hminorFits, hpatchFits, hpreFits, fun identifier hidentifier ↦
        (hbuildFits identifier hidentifier).1⟩, rfl, hpre, hbuilds⟩
    · cases hread
  · rintro ⟨hformed, hpieces, hpre, hbuilds⟩
    have hmajor := plainNumber?_eq_some_iff.mpr ⟨rfl, hformed.major⟩
    have hminor := plainNumber?_eq_some_iff.mpr ⟨rfl, hformed.minor⟩
    have hpatch := plainNumber?_eq_some_iff.mpr ⟨rfl, hformed.patch⟩
    have hpreRead : optionalIdentifiers? isPreRelease preRelease = some preReleases :=
      optionalIdentifiers?_eq_some_iff.mpr ⟨hpre, fun identifier hidentifier ↦
        ⟨(hformed.preRelease identifier hidentifier).1,
          isPlain_iff.mpr (hformed.preRelease identifier hidentifier).2⟩⟩
    have hbuildRead : optionalIdentifiers? (fun _ ↦ true) build = some builds :=
      optionalIdentifiers?_eq_some_iff.mpr ⟨hbuilds, fun identifier hidentifier ↦
        ⟨hformed.build identifier hidentifier, rfl⟩⟩
    simp [hpieces, hmajor, hminor, hpatch, hpreRead, hbuildRead]

theorem isDigit_of_mem_numerals {version : Version} {digits : List Char}
    (hdigits : digits ∈ version.numerals) {c : Char} (hc : c ∈ digits) : c.isDigit = true := by
  simp only [numerals, List.mem_cons, List.not_mem_nil, or_false] at hdigits
  rcases hdigits with rfl | rfl | rfl <;> exact Text.isDigit_of_mem_toDigits hc

theorem pieces_core (version : Version) :
    Text.pieces (· == '.') version.core = version.numerals := by
  refine Text.pieces_intercalate (List.cons_ne_nil _ _) fun digits hdigits hdot ↦ ?_
  exact absurd (isDigit_of_mem_numerals hdigits hdot) (by decide)

theorem not_mem_core {version : Version} {c : Char} (hdot : c ≠ '.') (hdigit : c.isDigit = false) :
    c ∉ version.core := by
  intro hmem
  rcases Text.mem_intercalate hmem with hseparator | ⟨digits, hdigits, hc⟩
  · exact hdot (List.mem_singleton.mp hseparator)
  · simp [isDigit_of_mem_numerals hdigits hc] at hdigit

/-- The strict reader accepts the written form of each well-formed version, and nothing else. -/
theorem strict?_eq_some_iff {text : List Char} {version : Version} :
    strict? text = some version ↔ version.IsWellFormed ∧ version.written = text := by
  constructor
  · intro hread
    obtain ⟨front, build, hbuild⟩ : ∃ front build, cutOptional '+' text = (front, build) :=
      ⟨_, _, rfl⟩
    obtain ⟨core, preRelease, hpreRelease⟩ :
        ∃ core preRelease, cutOptional '-' front = (core, preRelease) := ⟨_, _, rfl⟩
    obtain ⟨hformed, hpieces, hpre, hbuilds⟩ :=
      (strict?_eq_some_iff_of_cut hbuild hpreRelease).mp hread
    refine ⟨hformed, ?_⟩
    rw [written, Version.core, ← hpieces, Text.intercalate_pieces, hpre, hbuilds,
      (cutOptional_eq_iff.mp hpreRelease).2, (cutOptional_eq_iff.mp hbuild).2]
  · rintro ⟨hformed, rfl⟩
    have hpreRelease : cutOptional '-' (version.core ++ marked '-' (joined? version.preRelease)) =
        (version.core, joined? version.preRelease) :=
      cutOptional_eq_iff.mpr ⟨not_mem_core (by decide) (by decide), rfl⟩
    have hplus : '+' ∉ version.core ++ marked '-' (joined? version.preRelease) := by
      rw [List.mem_append, not_or]
      exact ⟨not_mem_core (by decide) (by decide), plus_not_mem_marked fun identifier hidentifier ↦
        (hformed.preRelease identifier hidentifier).1⟩
    have hbuild : cutOptional '+' version.written =
        (version.core ++ marked '-' (joined? version.preRelease), joined? version.build) :=
      cutOptional_eq_iff.mpr ⟨hplus, rfl⟩
    exact (strict?_eq_some_iff_of_cut hbuild hpreRelease).mpr
      ⟨hformed, pieces_core version, rfl, rfl⟩

/-! ### Dotted numbers -/

/-- The text is dotted numbers with these values, zeros in front allowed. -/
def IsDotted (text : List Char) (values : List Nat) : Prop :=
  ∃ numbers, numbers ≠ [] ∧ ['.'].intercalate numbers = text ∧
    List.Forall₂ Text.IsNumeral numbers values

/-- The version of up to three numbers; missing ones are zero. -/
def ofNumbers (values : List Nat) : Version where
  major := values.getD 0 0
  minor := values.getD 1 0
  patch := values.getD 2 0
  preRelease := []
  build := []

theorem isDotted_iff {text : List Char} {values : List Nat} :
    IsDotted text values ↔ List.Forall₂ Text.IsNumeral (Text.pieces (· == '.') text) values := by
  constructor
  · rintro ⟨numbers, hnonempty, rfl, hvalues⟩
    have hnumerals := (Text.forall₂_isNumeral_iff.mp hvalues).1
    rwa [Text.pieces_intercalate hnonempty]
    intro number hnumber hdot
    exact absurd ((hnumerals number hnumber).isDigit _ hdot) (by decide)
  · exact fun hvalues ↦ ⟨_, Text.pieces_ne_nil _ _, Text.intercalate_pieces '.' text, hvalues⟩

/-- Whether a text is dotted numbers is told by its pieces. -/
instance (text : List Char) (values : List Nat) : Decidable (IsDotted text values) :=
  decidable_of_iff _ isDotted_iff.symm

/-- Without zeros in front, a numeral is the digits of its value. -/
theorem plainDigits_eq {digits : List Char} (hdigits : ∀ c ∈ digits, c.isDigit = true) :
    plainDigits digits = Nat.toDigits 10 (Nat.ofDigitChars 10 digits 0) := by
  rw [← Text.ofDigitChars_dropZeros, plainDigits]
  cases hplain : digits.dropWhile (· == '0') with
  | nil => rfl
  | cons c rest =>
    have hhead : c ≠ '0' := by
      have hnot := List.head?_dropWhile_not (· == '0') digits
      simpa [hplain] using hnot
    refine (Text.toDigits_ofDigitChars (List.cons_ne_nil _ _) (fun other hother ↦ ?_)
      (by simpa using hhead)).symm
    exact hdigits other ((List.dropWhile_sublist _).subset (hplain ▸ hother))

/-- Up to three numbers are put into the written form of the version of their values. -/
theorem fullText_eq {numbers : List (List Char)}
    (hdigits : ∀ number ∈ numbers, ∀ c ∈ number, c.isDigit = true) :
    fullText numbers =
      (ofNumbers (numbers.map fun digits ↦ Nat.ofDigitChars 10 digits 0)).core := by
  have hnumber : ∀ index, plainDigits (numbers.getD index []) = Nat.toDigits 10
      ((numbers.map fun digits ↦ Nat.ofDigitChars 10 digits 0).getD index 0) := by
    intro index
    rw [List.getD_eq_getElem?_getD, List.getD_eq_getElem?_getD, List.getElem?_map]
    cases hindex : numbers[index]? with
    | none => rfl
    | some number => exact plainDigits_eq (hdigits number (List.mem_of_getElem? hindex))
  simp only [fullText, core, numerals, ofNumbers, hnumber, List.intercalate_cons_cons,
    List.intercalate_singleton, List.append_assoc, List.cons_append, List.nil_append]

/-! ### One to three numbers -/

/-- Without identifiers a version is written as its three numbers alone. -/
theorem written_eq_core {version : Version} (hpreRelease : version.preRelease = [])
    (hbuild : version.build = []) : version.written = version.core := by
  simp [written, hpreRelease, hbuild, joined?, marked]

/-- Versions with the same digits and the same identifiers are the same. -/
theorem eq_of_numerals_eq {first second : Version} (hnumerals : first.numerals = second.numerals)
    (hpreRelease : first.preRelease = second.preRelease) (hbuild : first.build = second.build) :
    first = second := by
  have hvalues := congrArg (List.map fun digits ↦ Nat.ofDigitChars 10 digits 0) hnumerals
  simp only [numerals, List.map_cons, Nat.ofDigitChars_ten_toDigits, List.cons.injEq] at hvalues
  obtain ⟨hmajor, hminor, hpatch, -⟩ := hvalues
  cases first
  cases second
  simp_all

/-- The text of three numbers alone is read as their version, if they fit. -/
theorem strict?_core_eq_some_iff {values : List Nat} {version : Version} :
    strict? (ofNumbers values).core = some version ↔
      (ofNumbers values).IsWellFormed ∧ version = ofNumbers values := by
  constructor
  · intro hread
    have hpreRelease : cutOptional '-' (ofNumbers values).core = ((ofNumbers values).core, none) :=
      cutOptional_eq_iff.mpr ⟨not_mem_core (by decide) (by decide), List.append_nil _⟩
    have hbuild : cutOptional '+' (ofNumbers values).core = ((ofNumbers values).core, none) :=
      cutOptional_eq_iff.mpr ⟨not_mem_core (by decide) (by decide), List.append_nil _⟩
    obtain ⟨hformed, hpieces, hpre, hbuilds⟩ :=
      (strict?_eq_some_iff_of_cut hbuild hpreRelease).mp hread
    rw [pieces_core] at hpieces
    have heq : version = ofNumbers values :=
      eq_of_numerals_eq hpieces.symm (joined?_eq_none_iff.mp hpre) (joined?_eq_none_iff.mp hbuilds)
    exact ⟨heq ▸ hformed, heq⟩
  · rintro ⟨hformed, rfl⟩
    exact strict?_eq_some_iff.mpr ⟨hformed, written_eq_core rfl rfl⟩

theorem isWellFormed_ofNumbers_iff {values : List Nat} (hlength : values.length ≤ 3) :
    (ofNumbers values).IsWellFormed ↔ ∀ value ∈ values, value < Text.wordLimit := by
  constructor
  · rintro ⟨hmajor, hminor, hpatch, -, -⟩
    match values, hlength with
    | [], _ => simp
    | [major], _ => simpa [ofNumbers] using hmajor
    | [major, minor], _ => simpa [ofNumbers] using ⟨hmajor, hminor⟩
    | [major, minor, patch], _ => simpa [ofNumbers] using ⟨hmajor, hminor, hpatch⟩
  · intro hvalues
    have hindex : ∀ index, values.getD index 0 < Text.wordLimit := by
      intro index
      rw [List.getD_eq_getElem?_getD]
      cases hvalue : values[index]? with
      | none => decide
      | some value => exact hvalues value (List.mem_of_getElem? hvalue)
    exact ⟨hindex 0, hindex 1, hindex 2, by simp [ofNumbers], by simp [ofNumbers]⟩

/-- Up to three dotted numbers that fit are read, and nothing else. -/
theorem short?_eq_some_iff {text : List Char} {version : Version} :
    short? text = some version ↔
      ∃ values, values.length ≤ 3 ∧ IsDotted text values ∧ version = ofNumbers values := by
  simp only [isDotted_iff, Text.forall₂_isNumeral_iff]
  rw [short?, Option.ite_none_right_eq_some]
  constructor
  · rintro ⟨⟨hlength, hchecked⟩, hread⟩
    have hnumbers : ∀ number ∈ Text.pieces (· == '.') text,
        number ≠ [] ∧ ∀ c ∈ number, c.isDigit = true := by
      simpa using hchecked
    rw [fullText_eq fun number hnumber ↦ (hnumbers number hnumber).2,
      strict?_core_eq_some_iff] at hread
    obtain ⟨hformed, rfl⟩ := hread
    have hfits := (isWellFormed_ofNumbers_iff (by simpa using hlength)).mp hformed
    refine ⟨_, by simpa using hlength, ⟨fun number hnumber ↦ ?_, rfl⟩, rfl⟩
    obtain ⟨hnonempty, hdigits⟩ := hnumbers number hnumber
    exact ⟨hnonempty, hdigits, rfl, hfits _ (List.mem_map_of_mem hnumber)⟩
  · rintro ⟨values, hlength, ⟨hnumerals, rfl⟩, rfl⟩
    refine ⟨⟨by simpa using hlength, ?_⟩, ?_⟩
    · simpa using fun number hnumber ↦
        ⟨(hnumerals number hnumber).nonempty, (hnumerals number hnumber).isDigit⟩
    · rw [fullText_eq fun number hnumber ↦ (hnumerals number hnumber).isDigit,
        strict?_core_eq_some_iff, isWellFormed_ofNumbers_iff hlength]
      simpa using fun number hnumber ↦ (hnumerals number hnumber).fits

/-! ### Both ways of reading -/

/-- What stands behind the three numbers is nothing, or begins with a hyphen or a plus sign. -/
theorem identifiers_eq_nil_or (version : Version) :
    (version.preRelease = [] ∧ version.build = []) ∨
      ∃ c rest, c.isDigit = false ∧ c ≠ '.' ∧ version.written = version.core ++ c :: rest := by
  cases hpreRelease : joined? version.preRelease with
  | some part =>
    right
    refine ⟨'-', part ++ marked '+' (joined? version.build), by decide, by decide, ?_⟩
    rw [written, hpreRelease, marked, List.append_assoc, List.cons_append]
  | none =>
    cases hbuild : joined? version.build with
    | some part =>
      right
      refine ⟨'+', part, by decide, by decide, ?_⟩
      rw [written, hpreRelease, hbuild, marked, marked, List.append_nil]
    | none => exact .inl ⟨joined?_eq_none_iff.mp hpreRelease, joined?_eq_none_iff.mp hbuild⟩

/-- With identifiers, the third of the pieces between dots is no number: they begin in it. -/
theorem pieces_written {version : Version} {c : Char} {rest : List Char} (hdot : c ≠ '.')
    (hwritten : version.written = version.core ++ c :: rest) :
    ∃ behind others, Text.pieces (· == '.') version.written =
      Nat.toDigits 10 version.major :: Nat.toDigits 10 version.minor ::
        (Nat.toDigits 10 version.patch ++ c :: behind) :: others := by
  have hfree : ∀ value, ∀ c ∈ Nat.toDigits 10 value, (c == '.') = false := by
    intro value c hc
    refine beq_eq_false_iff_ne.mpr fun heq ↦ ?_
    exact absurd (heq ▸ Text.isDigit_of_mem_toDigits hc) (by decide)
  obtain ⟨behind, others, hrest⟩ : ∃ behind others,
      Text.pieces (· == '.') (c :: rest) = (c :: behind) :: others := by
    obtain ⟨first, others, hrest⟩ := List.exists_cons_of_ne_nil (Text.pieces_ne_nil (· == '.') rest)
    have hhead : Text.pieces (· == '.') ([c] ++ rest) = _ :=
      Text.pieces_append_of_forall (by simpa using hdot) rest
    rw [hrest] at hhead
    exact ⟨first, others, hhead⟩
  refine ⟨behind, others, ?_⟩
  have hcore : version.core ++ c :: rest = Nat.toDigits 10 version.major ++ '.' ::
      (Nat.toDigits 10 version.minor ++ '.' :: (Nat.toDigits 10 version.patch ++ c :: rest)) := by
    simp [core, numerals, List.intercalate_cons_cons]
  rw [hwritten, hcore, Text.pieces_append (by simp), Text.pieces_append (by simp),
    Text.pieces_of_forall (hfree _), Text.pieces_of_forall (hfree _),
    Text.pieces_append_of_forall (hfree _), hrest]
  rfl

/-- A text that is read as a full version, and number by number with an optional plus sign before
each, holds three numbers, and they are those of the version. -/
theorem eq_ofNumbers_of_written {version : Version} {values : List Nat}
    (hvalues : List.Forall₂ (fun number value ↦ Text.signedNumber? number = some value)
      (Text.pieces (· == '.') version.written) values) :
    values.length = 3 ∧ version = ofNumbers values := by
  rcases identifiers_eq_nil_or version with
    ⟨hpreRelease, hbuild⟩ | ⟨c, rest, hdigit, hdot, hwritten⟩
  · rw [written_eq_core hpreRelease hbuild, pieces_core] at hvalues
    obtain _ | ⟨hmajor, _ | ⟨hminor, _ | ⟨hpatch, _ | _⟩⟩⟩ := hvalues
    obtain rfl := Text.eq_of_signedNumber?_toDigits hmajor
    obtain rfl := Text.eq_of_signedNumber?_toDigits hminor
    obtain rfl := Text.eq_of_signedNumber?_toDigits hpatch
    exact ⟨rfl, eq_of_numerals_eq rfl hpreRelease hbuild⟩
  · obtain ⟨behind, others, hpieces⟩ := pieces_written hdot hwritten
    rw [hpieces] at hvalues
    obtain _ | ⟨-, _ | ⟨-, _ | ⟨hthird, -⟩⟩⟩ := hvalues
    rw [Text.signedNumber?_toDigits_append hdigit] at hthird
    cases hthird

theorem IsDotted.forall₂_signedNumber? {text : List Char} {values : List Nat}
    (hdotted : IsDotted text values) :
    List.Forall₂ (fun number value ↦ Text.signedNumber? number = some value)
      (Text.pieces (· == '.') text) values :=
  (isDotted_iff.mp hdotted).imp fun _ _ hnumeral ↦
    Text.signedNumber?_eq_some_iff.mpr (.inl hnumeral)

/-! ### Reading a version -/

/-- A text is read in one of the two ways. -/
theorem parse?_eq_some_iff {text : String} {version : Version} :
    parse? text = some version ↔
      (version.IsWellFormed ∧ version.written = withoutMark (Text.trimChars text.toList)) ∨
        ∃ values, values.length ≤ 3 ∧
          IsDotted (withoutMark (Text.trimChars text.toList)) values ∧
            version = ofNumbers values := by
  rw [parse?, ← strict?_eq_some_iff, ← short?_eq_some_iff, Option.or_eq_some_iff]
  constructor
  · exact Or.imp_right And.right
  · rintro (hfull | hshort)
    · exact .inl hfull
    · cases hfull : strict? (withoutMark (Text.trimChars text.toList)) with
      | none => exact .inr ⟨rfl, hshort⟩
      | some other =>
        obtain ⟨values, -, hdotted, rfl⟩ := short?_eq_some_iff.mp hshort
        obtain ⟨hformed, hwritten⟩ := strict?_eq_some_iff.mp hfull
        rw [← hwritten] at hdotted
        exact .inl (congrArg some (eq_ofNumbers_of_written hdotted.forall₂_signedNumber?).2)

/-- Read as a version is exactly the written form of a well-formed version, which is read as this
version, and one to three dotted numbers, which are read as the version of their values, missing
ones being zero. The full text that such numbers are put into is never refused, and a text that is
of both forms stands for one version. -/
theorem parse?_accepts_two_forms (text : String) :
    let cleaned := withoutMark (Text.trimChars text.toList)
    (∀ version, parse? text = some version ↔
        (version.IsWellFormed ∧ version.written = cleaned) ∨
          ∃ values, values.length ≤ 3 ∧ IsDotted cleaned values ∧ version = ofNumbers values) ∧
      (∀ values, values.length ≤ 3 → IsDotted cleaned values →
        strict? (fullText (Text.pieces (· == '.') cleaned)) = some (ofNumbers values)) ∧
      ∀ version values, version.IsWellFormed → version.written = cleaned →
        IsDotted cleaned values → version = ofNumbers values := by
  refine ⟨fun version ↦ parse?_eq_some_iff, fun values hlength hdotted ↦ ?_, ?_⟩
  · have hshort := short?_eq_some_iff.mpr ⟨values, hlength, hdotted, rfl⟩
    exact (Option.ite_none_right_eq_some.mp hshort).2
  · rintro version values - hwritten hdotted
    rw [← hwritten] at hdotted
    exact (eq_ofNumbers_of_written hdotted.forall₂_signedNumber?).2

example : parse? " v1.02\n" = some ⟨1, 2, 0, [], []⟩ := by
  decide +kernel

end Scaffold.Version

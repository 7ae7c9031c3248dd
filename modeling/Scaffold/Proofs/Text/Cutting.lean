import Mathlib.Data.List.Basic
import Mathlib.Data.List.DropRight
import Mathlib.Data.List.TakeWhile
import Scaffold.Text.Cut

/-!
# Stems, endings, parts and words

`stripStem?` and `stripEnding?` undo the concatenation with a stem or an ending: they give a rest
exactly when the text is put together from the two parts. Dropping a stem and taking what follows
the last mark bring in no character (`mem_of_mem_dropStem`, `not_mem_afterLast`). `IsWithoutStem`,
`IsAfterLast` and `IsBeforeFirst` say what a cut leaves by putting the text together again.

A text that was trimmed stays as it is when it is trimmed once more (`trim_trim`).

A mark between two texts keeps their parts apart (`parts_append`), and a text without a mark is its
only part (`parts_of_not_mem`). The words of a text are the runs of characters between its blanks,
none of them empty (`splitsInto_iff`), and blanks at its ends do not count (`words_trim`).
-/

set_option autoImplicit false

namespace Scaffold.Text

/-- A text has a stem exactly when it is the stem with a rest behind it. -/
theorem stripStem?_eq_some_iff {stem text rest : String} :
    stripStem? stem text = some rest ↔ stem ++ rest = text := by
  simp only [stripStem?, Option.map_eq_some_iff, List.isPrefixOf?_eq_some_iff_append_eq]
  constructor
  · rintro ⟨chars, hchars, rfl⟩
    apply String.toList_inj.mp
    simpa using hchars
  · rintro rfl
    exact ⟨rest.toList, by simp, String.ofList_toList⟩

/-- A text has an ending exactly when it is the ending with a rest before it. -/
theorem stripEnding?_eq_some_iff {ending text rest : String} :
    stripEnding? ending text = some rest ↔ rest ++ ending = text := by
  simp only [stripEnding?, Option.map_eq_some_iff, List.isSuffixOf?_eq_some_iff_append_eq]
  constructor
  · rintro ⟨chars, hchars, rfl⟩
    apply String.toList_inj.mp
    simpa using hchars
  · rintro rfl
    exact ⟨rest.toList, by simp, String.ofList_toList⟩

/-- Texts with endings of one length that differ are different. -/
theorem append_ne_append {first second ending other : String}
    (hlength : ending.toList.length = other.toList.length) (hne : ending ≠ other) :
    first ++ ending ≠ second ++ other := by
  intro heq
  have hchars := congrArg String.toList heq
  rw [String.toList_append, String.toList_append] at hchars
  exact hne (String.toList_inj.mp (List.append_inj_right' hchars hlength))

theorem dropStem_append (stem rest : String) : dropStem stem (stem ++ rest) = rest := by
  rw [dropStem, stripStem?_eq_some_iff.mpr rfl, Option.getD_some]

theorem dropStem_of_ne {stem text : String} (htext : ∀ rest, text ≠ stem ++ rest) :
    dropStem stem text = text := by
  cases hstem : stripStem? stem text with
  | none => rw [dropStem, hstem, Option.getD_none]
  | some rest => exact absurd (stripStem?_eq_some_iff.mp hstem).symm (htext rest)

/-- The rest is a text without one leading stem, or all of a text that does not begin with it. -/
def IsWithoutStem (stem text rest : String) : Prop :=
  stem ++ rest = text ∨ rest = text ∧ ∀ other, text ≠ stem ++ other

theorem isWithoutStem_dropStem (stem text : String) :
    IsWithoutStem stem text (dropStem stem text) := by
  by_cases hstem : ∃ rest, text = stem ++ rest
  · obtain ⟨rest, rfl⟩ := hstem
    exact .inl (congrArg (stem ++ ·) (dropStem_append stem rest))
  · have htext := not_exists.mp hstem
    exact .inr ⟨dropStem_of_ne htext, htext⟩

/-- Dropping a stem leaves the text as it is, or leaves what stands behind the stem. -/
theorem eq_dropStem_or_eq_append (stem text : String) :
    text = dropStem stem text ∨ text = stem ++ dropStem stem text := by
  rcases isWithoutStem_dropStem stem text with hstem | ⟨hsame, -⟩
  · exact .inr hstem.symm
  · exact .inl hsame.symm

/-- A text without a stem has no other characters than before. -/
theorem mem_of_mem_dropStem {stem text : String} {c : Char}
    (hmem : c ∈ (dropStem stem text).toList) : c ∈ text.toList := by
  rcases eq_dropStem_or_eq_append stem text with hsame | hstem
  · rwa [hsame]
  · rw [hstem, String.toList_append]
    exact List.mem_append_right _ hmem

/-- A text that was trimmed has no more blanks to lose. -/
theorem trim_trim (text : String) : trim (trim text) = trim text := by
  have hstart : (trimChars text.toList).dropWhile isBlank = trimChars text.toList := by
    rw [List.dropWhile_eq_self_iff]
    intro hlength
    have hkept : trimChars text.toList <+: text.toList.dropWhile isBlank :=
      List.rdropWhile_prefix isBlank _
    rw [hkept.getElem hlength]
    exact List.dropWhile_get_zero_not isBlank text.toList _
  have hchars : trimChars (trimChars text.toList) = trimChars text.toList := by
    rw [trimChars, hstart]
    exact List.rdropWhile_idempotent isBlank _
  rw [trim, trim, String.toList_ofList, hchars]

/-! ### Cutting at a mark -/

/-- Characters are cut at their first mark. -/
theorem cutChars?_append {mark : Char} {before : List Char} (hbefore : mark ∉ before)
    (after : List Char) : cutChars? mark (before ++ mark :: after) = some (before, after) := by
  induction before with
  | nil => simp [cutChars?]
  | cons c rest ih =>
    rw [List.mem_cons, not_or] at hbefore
    simp [cutChars?, Ne.symm hbefore.1, ih hbefore.2]

theorem cutChars?_eq_none_iff {mark : Char} {cs : List Char} :
    cutChars? mark cs = none ↔ mark ∉ cs := by
  induction cs with
  | nil => simp [cutChars?]
  | cons c rest ih =>
    by_cases hmark : c = mark
    · simp [cutChars?, hmark]
    · simp [cutChars?, hmark, ih, Ne.symm hmark]

/-- A text is cut at its first mark. -/
theorem cutAt?_append {mark : Char} {separator first : String}
    (hseparator : separator.toList = [mark]) (hfirst : mark ∉ first.toList) (second : String) :
    cutAt? mark (first ++ separator ++ second) = some (first, second) := by
  have hchars : (first ++ separator ++ second).toList = first.toList ++ mark :: second.toList := by
    simp [hseparator]
  simp [cutAt?, hchars, cutChars?_append hfirst]

/-- The first part stands before the first mark of a text. -/
def IsBeforeFirst (mark : Char) (text first : String) : Prop :=
  mark ∉ first.toList ∧ ∃ rest, first ++ String.singleton mark ++ rest = text

/-- A text is cut exactly where its first mark stands. -/
theorem isBeforeFirst_iff {mark : Char} {text first : String} :
    IsBeforeFirst mark text first ↔ ∃ rest, cutAt? mark text = some (first, rest) := by
  constructor
  · rintro ⟨hfirst, rest, rfl⟩
    exact ⟨rest, cutAt?_append (String.toList_singleton mark) hfirst rest⟩
  · rintro ⟨rest, hcut⟩
    obtain ⟨⟨before, after⟩, hchars, hparts⟩ := Option.map_eq_some_iff.mp hcut
    obtain ⟨rfl, rfl⟩ := Prod.mk.inj hparts
    obtain ⟨hwhole, hbefore⟩ := cutChars?_eq_some hchars
    refine ⟨by rwa [String.toList_ofList], String.ofList after, String.toList_inj.mp ?_⟩
    simp [hwhole]

/-! ### Parts -/

/-- What follows the last mark holds no mark. -/
theorem not_mem_afterLast (mark : Char) (text : String) :
    mark ∉ (afterLast mark text).toList := by
  rw [afterLast, String.toList_ofList, List.mem_reverse]
  intro hmem
  simpa using List.mem_takeWhile_imp hmem

/-- The rest stands behind the last mark of a text, or is all of a text without one. -/
def IsAfterLast (mark : Char) (text rest : String) : Prop :=
  mark ∉ rest.toList ∧ (rest = text ∨ ∃ before, before ++ String.singleton mark ++ rest = text)

theorem isAfterLast_afterLast (mark : Char) (text : String) :
    IsAfterLast mark text (afterLast mark text) := by
  refine ⟨not_mem_afterLast mark text, ?_⟩
  -- What follows the last mark is what stands before the first one in reverse.
  have hsplit := List.takeWhile_append_dropWhile (p := (· != mark)) (l := text.toList.reverse)
  cases hrest : text.toList.reverse.dropWhile (· != mark) with
  | nil =>
    left
    rw [hrest, List.append_nil] at hsplit
    rw [afterLast, hsplit, List.reverse_reverse, String.ofList_toList]
  | cons c rest =>
    right
    have hc : c = mark := by
      simpa [hrest] using List.head?_dropWhile_not (· != mark) text.toList.reverse
    subst hc
    refine ⟨String.ofList rest.reverse, String.toList_inj.mp ?_⟩
    have hback := congrArg List.reverse hsplit
    rw [hrest, List.reverse_reverse, List.reverse_append, List.reverse_cons] at hback
    simpa [afterLast] using hback

/-- A break keeps the pieces before it apart from those after it. -/
theorem pieces_append {isBreak : Char → Bool} {mark : Char} (hmark : isBreak mark = true)
    (before after : List Char) :
    pieces isBreak (before ++ mark :: after) = pieces isBreak before ++ pieces isBreak after := by
  induction before with
  | nil => simp [pieces, hmark]
  | cons c rest ih =>
    rw [List.cons_append, pieces, pieces, ih]
    split
    · rfl
    · cases hpieces : pieces isBreak rest with
      | nil => exact absurd hpieces (pieces_ne_nil _ _)
      | cons first others => rfl

theorem pieces_of_forall {isBreak : Char → Bool} {cs : List Char}
    (hcs : ∀ c ∈ cs, isBreak c = false) : pieces isBreak cs = [cs] := by
  induction cs with
  | nil => rfl
  | cons c rest ih =>
    have hrest := ih fun other hother ↦ hcs other (List.mem_cons_of_mem _ hother)
    simp [pieces, hcs c List.mem_cons_self, hrest]

/-- What stands in texts put together stands in one of them or between them. -/
theorem mem_intercalate {separator : List Char} {texts : List (List Char)} {c : Char}
    (hc : c ∈ separator.intercalate texts) : c ∈ separator ∨ ∃ text ∈ texts, c ∈ text := by
  induction texts with
  | nil => simp at hc
  | cons first rest ih =>
    cases rest with
    | nil => exact .inr ⟨first, List.mem_cons_self, by simpa using hc⟩
    | cons second others =>
      rw [List.intercalate_cons_cons, List.mem_append, List.mem_append] at hc
      rcases hc with (hfirst | hseparator) | hrest
      · exact .inr ⟨first, List.mem_cons_self, hfirst⟩
      · exact .inl hseparator
      · obtain hseparator | ⟨text, htext, hmem⟩ := ih hrest
        · exact .inl hseparator
        · exact .inr ⟨text, List.mem_cons_of_mem _ htext, hmem⟩

/-- Texts without a break are the pieces of what is put together from them. -/
theorem pieces_intercalate {mark : Char} {texts : List (List Char)} (hnonempty : texts ≠ [])
    (htexts : ∀ text ∈ texts, mark ∉ text) :
    pieces (· == mark) ([mark].intercalate texts) = texts := by
  have hfree : ∀ text ∈ texts, pieces (· == mark) text = [text] := fun text htext ↦
    pieces_of_forall fun c hc ↦ by simpa using fun heq : c = mark ↦ htexts text htext (heq ▸ hc)
  induction texts with
  | nil => exact absurd rfl hnonempty
  | cons first rest ih =>
    have hfirst := hfree first List.mem_cons_self
    cases rest with
    | nil => rw [List.intercalate_singleton, hfirst]
    | cons second others =>
      have hrest := ih (List.cons_ne_nil _ _) (fun text htext ↦
        htexts text (List.mem_cons_of_mem _ htext)) fun text htext ↦
        hfree text (List.mem_cons_of_mem _ htext)
      rw [List.intercalate_cons_cons, List.append_assoc, List.singleton_append,
        pieces_append (by simp), hfirst, hrest, List.singleton_append]

/-- What is put before a text without a break belongs to its first piece. -/
theorem pieces_append_of_forall {isBreak : Char → Bool} {before : List Char}
    (hbefore : ∀ c ∈ before, isBreak c = false) (after : List Char) :
    pieces isBreak (before ++ after) = (pieces isBreak after).modifyHead (before ++ ·) := by
  induction before with
  | nil =>
    rw [List.nil_append]
    cases pieces isBreak after <;> rfl
  | cons c rest ih =>
    rw [List.cons_append, pieces, hbefore c List.mem_cons_self,
      ih fun other hother ↦ hbefore other (List.mem_cons_of_mem _ hother)]
    cases hpieces : pieces isBreak after with
    | nil => exact absurd hpieces (pieces_ne_nil _ _)
    | cons first others => rfl

/-- A mark between two texts keeps the parts of the first apart from those of the second. -/
theorem parts_append {mark : Char} {separator : String} (hseparator : separator.toList = [mark])
    (first second : String) :
    parts mark (first ++ separator ++ second) = parts mark first ++ parts mark second := by
  have hchars : (first ++ separator ++ second).toList = first.toList ++ mark :: second.toList := by
    simp [hseparator]
  rw [parts, hchars, pieces_append (by simp), List.map_append, parts, parts]

/-- A text without a mark is its only part. -/
theorem parts_of_not_mem {mark : Char} {text : String} (hmark : mark ∉ text.toList) :
    parts mark text = [text] := by
  have hpieces : pieces (· == mark) text.toList = [text.toList] :=
    pieces_of_forall fun c hc ↦ by simpa using fun heq : c = mark ↦ hmark (heq ▸ hc)
  rw [parts, hpieces, List.map_singleton, String.ofList_toList]

theorem parts_ne_nil (mark : Char) (text : String) : parts mark text ≠ [] := by
  simp [parts, pieces_ne_nil]

/-- No part holds a mark. -/
theorem not_mem_of_mem_parts {mark : Char} {text part : String} (hpart : part ∈ parts mark text) :
    mark ∉ part.toList := by
  obtain ⟨piece, hpiece, rfl⟩ := List.mem_map.mp hpart
  rw [String.toList_ofList]
  intro hmark
  simpa using forall_mem_pieces (· == mark) text.toList piece hpiece mark hmark

theorem toList_joinWith (separator : String) (texts : List String) :
    (joinWith separator texts).toList = separator.toList.intercalate (texts.map String.toList) := by
  induction texts with
  | nil => rfl
  | cons first rest ih =>
    cases rest with
    | nil => simp [joinWith]
    | cons second others =>
      rw [joinWith, String.toList_append, String.toList_append, ih, List.map_cons, List.map_cons,
        List.map_cons, List.intercalate_cons_cons]
      exact List.cons_ne_nil _ _

/-- Texts without a mark are the parts of the text that they are joined to. -/
theorem parts_joinWith {mark : Char} {separator : String} (hseparator : separator.toList = [mark])
    {texts : List String} (hnonempty : texts ≠ []) (htexts : ∀ text ∈ texts, mark ∉ text.toList) :
    parts mark (joinWith separator texts) = texts := by
  have hchars : texts.map String.toList ≠ [] := by simpa using hnonempty
  rw [parts, toList_joinWith, hseparator, pieces_intercalate hchars (by simpa using htexts)]
  simp

/-! ### Words -/

/-- The words are the runs of characters between blanks, in order. -/
inductive SplitsInto : List Char → List String → Prop
  | blanks {cs : List Char} (hblank : ∀ c ∈ cs, isBlank c = true) : SplitsInto cs []
  | word {before word rest : List Char} {words : List String}
      (hbefore : ∀ c ∈ before, isBlank c = true) (hfull : word ≠ [])
      (hword : ∀ c ∈ word, isBlank c = false)
      (hrest : rest = [] ∨ ∃ c later, rest = c :: later ∧ isBlank c = true)
      (hwords : SplitsInto rest words) :
      SplitsInto (before ++ (word ++ rest)) (String.ofList word :: words)

/-- The pieces between blanks that are not empty. -/
def runs (cs : List Char) : List (List Char) :=
  (pieces isBlank cs).filter fun piece ↦ !piece.isEmpty

theorem words_eq_map_runs (text : String) : words text = (runs text.toList).map String.ofList :=
  rfl

theorem runs_cons_of_isBlank {c : Char} (hblank : isBlank c = true) (rest : List Char) :
    runs (c :: rest) = runs rest := by
  simp [runs, pieces, hblank]

theorem runs_append_of_isBlank {before : List Char} (hbefore : ∀ c ∈ before, isBlank c = true)
    (rest : List Char) : runs (before ++ rest) = runs rest := by
  induction before with
  | nil => rfl
  | cons c others ih =>
    rw [List.cons_append, runs_cons_of_isBlank (hbefore c List.mem_cons_self)]
    exact ih fun other hother ↦ hbefore other (List.mem_cons_of_mem _ hother)

theorem runs_eq_nil {cs : List Char} (hblank : ∀ c ∈ cs, isBlank c = true) : runs cs = [] := by
  rw [← List.append_nil cs, runs_append_of_isBlank hblank]
  rfl

theorem runs_append_cons {c : Char} (hblank : isBlank c = true) (before after : List Char) :
    runs (before ++ c :: after) = runs before ++ runs after := by
  rw [runs, pieces_append hblank, List.filter_append, runs, runs]

/-- Blanks behind characters play no part. -/
theorem runs_append_blanks (cs : List Char) {blanks : List Char}
    (hblanks : ∀ c ∈ blanks, isBlank c = true) : runs (cs ++ blanks) = runs cs := by
  cases blanks with
  | nil => rw [List.append_nil]
  | cons c rest =>
    obtain ⟨hc, hrest⟩ := List.forall_mem_cons.mp hblanks
    rw [runs_append_cons hc, runs_eq_nil hrest, List.append_nil]

theorem runs_of_forall {word : List Char} (hfull : word ≠ [])
    (hword : ∀ c ∈ word, isBlank c = false) : runs word = [word] := by
  rw [runs, pieces_of_forall hword]
  simp [hfull]

/-- Characters split into exactly one list of words. -/
theorem SplitsInto.map_runs_eq {cs : List Char} {words : List String}
    (hsplits : SplitsInto cs words) : (runs cs).map String.ofList = words := by
  induction hsplits with
  | blanks hblank => rw [runs_eq_nil hblank, List.map_nil]
  | @word before word rest words hbefore hfull hword hrest hwords ih =>
    rw [runs_append_of_isBlank hbefore]
    rcases hrest with rfl | ⟨c, later, rfl, hblank⟩
    · rw [List.append_nil, runs_of_forall hfull hword, ← ih]
      rfl
    · rw [runs_append_cons hblank, runs_of_forall hfull hword, ← ih, runs_cons_of_isBlank hblank]
      rfl

/-- A character in front of characters that split into words begins a word, joins the first one, or
is a blank. -/
theorem SplitsInto.exists_cons {cs : List Char} {words : List String}
    (hsplits : SplitsInto cs words) (c : Char) : ∃ others, SplitsInto (c :: cs) others := by
  cases hblank : isBlank c with
  | true =>
    cases hsplits with
    | blanks hcs => exact ⟨[], .blanks (List.forall_mem_cons.mpr ⟨hblank, hcs⟩)⟩
    | word hbefore hfull hword hrest hwords =>
      exact ⟨_, .word (List.forall_mem_cons.mpr ⟨hblank, hbefore⟩) hfull hword hrest hwords⟩
  | false =>
    have hstarts : (cs = [] ∨ ∃ d later, cs = d :: later ∧ isBlank d = true) →
        ∃ others, SplitsInto (c :: cs) others := fun hrest ↦
      ⟨_, @SplitsInto.word [] [c] cs words nofun (List.cons_ne_nil _ _) (by simpa using hblank)
        hrest hsplits⟩
    cases hsplits with
    | blanks hcs =>
      cases cs with
      | nil => exact hstarts (.inl rfl)
      | cons d later => exact hstarts (.inr ⟨d, later, rfl, hcs d List.mem_cons_self⟩)
    | @word before word rest words hbefore hfull hword hrest hwords =>
      cases before with
      | nil =>
        exact ⟨_, @SplitsInto.word [] (c :: word) rest words nofun (List.cons_ne_nil _ _)
          (List.forall_mem_cons.mpr ⟨hblank, hword⟩) hrest hwords⟩
      | cons d others =>
        exact hstarts (.inr ⟨d, _, rfl, hbefore d List.mem_cons_self⟩)

/-- The words of a text are what its characters split into. -/
theorem splitsInto_iff {text : String} {list : List String} :
    SplitsInto text.toList list ↔ words text = list := by
  refine ⟨SplitsInto.map_runs_eq, ?_⟩
  rintro rfl
  have hexists : ∀ cs : List Char, ∃ others, SplitsInto cs others := by
    intro cs
    induction cs with
    | nil => exact ⟨[], .blanks nofun⟩
    | cons c rest ih => exact ih.choose_spec.exists_cons c
  obtain ⟨others, hsplits⟩ := hexists text.toList
  rwa [words_eq_map_runs, hsplits.map_runs_eq]

theorem runs_trimChars (cs : List Char) : runs (trimChars cs) = runs cs := by
  have hstart : ∀ c ∈ cs.takeWhile isBlank, isBlank c = true := fun _ ↦ List.mem_takeWhile_imp
  have hend : ∀ c ∈ (cs.dropWhile isBlank).rtakeWhile isBlank, isBlank c = true :=
    fun _ ↦ List.mem_rtakeWhile_imp
  have htrim : trimChars cs = (cs.dropWhile isBlank).rdropWhile isBlank := rfl
  calc runs (trimChars cs)
      = runs (trimChars cs ++ (cs.dropWhile isBlank).rtakeWhile isBlank) :=
        (runs_append_blanks _ hend).symm
    _ = runs (cs.dropWhile isBlank) := by rw [htrim, List.rdropWhile_append_rtakeWhile]
    _ = runs (cs.takeWhile isBlank ++ cs.dropWhile isBlank) :=
        (runs_append_of_isBlank hstart _).symm
    _ = runs cs := by rw [List.takeWhile_append_dropWhile]

theorem SplitsInto.ne_empty {cs : List Char} {words : List String} (hsplits : SplitsInto cs words)
    {word : String} (hword : word ∈ words) : word ≠ "" := by
  induction hsplits with
  | blanks _ => cases hword
  | word hbefore hfull hfirst hrest hwords ih =>
    rcases List.mem_cons.mp hword with rfl | hlater
    · exact fun hempty ↦ hfull (String.ofList_injective hempty)
    · exact ih hlater

/-- Blanks at the ends of a text play no part for its words. -/
theorem words_trim (text : String) : words (trim text) = words text := by
  rw [words_eq_map_runs, words_eq_map_runs, trim, String.toList_ofList, runs_trimChars]

end Scaffold.Text

import Scaffold.Template.Reader

/-!
# Reading what was printed

A printed literal is read back character by character, and a printed placeholder as itself, so the
items read from a printed list of segments are those of its segments (`readItems_printChars`). Any
such list is therefore read as a template with its placeholders in order (`parse_printed`,
`tokens_printed`), and of a normal list nothing else is lost: `parse_print` gives the list back.
-/

set_option autoImplicit false

namespace Scaffold.Template

/-- The items that a segment stands for. -/
def itemsOf : Segment → List Item
  | .literal text => text.toList.map .char
  | .placeholder token => [.placeholder token]

/-- The number of bytes of a list of characters. -/
def byteLength : List Char → Nat
  | [] => 0
  | c :: cs => c.utf8Size + byteLength cs

@[simp]
theorem byteLength_nil : byteLength [] = 0 :=
  rfl

@[simp]
theorem byteLength_cons (c : Char) (cs : List Char) :
    byteLength (c :: cs) = c.utf8Size + byteLength cs :=
  rfl

@[simp]
theorem byteLength_append (first second : List Char) :
    byteLength (first ++ second) = byteLength first + byteLength second := by
  induction first with
  | nil => simp
  | cons c cs ih => simp [ih, Nat.add_assoc]

theorem map_map_append {ε α : Type} (first second : List α) (outcome : Except ε (List α)) :
    (outcome.map (second ++ ·)).map (first ++ ·) = outcome.map (first ++ second ++ ·) := by
  cases outcome <;> simp [Except.map]

theorem map_append_nil {ε α : Type} (outcome : Except ε (List α)) :
    outcome.map ([] ++ ·) = outcome := by
  cases outcome <;> rfl

/-! ### Items -/

/-- Text with its dollars doubled is read as its characters. -/
theorem readItems_doubleDollars (cs rest : List Char) (offset : Nat) :
    readItems .text offset (Segment.doubleDollars cs ++ rest) =
      (readItems .text (offset + byteLength (Segment.doubleDollars cs)) rest).map
        (cs.map Item.char ++ ·) := by
  induction cs generalizing offset with
  | nil => exact (map_append_nil _).symm
  | cons c cs ih =>
    by_cases hdollar : c = '$'
    · subst hdollar
      have hdouble : Segment.doubleDollars ('$' :: cs) = '$' :: '$' :: Segment.doubleDollars cs :=
        rfl
      rw [hdouble, List.cons_append, List.cons_append, readItems, if_pos rfl, readItems,
        if_pos rfl, ih]
      simp only [byteLength_cons, Nat.add_assoc]
      exact map_map_append [Item.char '$'] _ _
    · have hsingle : Segment.doubleDollars (c :: cs) = c :: Segment.doubleDollars cs := by
        simp [Segment.doubleDollars, hdollar]
      rw [hsingle, List.cons_append, readItems, if_neg hdollar, ih]
      simp only [byteLength_cons, Nat.add_assoc]
      exact map_map_append [Item.char c] _ _

/-- A name without a closing brace is collected up to the first such brace. -/
theorem readItems_name {start : Nat} {name : List Char} (hname : '}' ∉ name)
    (reversed rest : List Char) (offset : Nat) :
    readItems (.name start reversed) offset (name ++ '}' :: rest) =
      if Segment.isTokenName (reversed.reverse ++ name) then
        (readItems .text (offset + byteLength (name ++ ['}'])) rest).map
          (.placeholder (String.ofList (reversed.reverse ++ name)) :: ·)
      else .error (start, .invalidName (String.ofList (reversed.reverse ++ name))) := by
  induction name generalizing reversed offset with
  | nil => simp [readItems]
  | cons c name ih =>
    have hc : c ≠ '}' := fun heq ↦ hname (heq ▸ List.mem_cons_self)
    have hrest : '}' ∉ name := fun hmem ↦ hname (List.mem_cons_of_mem _ hmem)
    rw [List.cons_append, readItems, if_neg hc, ih hrest]
    simp [Nat.add_assoc]

/-- No token name holds a brace. -/
theorem brace_not_mem {name : List Char} (hname : Segment.isTokenName name = true) :
    '}' ∉ name := by
  have hbrace : Segment.isNameChar '}' = false := by decide
  have hstart : Segment.isNameStart '}' = false := by decide
  cases name with
  | nil => simp
  | cons c rest =>
    simp only [Segment.isTokenName, Bool.and_eq_true, List.all_eq_true] at hname
    intro hmem
    rcases List.mem_cons.mp hmem with rfl | hmem
    · simp [hstart] at hname
    · simp [hname.2 _ hmem] at hbrace

/-- A printed placeholder is read as itself. -/
theorem readItems_placeholder {token : String} (htoken : Segment.isTokenName token.toList = true)
    (rest : List Char) (offset : Nat) :
    readItems .text offset (Segment.printChars (.placeholder token) ++ rest) =
      (readItems .text (offset + byteLength (Segment.printChars (.placeholder token))) rest).map
        (itemsOf (.placeholder token) ++ ·) := by
  have hprint : Segment.printChars (.placeholder token) ++ rest =
      '$' :: '{' :: (token.toList ++ '}' :: rest) := by
    simp [Segment.printChars]
  rw [hprint, readItems, if_pos rfl, readItems, if_neg (by decide), if_pos rfl,
    readItems_name (brace_not_mem htoken), List.reverse_nil, List.nil_append, if_pos htoken,
    String.ofList_toList]
  simp only [Segment.printChars, byteLength_append, byteLength_cons, List.cons_append,
    Nat.add_assoc]
  rfl

/-- The segments' placeholders are token names. -/
def HasNames (segments : List Segment) : Prop :=
  ∀ token, .placeholder token ∈ segments → Segment.isTokenName token.toList = true

/-- What is printed is read back as the items of its segments. -/
theorem readItems_printChars {segments : List Segment} (hnames : HasNames segments)
    (rest : List Char) (offset : Nat) :
    readItems .text offset (segments.flatMap Segment.printChars ++ rest) =
      (readItems .text (offset + byteLength (segments.flatMap Segment.printChars)) rest).map
        (segments.flatMap itemsOf ++ ·) := by
  induction segments generalizing offset with
  | nil => exact (map_append_nil _).symm
  | cons segment segments ih =>
    have hrest : HasNames segments := fun token hmem ↦ hnames token (List.mem_cons_of_mem _ hmem)
    rw [List.flatMap_cons, List.flatMap_cons, List.append_assoc]
    have hfirst : readItems .text offset
          (Segment.printChars segment ++ (segments.flatMap Segment.printChars ++ rest)) =
        (readItems .text (offset + byteLength (Segment.printChars segment))
          (segments.flatMap Segment.printChars ++ rest)).map (itemsOf segment ++ ·) := by
      cases segment with
      | literal text => exact readItems_doubleDollars text.toList _ offset
      | placeholder token =>
        exact readItems_placeholder (hnames token List.mem_cons_self) _ offset
    rw [hfirst, ih hrest, map_map_append, byteLength_append, Nat.add_assoc]

/-! ### Segments -/

theorem segmentsAfter_map_char (pending cs : List Char) (items : List Item) :
    segmentsAfter pending (cs.map Item.char ++ items) =
      segmentsAfter (cs.reverse ++ pending) items := by
  induction cs generalizing pending with
  | nil => rfl
  | cons c cs ih => simp [segmentsAfter, ih]

/-- A literal that is not empty, pending in reverse, is put before what follows. -/
theorem flush_reverse {text : String} (htext : text ≠ "") (segments : List Segment) :
    flush text.toList.reverse segments = .literal text :: segments := by
  have hpending : text.toList.reverse ≠ [] := by simpa using htext
  rw [flush, if_neg hpending, List.reverse_reverse, String.ofList_toList]

/-- The segments of the items of a normal list are the list. -/
theorem segmentsOf_itemsOf {segments : List Segment} (hnormal : Segment.Normal segments) :
    segmentsOf (segments.flatMap itemsOf) = segments := by
  induction segments using Segment.Normal.induct with
  | case1 => rfl
  | case2 token rest ih =>
    have hrest := ih hnormal.2
    rw [List.flatMap_cons, itemsOf]
    exact congrArg (.placeholder token :: ·) hrest
  | case3 text =>
    have hread := segmentsAfter_map_char [] text.toList []
    rw [List.append_nil, List.append_nil] at hread
    rw [List.flatMap_cons, List.flatMap_nil, List.append_nil, itemsOf, segmentsOf, hread]
    exact flush_reverse hnormal []
  | case4 => exact absurd hnormal id
  | case5 text token rest ih =>
    obtain ⟨htext, -, hrest⟩ := hnormal
    have hread := segmentsAfter_map_char [] text.toList
      (.placeholder token :: rest.flatMap itemsOf)
    rw [List.append_nil] at hread
    rw [List.flatMap_cons, List.flatMap_cons, itemsOf, itemsOf, segmentsOf, List.singleton_append,
      hread, segmentsAfter, flush_reverse htext]
    exact congrArg (fun tail ↦ .literal text :: .placeholder token :: tail) (ih hrest)

theorem hasNames_of_normal {segments : List Segment} (hnormal : Segment.Normal segments) :
    HasNames segments := by
  induction segments using Segment.Normal.induct with
  | case1 => simp [HasNames]
  | case2 token rest ih =>
    intro other hother
    rcases List.mem_cons.mp hother with heq | hother
    · rw [Segment.placeholder.inj heq]
      exact hnormal.1
    · exact ih hnormal.2 other hother
  | case3 text => simp [HasNames]
  | case4 => exact absurd hnormal id
  | case5 text token rest ih =>
    obtain ⟨-, htoken, hrest⟩ := hnormal
    intro other hother
    rcases List.mem_cons.mp hother with heq | hother
    · simp at heq
    · rcases List.mem_cons.mp hother with heq | hother
      · rw [Segment.placeholder.inj heq]
        exact htoken
      · exact ih hrest other hother

/-! ### Templates -/

/-- The template that a printed list of segments is read as. -/
def printed (name : String) (segments : List Segment) : Template :=
  ⟨name, segmentsOf (segments.flatMap itemsOf)⟩

/-- What is printed can be read. -/
theorem parse_printed (name : String) {segments : List Segment} (hnames : HasNames segments) :
    parse name (Segment.print segments) = .ok (printed name segments) := by
  have hread := readItems_printChars hnames [] 0
  rw [List.append_nil] at hread
  rw [parse, Segment.print, String.toList_ofList, hread, readItems, printed]
  simp [Except.map]

/-- A printed normal list is read back as it was. -/
theorem parse_print (name : String) {segments : List Segment} (hnormal : Segment.Normal segments) :
    parse name (Segment.print segments) = .ok ⟨name, segments⟩ := by
  rw [parse_printed name (hasNames_of_normal hnormal), printed, segmentsOf_itemsOf hnormal]

theorem filterMap_token?_flush (pending : List Char) (segments : List Segment) :
    (flush pending segments).filterMap Segment.token? = segments.filterMap Segment.token? := by
  rw [flush]
  split <;> rfl

/-- Joining characters into literals keeps the placeholders. -/
theorem filterMap_token?_segmentsAfter (pending : List Char) (segments : List Segment) :
    (segmentsAfter pending (segments.flatMap itemsOf)).filterMap Segment.token? =
      segments.filterMap Segment.token? := by
  induction segments generalizing pending with
  | nil => exact filterMap_token?_flush pending []
  | cons segment rest ih =>
    rw [List.flatMap_cons]
    cases segment with
    | literal text =>
      rw [itemsOf, segmentsAfter_map_char, ih]
      rfl
    | placeholder token =>
      have hrest := ih []
      rw [itemsOf, List.singleton_append, segmentsAfter, filterMap_token?_flush]
      exact congrArg (token :: ·) hrest

/-- The template read from a printed list has the placeholders of the list. -/
theorem tokens_printed (name : String) (segments : List Segment) :
    (printed name segments).tokens = segments.filterMap Segment.token? :=
  filterMap_token?_segmentsAfter [] segments

end Scaffold.Template

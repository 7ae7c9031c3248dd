import Scaffold.Proofs.Template.Reading

/-!
# What parsing gives

Joining the items of a body into segments loses nothing (`flatMap_itemsOf_segmentsOf`), and gives a
normal list of segments where the placeholders have token names (`normal_segmentsOf`). So a body is
parsed into the one normal list of segments that stands for what is read (`parse_eq_ok_iff`), and is
refused exactly at its first malformed placeholder (`parse_eq_error_iff`).

Printing and parsing are inverse to each other on normal lists (`parse_inverts_print`), and
parsing follows the grammar of bodies, with the place and the reason of the first fault
(`parse_follows_reading`).
-/

set_option autoImplicit false

namespace Scaffold.Template

/-! ### Segments of items -/

theorem flatMap_itemsOf_flush (pending : List Char) (segments : List Segment) :
    (flush pending segments).flatMap itemsOf =
      pending.reverse.map Item.char ++ segments.flatMap itemsOf := by
  rw [flush]
  split
  · rename_i hempty
    rw [hempty]
    rfl
  · rw [List.flatMap_cons, itemsOf, String.toList_ofList]

theorem flatMap_itemsOf_segmentsAfter (pending : List Char) (items : List Item) :
    (segmentsAfter pending items).flatMap itemsOf = pending.reverse.map Item.char ++ items := by
  induction items generalizing pending with
  | nil => exact flatMap_itemsOf_flush pending []
  | cons item rest ih =>
    cases item with
    | char c => rw [segmentsAfter, ih]; simp
    | placeholder token =>
      have hrest := ih []
      rw [segmentsAfter, flatMap_itemsOf_flush, List.flatMap_cons, hrest]
      rfl

/-- The segments of a list of items stand for the items. -/
theorem flatMap_itemsOf_segmentsOf (items : List Item) :
    (segmentsOf items).flatMap itemsOf = items :=
  flatMap_itemsOf_segmentsAfter [] items

theorem normal_flush_nil (pending : List Char) : Segment.Normal (flush pending []) := by
  rw [flush]
  split
  · trivial
  · rename_i hpending
    simpa [Segment.Normal] using hpending

theorem normal_flush_placeholder (pending : List Char) {token : String} {rest : List Segment}
    (htoken : Segment.isTokenName token.toList = true) (hrest : Segment.Normal rest) :
    Segment.Normal (flush pending (.placeholder token :: rest)) := by
  rw [flush]
  split
  · exact ⟨htoken, hrest⟩
  · rename_i hpending
    exact ⟨by simpa using hpending, htoken, hrest⟩

theorem normal_segmentsAfter (pending : List Char) {items : List Item}
    (hnames : ∀ token, .placeholder token ∈ items → Segment.isTokenName token.toList = true) :
    Segment.Normal (segmentsAfter pending items) := by
  induction items generalizing pending with
  | nil => exact normal_flush_nil pending
  | cons item rest ih =>
    have hrest := fun pending ↦ ih pending fun token htoken ↦
      hnames token (List.mem_cons_of_mem _ htoken)
    cases item with
    | char c => exact hrest (c :: pending)
    | placeholder token =>
      exact normal_flush_placeholder pending (hnames token List.mem_cons_self) (hrest [])

/-- The segments of items with token names in their placeholders are normal. -/
theorem normal_segmentsOf {items : List Item}
    (hnames : ∀ token, .placeholder token ∈ items → Segment.isTokenName token.toList = true) :
    Segment.Normal (segmentsOf items) :=
  normal_segmentsAfter [] hnames

/-! ### Normal lists -/

theorem hasNames_cons {segment : Segment} {rest : List Segment} :
    HasNames (segment :: rest) ↔
      (∀ token, segment = .placeholder token → Segment.isTokenName token.toList = true) ∧
        HasNames rest := by
  simp only [HasNames, List.mem_cons, or_imp, forall_and]
  simp only [eq_comm]

theorem normal_cons_literal {text : String} {rest : List Segment} :
    Segment.Normal (.literal text :: rest) ↔
      text ≠ "" ∧ (∀ other, rest.head? ≠ some (.literal other)) ∧ Segment.Normal rest := by
  cases rest with
  | nil => simp [Segment.Normal]
  | cons segment rest => cases segment <;> simp [Segment.Normal]

/-- Two neighbours of a list are the first two, or neighbours behind the first. -/
theorem pair_infix_cons {α : Type} {first second head : α} {rest : List α} :
    [first, second] <:+: head :: rest ↔
      (first = head ∧ rest.head? = some second) ∨ [first, second] <:+: rest := by
  rw [List.infix_cons_iff, List.cons_prefix_cons]
  cases rest with
  | nil => simp
  | cons next rest => simp [List.cons_prefix_cons, eq_comm]

/-- A list of segments is normal exactly if no literal is empty, no two literals are neighbours, and
every placeholder has a token name. -/
theorem normal_iff {segments : List Segment} :
    Segment.Normal segments ↔ .literal "" ∉ segments ∧
      (∀ first second, ¬ [.literal first, .literal second] <:+: segments) ∧
        HasNames segments := by
  induction segments with
  | nil => simp [Segment.Normal, HasNames]
  | cons segment rest ih =>
    simp only [pair_infix_cons, hasNames_cons, List.mem_cons, not_or, forall_and]
    cases segment with
    | literal text =>
      have hneighbour : (∀ first second, ¬ (Segment.literal first = .literal text ∧
          rest.head? = some (.literal second))) ↔
          ∀ other, rest.head? ≠ some (.literal other) :=
        ⟨fun hpair other hother ↦ hpair text other ⟨rfl, hother⟩,
          fun hhead first second hpair ↦ hhead second hpair.2⟩
      rw [normal_cons_literal, ih, hneighbour]
      simp [and_assoc, and_left_comm]
    | placeholder token =>
      rw [Segment.Normal, ih]
      simp [and_left_comm]

/-! ### Templates -/

/-- A body is parsed into the normal list of segments that stands for what is read. -/
theorem parse_eq_ok_iff {name body : String} {template : Template} :
    parse name body = .ok template ↔ template.name = name ∧ Segment.Normal template.segments ∧
      Reads body.toList (template.segments.flatMap itemsOf) [] := by
  constructor
  · intro hparse
    rw [parse] at hparse
    cases hread : readItems .text 0 body.toList with
    | error fault => simp [hread] at hparse
    | ok items =>
      rw [hread] at hparse
      obtain rfl : ⟨name, segmentsOf items⟩ = template := Except.ok.inj hparse
      have hreads : Reads body.toList items [] := readItems_eq_ok_iff.mp hread
      refine ⟨rfl, normal_segmentsOf fun token htoken ↦ hreads.isTokenName htoken, ?_⟩
      rwa [flatMap_itemsOf_segmentsOf]
  · rintro ⟨rfl, hnormal, hreads⟩
    rw [parse, hreads.readItems_eq_ok]
    simp only [segmentsOf_itemsOf hnormal]

theorem utf8ByteSize_eq_byteLength (text : String) :
    text.utf8ByteSize = byteLength text.toList := by
  have hchars : ∀ cs : List Char, (String.ofList cs).utf8ByteSize = byteLength cs := by
    intro cs
    induction cs with
    | nil => rfl
    | cons c cs ih =>
      rw [String.ofList_cons, String.utf8ByteSize_append, String.utf8ByteSize_singleton, ih,
        byteLength_cons]
  rw [← hchars, String.ofList_toList]

/-- A body is refused exactly for the malformed placeholder that its reading gets to. -/
theorem parse_eq_error_iff {name body : String} {fault : Fault} :
    parse name body = .error fault ↔
      ∃ before text items reason, body = before ++ "$\x7b" ++ text ∧
        Reads body.toList items ("$\x7b" ++ text).toList ∧ Malformed text.toList reason ∧
          fault = .malformedTemplate name before.utf8ByteSize reason := by
  constructor
  · intro hparse
    rw [parse] at hparse
    cases hread : readItems .text 0 body.toList with
    | ok items => simp [hread] at hparse
    | error stop =>
      obtain ⟨place, reason⟩ := stop
      rw [hread] at hparse
      obtain ⟨before, text, items, hbody, hreads, hwrong, rfl⟩ := readItems_eq_error_iff.mp hread
      refine ⟨String.ofList before, String.ofList text, items, reason, ?_, ?_, ?_, ?_⟩
      · exact String.toList_inj.mp (by simpa using hbody)
      · simpa using hreads
      · simpa using hwrong
      · rw [utf8ByteSize_eq_byteLength, String.toList_ofList, ← Except.error.inj hparse,
          Nat.zero_add]
  · rintro ⟨before, text, items, reason, rfl, hreads, hwrong, rfl⟩
    have hread : readItems .text 0 (before ++ "$\x7b" ++ text).toList =
        .error (before.utf8ByteSize, reason) := by
      refine readItems_eq_error_iff.mpr ⟨before.toList, text.toList, items, by simp, ?_, hwrong, ?_⟩
      · simpa using hreads
      · rw [utf8ByteSize_eq_byteLength, Nat.zero_add]
    rw [parse, hread]

/-- Printing and parsing are inverse to each other on normal lists of segments, which hold no empty
literal, no two literals in a row and token names in their placeholders. What a normal list is
printed as is parsed into that list. Whatever a body is parsed into is normal, and is what its own
printed form is parsed into. -/
theorem parse_inverts_print :
    (∀ segments, Segment.Normal segments ↔ .literal "" ∉ segments ∧
      (∀ first second, ¬ [.literal first, .literal second] <:+: segments) ∧
        ∀ token, .placeholder token ∈ segments → Segment.isTokenName token.toList = true) ∧
    (∀ name segments, Segment.Normal segments →
      parse name (Segment.print segments) = .ok ⟨name, segments⟩) ∧
    (∀ name body template, parse name body = .ok template →
      template.name = name ∧ Segment.Normal template.segments ∧
        parse name (Segment.print template.segments) = .ok template) := by
  refine ⟨fun segments ↦ normal_iff, fun name segments ↦ parse_print name,
    fun name body template hparse ↦ ?_⟩
  obtain ⟨rfl, hnormal, -⟩ := parse_eq_ok_iff.mp hparse
  exact ⟨rfl, hnormal, parse_print template.name hnormal⟩

example :
    parse "t" (Segment.print [.literal "$\x7ba\x7d$", .placeholder "b", .literal "\x7d"]) =
      .ok ⟨"t", [.literal "$\x7ba\x7d$", .placeholder "b", .literal "\x7d"]⟩ := by
  rfl

/-! ### Faults -/

/-- A placeholder is malformed without a closing brace behind it, or for a text before the next
closing brace that is no token name. -/
theorem malformed_iff {text : String} {reason : Malformation} :
    Malformed text.toList reason ↔
      ('}' ∉ text.toList ∧ reason = .unterminated) ∨
        ∃ token rest, text = token ++ "\x7d" ++ rest ∧ '}' ∉ token.toList ∧
          Segment.isTokenName token.toList = false ∧ reason = .invalidName token := by
  constructor
  · intro hwrong
    generalize hchars : text.toList = chars at hwrong
    cases hwrong with
    | unterminated hopen => exact .inl ⟨hopen, rfl⟩
    | @invalidName token rest hclose hname =>
      refine .inr ⟨String.ofList token, String.ofList rest, ?_, ?_, ?_, rfl⟩
      · exact String.toList_inj.mp (by simpa using hchars)
      · rwa [String.toList_ofList]
      · rwa [String.toList_ofList]
  · rintro (⟨hopen, rfl⟩ | ⟨token, rest, rfl, hclose, hname, rfl⟩)
    · exact .unterminated hopen
    · have hwrong : Malformed (token.toList ++ '}' :: rest.toList) _ := .invalidName hclose hname
      rw [String.ofList_toList] at hwrong
      simpa using hwrong

/-- Where the first of three texts ends, the bytes of the second begin. -/
theorem extract_toUTF8_append (before mark after : String) :
    (before ++ mark ++ after).toUTF8.extract before.utf8ByteSize
      (before.utf8ByteSize + mark.utf8ByteSize) = mark.toUTF8 := by
  have hbytes : (before ++ mark ++ after).toUTF8 =
      before.toUTF8 ++ (mark.toUTF8 ++ after.toUTF8) := by
    simp only [String.toUTF8, String.toByteArray_append, ByteArray.append_assoc]
  rw [hbytes]
  have hwithin := ByteArray.extract_append_size_add (a := before.toUTF8)
    (b := mark.toUTF8 ++ after.toUTF8) (i := 0) (j := mark.utf8ByteSize)
  rw [Nat.add_zero] at hwithin
  exact hwithin.trans (ByteArray.extract_append_eq_left rfl)

/-- Parsing follows the grammar of bodies. A body has one reading at most. It is parsed exactly if
its reading gets to the end, into the normal segments that stand for what was read; and it is
refused exactly if its reading gets to a malformed placeholder, with the number of bytes before the
dollar of the placeholder, where the body does hold the dollar and the brace. What is before them
can be parsed. The reason is that no closing brace follows, or else the text up to the next one,
which is no token name. -/
theorem parse_follows_reading (name body : String) :
    (∀ items others, Reads body.toList items [] → Reads body.toList others [] → items = others) ∧
    (∀ template, parse name body = .ok template ↔
      template.name = name ∧ Segment.Normal template.segments ∧
        Reads body.toList (template.segments.flatMap itemsOf) []) ∧
    (∀ fault, parse name body = .error fault ↔
      ∃ before text items reason, body = before ++ "$\x7b" ++ text ∧
        Reads body.toList items ("$\x7b" ++ text).toList ∧ Malformed text.toList reason ∧
          fault = .malformedTemplate name before.utf8ByteSize reason) ∧
    (∀ before text items, body = before ++ "$\x7b" ++ text →
      Reads body.toList items ("$\x7b" ++ text).toList →
        body.toUTF8.extract before.utf8ByteSize (before.utf8ByteSize + 2) = "$\x7b".toUTF8 ∧
        ∃ template, parse name before = .ok template ∧
          template.segments.flatMap itemsOf = items) ∧
    (∀ (text : String) reason, Malformed text.toList reason ↔
      ('}' ∉ text.toList ∧ reason = .unterminated) ∨
        ∃ token rest, text = token ++ "\x7d" ++ rest ∧ '}' ∉ token.toList ∧
          Segment.isTokenName token.toList = false ∧ reason = .invalidName token) ∧
    Malformation.unterminated.message = "unterminated placeholder" ∧
    (∀ text, (Malformation.invalidName text).message = "invalid token name '" ++ text ++ "'") := by
  refine ⟨fun items others hitems hothers ↦ ?_, fun template ↦ parse_eq_ok_iff,
    fun fault ↦ parse_eq_error_iff, fun before text items hbody hreads ↦ ⟨?_, ?_⟩,
    fun text reason ↦ malformed_iff, rfl, fun text ↦ rfl⟩
  · have hread := hitems.readItems_eq_ok 0
    rw [hothers.readItems_eq_ok] at hread
    exact (Except.ok.inj hread).symm
  · rw [hbody]
    exact extract_toUTF8_append before "$\x7b" text
  · obtain ⟨chars, hchars, hbefore⟩ := hreads.exists_before
    have hsame : before.toList ++ ("$\x7b" ++ text).toList = chars ++ ("$\x7b" ++ text).toList := by
      rw [← hchars, hbody]
      simp
    rw [← List.append_cancel_right hsame] at hbefore
    refine ⟨⟨name, segmentsOf items⟩, parse_eq_ok_iff.mpr ⟨rfl, ?_, ?_⟩,
      flatMap_itemsOf_segmentsOf items⟩
    · exact normal_segmentsOf fun token htoken ↦ hbefore.isTokenName htoken
    · rwa [flatMap_itemsOf_segmentsOf]

end Scaffold.Template

import Scaffold.Proofs.Template.Printing

/-!
# The grammar of template bodies

`Reads` is the grammar of bodies, without a place and without an offset: reading a body from left to
right passes items and gets to a rest. `Malformed` says what is wrong with a placeholder, read off
the text behind its opening brace. Every body can be read to its end or up to one malformed
placeholder (`reads_or_malformed`).

The reader follows the grammar. What was passed is what it has read, and it goes on with the rest
at the byte offset where the rest begins (`Reads.readItems_eq`). So it succeeds exactly on what can
be read to the end (`readItems_eq_ok_iff`), and fails with the offset and the reason of the
malformed placeholder that stands in the way (`readItems_eq_error_iff`).
-/

set_option autoImplicit false

namespace Scaffold.Template

/-- Reading a body from left to right passes the items and gets to a rest. Two dollars are one, a
dollar with an opening brace begins a placeholder that extends to the next closing brace, and every
other character is itself, also a dollar that neither a dollar nor an opening brace follows. -/
inductive Reads : (body : List Char) → List Item → (rest : List Char) → Prop
  | stop (rest : List Char) : Reads rest [] rest
  | char {c : Char} {body rest : List Char} {items : List Item} (hc : c ≠ '$')
      (hbody : Reads body items rest) : Reads (c :: body) (.char c :: items) rest
  | bare {body rest : List Char} {items : List Item} (hdollar : body.head? ≠ some '$')
      (hbrace : body.head? ≠ some '{') (hbody : Reads body items rest) :
      Reads ('$' :: body) (.char '$' :: items) rest
  | doubled {body rest : List Char} {items : List Item} (hbody : Reads body items rest) :
      Reads ('$' :: '$' :: body) (.char '$' :: items) rest
  | placeholder {name body rest : List Char} {items : List Item} (hclose : '}' ∉ name)
      (hname : Segment.isTokenName name = true) (hbody : Reads body items rest) :
      Reads ('$' :: '{' :: (name ++ '}' :: body)) (.placeholder (String.ofList name) :: items) rest

/-- What is wrong with a placeholder that has this text behind its opening brace. -/
inductive Malformed : (text : List Char) → Malformation → Prop
  | unterminated {text : List Char} (hopen : '}' ∉ text) : Malformed text .unterminated
  | invalidName {name rest : List Char} (hclose : '}' ∉ name)
      (hname : Segment.isTokenName name = false) :
      Malformed (name ++ '}' :: rest) (.invalidName (String.ofList name))

/-! ### Bodies -/

namespace Reads

variable {body rest : List Char} {items : List Item}

/-- What can be read from where a reading has got to is read behind it. -/
theorem trans {later : List Char} {others : List Item} (hreads : Reads body items rest)
    (hrest : Reads rest others later) : Reads body (items ++ others) later := by
  induction hreads with
  | stop rest => exact hrest
  | char hc hbody ih => exact .char hc (ih hrest)
  | bare hdollar hbrace hbody ih => exact .bare hdollar hbrace (ih hrest)
  | doubled hbody ih => exact .doubled (ih hrest)
  | placeholder hclose hname hbody ih => exact .placeholder hclose hname (ih hrest)

/-- What lies before the rest can be read on its own. -/
theorem exists_before (hreads : Reads body items rest) :
    ∃ before, body = before ++ rest ∧ Reads before items [] := by
  induction hreads with
  | stop rest => exact ⟨[], rfl, .stop []⟩
  | @char c body rest items hc hbody ih =>
    obtain ⟨before, rfl, hbefore⟩ := ih
    exact ⟨c :: before, rfl, .char hc hbefore⟩
  | @bare body rest items hdollar hbrace hbody ih =>
    obtain ⟨before, rfl, hbefore⟩ := ih
    -- Behind this dollar the body before the rest ends, or goes on as the whole body does.
    have hhead : ∀ c, (before ++ rest).head? ≠ some c → before.head? ≠ some c := by
      intro c hne hhead
      rw [List.head?_append, hhead] at hne
      exact hne rfl
    exact ⟨'$' :: before, rfl, .bare (hhead _ hdollar) (hhead _ hbrace) hbefore⟩
  | @doubled body rest items hbody ih =>
    obtain ⟨before, rfl, hbefore⟩ := ih
    exact ⟨'$' :: '$' :: before, rfl, .doubled hbefore⟩
  | @placeholder name body rest items hclose hname hbody ih =>
    obtain ⟨before, rfl, hbefore⟩ := ih
    refine ⟨'$' :: '{' :: (name ++ '}' :: before), by simp, ?_⟩
    exact .placeholder hclose hname hbefore

/-- The placeholders that are passed have token names. -/
theorem isTokenName (hreads : Reads body items rest) {token : String}
    (htoken : .placeholder token ∈ items) : Segment.isTokenName token.toList = true := by
  induction hreads with
  | stop rest => simp at htoken
  | char hc hbody ih => exact ih (by simpa using htoken)
  | bare hdollar hbrace hbody ih => exact ih (by simpa using htoken)
  | doubled hbody ih => exact ih (by simpa using htoken)
  | @placeholder name body rest items hclose hname hbody ih =>
    rcases List.mem_cons.mp htoken with heq | hlater
    · rw [Item.placeholder.inj heq, String.toList_ofList]
      exact hname
    · exact ih hlater

end Reads

/-- A body that does not end begins with a piece that can be read, or with a malformed
placeholder. -/
theorem exists_first {body : List Char} (hbody : body ≠ []) :
    (∃ item later, later.length < body.length ∧ Reads body [item] later) ∨
      ∃ text reason, body = '$' :: '{' :: text ∧ Malformed text reason := by
  obtain ⟨c, later, rfl⟩ := List.exists_cons_of_ne_nil hbody
  by_cases hc : c = '$'
  case neg => exact .inl ⟨.char c, later, by simp, .char hc (.stop later)⟩
  subst hc
  cases later with
  | nil => exact .inl ⟨.char '$', [], by simp, .bare (by simp) (by simp) (.stop [])⟩
  | cons next text =>
    by_cases hdollar : next = '$'
    · subst hdollar
      have hshorter : text.length < ('$' :: '$' :: text).length := by
        simp only [List.length_cons]
        omega
      exact .inl ⟨.char '$', text, hshorter, .doubled (.stop text)⟩
    by_cases hbrace : next = '{'
    case neg =>
      refine .inl ⟨.char '$', next :: text, by simp, .bare ?_ ?_ (.stop _)⟩
      · simpa using hdollar
      · simpa using hbrace
    subst hbrace
    by_cases hclosed : '}' ∈ text
    case neg => exact .inr ⟨text, .unterminated, rfl, .unterminated hclosed⟩
    obtain ⟨name, later, rfl, hclose⟩ := List.eq_append_cons_of_mem hclosed
    cases hname : Segment.isTokenName name with
    | true =>
      have hshorter : later.length < ('$' :: '{' :: (name ++ '}' :: later)).length := by
        simp only [List.length_cons, List.length_append]
        omega
      exact .inl ⟨_, later, hshorter, .placeholder hclose hname (.stop later)⟩
    | false => exact .inr ⟨_, _, rfl, .invalidName hclose hname⟩

/-- A body can be read to its end, or up to a malformed placeholder. -/
theorem reads_or_malformed (body : List Char) :
    (∃ items, Reads body items []) ∨
      ∃ items text reason, Reads body items ('$' :: '{' :: text) ∧ Malformed text reason := by
  -- A placeholder takes a whole stretch of the body, so the induction is on the length.
  induction hlength : body.length using Nat.strongRecOn generalizing body with
  | ind length ih =>
    subst hlength
    by_cases hbody : body = []
    · exact .inl ⟨[], hbody ▸ .stop []⟩
    rcases exists_first hbody with ⟨item, later, hshorter, hfirst⟩ | ⟨text, reason, rfl, hwrong⟩
    · rcases ih _ hshorter later rfl with ⟨items, hreads⟩ | ⟨items, text, reason, hreads, hwrong⟩
      · exact .inl ⟨_, hfirst.trans hreads⟩
      · exact .inr ⟨_, text, reason, hfirst.trans hreads, hwrong⟩
    · exact .inr ⟨[], text, reason, .stop _, hwrong⟩

/-! ### The reader -/

theorem map_cons_map_append {ε α : Type} (first : α) (items : List α)
    (outcome : Except ε (List α)) :
    (outcome.map (items ++ ·)).map (first :: ·) = outcome.map (first :: items ++ ·) :=
  map_map_append [first] items outcome

/-- The reader goes on where the grammar has got to, with the items that were passed. -/
theorem Reads.readItems_eq {body rest : List Char} {items : List Item}
    (hreads : Reads body items rest) {offset later : Nat}
    (hlater : offset + byteLength body = later + byteLength rest) :
    readItems .text offset body = (readItems .text later rest).map (items ++ ·) := by
  induction hreads generalizing offset with
  | stop rest =>
    obtain rfl : offset = later := by omega
    exact (map_append_nil _).symm
  | @char c body rest items hc hbody ih =>
    rw [byteLength_cons] at hlater
    rw [readItems, if_neg hc, ih (by omega), map_cons_map_append]
  | @bare body rest items hdollar hbrace hbody ih =>
    rw [byteLength_cons] at hlater
    -- The reader takes the character behind a bare dollar along with it.
    have hreader : readItems .text offset ('$' :: body) =
        (readItems .text (offset + '$'.utf8Size) body).map (.char '$' :: ·) := by
      rw [readItems, if_pos rfl]
      cases body with
      | nil => rfl
      | cons c body =>
        have hc : c ≠ '$' := fun heq ↦ hdollar (by rw [heq]; rfl)
        have hcb : c ≠ '{' := fun heq ↦ hbrace (by rw [heq]; rfl)
        rw [readItems, if_neg hc, readItems, if_neg hc, if_neg hcb]
        exact (map_map_append [Item.char '$'] [Item.char c] _).symm
    rw [hreader, ih (by omega), map_cons_map_append]
  | @doubled body rest items hbody ih =>
    rw [byteLength_cons, byteLength_cons] at hlater
    rw [readItems, if_pos rfl, readItems, if_pos rfl, ih (by omega), map_cons_map_append]
  | @placeholder name body rest items hclose hname hbody ih =>
    simp only [byteLength_cons, byteLength_append] at hlater
    rw [readItems, if_pos rfl, readItems, if_neg (by decide), if_pos rfl, readItems_name hclose,
      List.reverse_nil, List.nil_append, if_pos hname, ih, map_cons_map_append]
    simp only [byteLength_cons, byteLength_append, byteLength_nil]
    omega

/-- A name without a closing brace behind it is not terminated. -/
theorem readItems_name_of_not_mem {text : List Char} (hopen : '}' ∉ text) (start : Nat)
    (reversed : List Char) (offset : Nat) :
    readItems (.name start reversed) offset text = .error (start, .unterminated) := by
  induction text generalizing reversed offset with
  | nil => rfl
  | cons c text ih =>
    have hc : c ≠ '}' := fun heq ↦ hopen (heq ▸ List.mem_cons_self)
    have htext : '}' ∉ text := fun hmem ↦ hopen (List.mem_cons_of_mem _ hmem)
    rw [readItems, if_neg hc, ih htext]

/-- The reader stops at a malformed placeholder with the offset of its dollar. -/
theorem Malformed.readItems_eq {text : List Char} {reason : Malformation}
    (hwrong : Malformed text reason) (offset : Nat) :
    readItems .text offset ('$' :: '{' :: text) = .error (offset, reason) := by
  rw [readItems, if_pos rfl, readItems, if_neg (by decide), if_pos rfl]
  cases hwrong with
  | unterminated hopen => exact readItems_name_of_not_mem hopen offset [] _
  | @invalidName name rest hclose hname =>
    rw [readItems_name hclose, List.reverse_nil, List.nil_append, if_neg (by simp [hname])]

theorem Reads.readItems_eq_ok {body : List Char} {items : List Item} (hreads : Reads body items [])
    (offset : Nat) : readItems .text offset body = .ok items := by
  rw [hreads.readItems_eq (Nat.add_zero _).symm, readItems]
  exact congrArg Except.ok (List.append_nil items)

theorem Reads.readItems_eq_error {before text : List Char} {items : List Item}
    {reason : Malformation}
    (hreads : Reads (before ++ '$' :: '{' :: text) items ('$' :: '{' :: text))
    (hwrong : Malformed text reason) (offset : Nat) :
    readItems .text offset (before ++ '$' :: '{' :: text) =
      .error (offset + byteLength before, reason) := by
  have hlater : offset + byteLength (before ++ '$' :: '{' :: text) =
      offset + byteLength before + byteLength ('$' :: '{' :: text) := by
    rw [byteLength_append, Nat.add_assoc]
  rw [hreads.readItems_eq hlater, hwrong.readItems_eq]
  rfl

/-- The reader succeeds exactly with the items of a body that can be read to its end. -/
theorem readItems_eq_ok_iff {body : List Char} {items : List Item} {offset : Nat} :
    readItems .text offset body = .ok items ↔ Reads body items [] := by
  refine ⟨fun hok ↦ ?_, fun hreads ↦ hreads.readItems_eq_ok offset⟩
  rcases reads_or_malformed body with ⟨others, hreads⟩ | ⟨passed, text, reason, hreads, hwrong⟩
  · rw [hreads.readItems_eq_ok] at hok
    rwa [← Except.ok.inj hok]
  · obtain ⟨before, rfl, -⟩ := hreads.exists_before
    rw [hreads.readItems_eq_error hwrong] at hok
    cases hok

/-- The reader fails exactly at a malformed placeholder that the reading gets to, with the number of
bytes before it. -/
theorem readItems_eq_error_iff {body : List Char} {offset place : Nat} {reason : Malformation} :
    readItems .text offset body = .error (place, reason) ↔
      ∃ before text items, body = before ++ '$' :: '{' :: text ∧
        Reads body items ('$' :: '{' :: text) ∧ Malformed text reason ∧
          place = offset + byteLength before := by
  constructor
  · intro herror
    rcases reads_or_malformed body with ⟨items, hreads⟩ | ⟨items, text, other, hreads, hwrong⟩
    · rw [hreads.readItems_eq_ok] at herror
      cases herror
    · obtain ⟨before, rfl, -⟩ := hreads.exists_before
      rw [hreads.readItems_eq_error hwrong] at herror
      obtain ⟨rfl, rfl⟩ := Prod.mk.inj (Except.error.inj herror)
      exact ⟨before, text, items, rfl, hreads, hwrong, rfl⟩
  · rintro ⟨before, text, items, rfl, hreads, hwrong, rfl⟩
    exact hreads.readItems_eq_error hwrong offset

end Scaffold.Template

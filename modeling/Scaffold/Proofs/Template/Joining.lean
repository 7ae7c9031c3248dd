import Mathlib.Data.List.Forall2
import Scaffold.Proofs.Template.Parsing
import Scaffold.Proofs.Template.Rendering

/-!
# Joined bodies

A body that can be read to its end is read in the same way in front of any other body, unless its
last dollar stood for itself only because nothing followed (`Reads.append`, `EndsBare`). So what is
wrong behind it is wrong with the whole, further on by the bytes of the body
(`parse_append_of_error`), and where nothing is wrong the whole is what the segments of both are
printed and parsed to (`parse_append_of_ok`). Literals that meet become one literal, which changes
neither the tokens nor the text (`tokens_printed`, `join_map_printed`), so the whole is rendered to
the text of the one part and behind it that of the other (`render_printed_append`).
-/

set_option autoImplicit false

namespace Scaffold.Template

/-- The reading of a body ends with a dollar that is itself because nothing follows it. -/
def EndsBare (body : List Char) : Prop :=
  ∃ items, Reads body items ['$']

/-- A body that does not end in a dollar does not end in a bare one. -/
theorem not_endsBare_of_getLast? {body : List Char} (hlast : body.getLast? ≠ some '$') :
    ¬ EndsBare body := by
  rintro ⟨items, hreads⟩
  obtain ⟨before, rfl, -⟩ := hreads.exists_before
  exact hlast List.getLast?_concat

/-- A body without a bare dollar at its end is read in the same way in front of any other body. -/
theorem Reads.append {body : List Char} {items : List Item} (hreads : Reads body items [])
    (hends : ¬ EndsBare body) (later : List Char) : Reads (body ++ later) items later := by
  generalize hrest : ([] : List Char) = rest at hreads
  induction hreads with
  | stop rest =>
    subst hrest
    exact .stop later
  | @char c body rest items hc hbody ih =>
    exact .char hc (ih (fun ⟨others, hothers⟩ ↦ hends ⟨_, .char hc hothers⟩) hrest)
  | @bare body rest items hdollar hbrace hbody ih =>
    -- What follows this dollar is not empty, so it begins as it did.
    have hsame : (body ++ later).head? = body.head? := by
      cases body with
      | nil => exact absurd ⟨[], .stop _⟩ hends
      | cons c body => rfl
    refine .bare (hsame ▸ hdollar) (hsame ▸ hbrace) (ih (fun ⟨others, hothers⟩ ↦ ?_) hrest)
    exact hends ⟨_, .bare hdollar hbrace hothers⟩
  | @doubled body rest items hbody ih =>
    exact .doubled (ih (fun ⟨others, hothers⟩ ↦ hends ⟨_, .doubled hothers⟩) hrest)
  | @placeholder name body rest items hclose hname hbody ih =>
    rw [List.cons_append, List.cons_append, List.append_assoc, List.cons_append]
    exact .placeholder hclose hname
      (ih (fun ⟨others, hothers⟩ ↦ hends ⟨_, .placeholder hclose hname hothers⟩) hrest)

/-! ### Parsing -/

section Parsing

variable {name body other later : String} {first : Template}

/-- What can be parsed on its own is parsed behind a body, and the segments of both are joined. -/
theorem parse_append_of_ok (hfirst : parse name body = .ok first)
    (hends : ¬ EndsBare body.toList) {second : Template} (hsecond : parse other later = .ok second)
    (whole : String) :
    parse whole (body ++ later) = .ok (printed whole (first.segments ++ second.segments)) := by
  obtain ⟨-, -, hbody⟩ := parse_eq_ok_iff.mp hfirst
  obtain ⟨-, -, hlater⟩ := parse_eq_ok_iff.mp hsecond
  have hreads := (hbody.append hends later.toList).trans hlater
  rw [← String.toList_append, ← List.flatMap_append] at hreads
  rw [parse, hreads.readItems_eq_ok, printed]

/-- What is malformed is malformed behind a body, further on by the bytes of the body. -/
theorem parse_append_of_error (hfirst : parse name body = .ok first)
    (hends : ¬ EndsBare body.toList) {fault : Fault} (hfault : parse other later = .error fault)
    (whole : String) :
    ∃ offset reason, fault = .malformedTemplate other offset reason ∧
      parse whole (body ++ later) =
        .error (.malformedTemplate whole (body.utf8ByteSize + offset) reason) := by
  obtain ⟨-, -, hbody⟩ := parse_eq_ok_iff.mp hfirst
  obtain ⟨before, text, items, reason, rfl, hlater, hwrong, rfl⟩ := parse_eq_error_iff.mp hfault
  have hreads := (hbody.append hends _).trans hlater
  rw [← String.toList_append] at hreads
  refine ⟨before.utf8ByteSize, reason, rfl, parse_eq_error_iff.mpr
    ⟨body ++ before, text, _, reason, ?_, hreads, hwrong, ?_⟩⟩
  · simp only [String.append_assoc]
  · rw [String.utf8ByteSize_append]

/-- Behind a body exactly that can be parsed which can be parsed on its own. -/
theorem exists_parse_append_iff (hfirst : parse name body = .ok first)
    (hends : ¬ EndsBare body.toList) (whole : String) :
    (∃ template, parse whole (body ++ later) = .ok template) ↔
      ∃ template, parse other later = .ok template := by
  cases hlater : parse other later with
  | ok second =>
    exact iff_of_true ⟨_, parse_append_of_ok hfirst hends hlater whole⟩ ⟨second, rfl⟩
  | error fault =>
    obtain ⟨offset, reason, -, hwhole⟩ := parse_append_of_error hfirst hends hlater whole
    simp [hwhole]

/-- The body is parsed into the template, and does not end in a bare dollar. -/
def IsJoinable (body : String) (template : Template) : Prop :=
  parse template.name body = .ok template ∧ ¬ EndsBare body.toList

/-- What the segments behind others are parsed to may stand in their place. -/
theorem printed_append_printed (name other : String) (segments later : List Segment) :
    printed name (segments ++ (printed other later).segments) =
      printed name (segments ++ later) := by
  simp only [printed, List.flatMap_append, flatMap_itemsOf_segmentsOf]

/-- Several bodies, one behind the other, are parsed into what their segments are parsed to. -/
theorem parse_join {bodies : List String} {templates : List Template}
    (hjoinable : List.Forall₂ IsJoinable bodies templates) (whole : String) :
    parse whole (String.join bodies) =
      .ok (printed whole (templates.flatMap Template.segments)) := by
  induction hjoinable with
  | nil => rfl
  | cons hfirst hrest ih =>
    rw [String.join_cons, parse_append_of_ok hfirst.1 hfirst.2 ih, printed_append_printed,
      List.flatMap_cons]

end Parsing

/-! ### Rendering -/

section Rendering

variable {text : Segment → String}

theorem join_map_flush (htext : ∀ written, text (.literal written) = written)
    (pending : List Char) (segments : List Segment) :
    String.join ((flush pending segments).map text) =
      String.ofList pending.reverse ++ String.join (segments.map text) := by
  rw [flush]
  split
  · rename_i hempty
    simp [hempty]
  · simp [htext]

theorem join_map_segmentsAfter (htext : ∀ written, text (.literal written) = written)
    (pending : List Char) (segments : List Segment) :
    String.join ((segmentsAfter pending (segments.flatMap itemsOf)).map text) =
      String.ofList pending.reverse ++ String.join (segments.map text) := by
  induction segments generalizing pending with
  | nil => exact join_map_flush htext pending []
  | cons segment rest ih =>
    rw [List.flatMap_cons]
    cases segment with
    | literal written =>
      rw [itemsOf, segmentsAfter_map_char, ih]
      simp [htext, String.append_assoc]
    | placeholder token =>
      have hrest := ih []
      rw [itemsOf, List.singleton_append, segmentsAfter, join_map_flush htext, List.map_cons,
        String.join_cons, hrest]
      simp

/-- Joining characters into literals keeps the text, as long as literals are copied. -/
theorem join_map_printed (htext : ∀ written, text (.literal written) = written) (name : String)
    (segments : List Segment) :
    String.join ((printed name segments).segments.map text) = String.join (segments.map text) := by
  rw [printed, segmentsOf, join_map_segmentsAfter htext]
  simp

/-- What a list of segments is parsed to is rendered as the list is. -/
theorem renderSegments_printed (table : TokenTable) (name : String) (segments : List Segment) :
    renderSegments table (printed name segments).segments = renderSegments table segments := by
  have htokens : (printed name segments).segments.filterMap Segment.token? =
      segments.filterMap Segment.token? := tokens_printed name segments
  have htext : ∀ written, textOf table (.literal written) = written := fun _ ↦ rfl
  rw [renderSegments_eq, renderSegments_eq, htokens, join_map_printed htext]

/-- Joined templates are rendered exactly if both are, to the one text behind the other. -/
theorem render_printed_append (name : String) (first second : Template) (table : TokenTable)
    (text : String) :
    (printed name (first.segments ++ second.segments)).render table = .ok text ↔
      ∃ before after, first.render table = .ok before ∧ second.render table = .ok after ∧
        before ++ after = text := by
  simp only [render_eq_ok_iff, renderSegments_printed, renderSegments_append]
  cases renderSegments table first.segments with
  | error token => simp [Except.bind]
  | ok before => cases renderSegments table second.segments <;> simp [Except.bind, Except.map]

end Rendering

end Scaffold.Template

import Mathlib.Data.List.Forall2
import Scaffold.Proofs.Template.Rendering

/-!
# Substitution is whole or fails

A template is rendered to a text exactly if a piece of text stands for each of its segments, a
literal for itself and a value, copied as it is, for the placeholder of its token; the text is these
pieces in order (`StandsFor`, `renderSegments_eq_ok_iff`). Otherwise the first placeholder without a
value is the error (`render_eq_error_iff`). Read as two passes (`renderSegments_eq`), rendering
looks for absent tokens first and then substitutes, and the second pass never meets a token that the
first has not found (`forall₂_standsFor_iff`).

Pieces still stand for their segments when tokens are added (`render_mono`). A table completed for a
template has a value for every placeholder, so the template is rendered over it and over every table
that extends it, to the same text (`render_substitutes_all`).
-/

set_option autoImplicit false

namespace Scaffold.Template

variable {table other : TokenTable}

/-- A piece of text stands for a segment: a literal for itself, a value for the placeholder of its
token. -/
inductive StandsFor (table : TokenTable) : Segment → String → Prop
  | literal (text : String) : StandsFor table (.literal text) text
  | placeholder {token value : String} (hvalue : table.find? token = some value) :
    StandsFor table (.placeholder token) value

theorem standsFor_iff {segment : Segment} {piece : String} :
    StandsFor table segment piece ↔
      (∀ token, segment.token? = some token → ∃ value, table.find? token = some value) ∧
        textOf table segment = piece := by
  constructor
  · intro hpiece
    cases hpiece with
    | literal text => simp [Segment.token?, textOf]
    | placeholder hvalue => simp [Segment.token?, textOf, hvalue]
  · rintro ⟨hvalues, rfl⟩
    cases segment with
    | literal text => exact .literal text
    | placeholder token =>
      obtain ⟨value, hvalue⟩ := hvalues token rfl
      rw [textOf, hvalue]
      exact .placeholder hvalue

/-- Pieces stand for segments exactly if every token has a value and they are the texts of the
segments. -/
theorem forall₂_standsFor_iff {segments : List Segment} {pieces : List String} :
    List.Forall₂ (StandsFor table) segments pieces ↔
      (∀ token ∈ segments.filterMap Segment.token?, ∃ value, table.find? token = some value) ∧
        segments.map (textOf table) = pieces := by
  have hstands : StandsFor table = fun segment piece ↦
      (∀ token, segment.token? = some token → ∃ value, table.find? token = some value) ∧
        textOf table segment = piece :=
    funext₂ fun _ _ ↦ propext standsFor_iff
  have htexts : List.Forall₂ (fun segment piece ↦ textOf table segment = piece) segments pieces ↔
      segments.map (textOf table) = pieces := by
    rw [← List.forall₂_map_left_iff (R := Eq), List.forall₂_eq_eq_eq]
  rw [hstands, List.forall₂_and_left, htexts]
  refine and_congr_left fun _ ↦ ⟨fun hvalues token htoken ↦ ?_, fun hvalues segment hsegment ↦ ?_⟩
  · obtain ⟨segment, hsegment, htoken⟩ := List.mem_filterMap.mp htoken
    exact hvalues segment hsegment token htoken
  · intro token htoken
    exact hvalues token (List.mem_filterMap.mpr ⟨segment, hsegment, htoken⟩)

/-- Segments are rendered to what stands for them, in order, and only then to a text. -/
theorem renderSegments_eq_ok_iff {segments : List Segment} {text : String} :
    renderSegments table segments = .ok text ↔
      ∃ pieces, List.Forall₂ (StandsFor table) segments pieces ∧ String.join pieces = text := by
  simp only [forall₂_standsFor_iff, renderSegments_eq, ← firstAbsent?_eq_none_iff]
  cases firstAbsent? table (segments.filterMap Segment.token?) <;> simp

theorem exists_render_iff {template : Template} :
    (∃ text, template.render table = .ok text) ↔
      ∀ token ∈ template.placeholders, table.contains token = true := by
  have hcontains : ∀ token, table.contains token = true ↔ ∃ value, table.find? token = some value :=
    fun token ↦ Option.isSome_iff_exists
  simp only [render_eq_ok_iff, renderSegments_eq_ok_iff, forall₂_standsFor_iff, mem_placeholders,
    hcontains]
  constructor
  · rintro ⟨_, _, ⟨hvalues, -⟩, -⟩
    exact hvalues
  · intro hvalues
    exact ⟨_, _, ⟨hvalues, rfl⟩, rfl⟩

/-- Added tokens change no rendered text. -/
theorem render_mono {template : Template} {text : String}
    (hmore : ∀ token value, table.find? token = some value → other.find? token = some value)
    (htext : template.render table = .ok text) : template.render other = .ok text := by
  rw [render_eq_ok_iff, renderSegments_eq_ok_iff] at htext ⊢
  obtain ⟨pieces, hpieces, hjoin⟩ := htext
  refine ⟨pieces, hpieces.imp fun segment piece hpiece ↦ ?_, hjoin⟩
  cases hpiece with
  | literal => exact .literal piece
  | placeholder hvalue => exact .placeholder (hmore _ _ hvalue)

/-! ### Completed tables -/

theorem exists_resolveTemplate_iff {base : TokenTable} {template : Template} :
    (∃ resolved, template.resolveTemplate base = .ok resolved) ↔
      ∀ token ∈ template.placeholders, Token.canResolve base token = true := by
  simp only [resolveTemplate, Token.resolve_eq_ok_iff, Token.canResolve_iff]
  constructor
  · rintro ⟨_, hmeanings, -⟩
    exact hmeanings
  · intro hmeanings
    exact ⟨_, hmeanings, rfl⟩

/-- A completed table has a value for every placeholder. -/
theorem exists_render_of_resolveTemplate {base resolved : TokenTable} {template : Template}
    (hresolved : template.resolveTemplate base = .ok resolved) :
    ∃ text, template.render resolved = .ok text := by
  refine exists_render_iff.mpr fun token htoken ↦ ?_
  obtain ⟨hmeanings, rfl⟩ := Token.resolve_eq_ok_iff.mp hresolved
  obtain ⟨value, hvalue⟩ := hmeanings token htoken
  rw [Table.contains, Token.find?_extension, if_pos htoken, hvalue, Option.isSome_some]

/-- Rendering substitutes everything or nothing, and resolution makes it total. A template is
rendered exactly if the table has all its placeholders, to the pieces that stand for its segments in
order; otherwise the first absent placeholder in text order is the error, with the name of the
template. A template has a completed table exactly if each placeholder can be resolved, and is
rendered over that table and all that agree with it on its tokens to the same text. -/
theorem render_substitutes_all (template : Template) :
    (∀ table : TokenTable,
      ((∃ text, template.render table = .ok text) ↔
        ∀ token ∈ template.placeholders, table.contains token = true) ∧
      (∀ fault, template.render table = .error fault ↔
        ∃ token, firstAbsent? table template.tokens = some token ∧
          fault = .unresolvedToken token template.name) ∧
      ∀ text, template.render table = .ok text ↔
        ∃ pieces, List.Forall₂ (StandsFor table) template.segments pieces ∧
          String.join pieces = text) ∧
    ∀ base : TokenTable,
      ((∃ resolved, template.resolveTemplate base = .ok resolved) ↔
        ∀ token ∈ template.placeholders, Token.canResolve base token = true) ∧
      ∀ resolved, template.resolveTemplate base = .ok resolved →
        ∃ text, template.render resolved = .ok text ∧
          ∀ table : TokenTable,
            (∀ token value, resolved.find? token = some value → table.find? token = some value) →
            template.render table = .ok text := by
  refine ⟨fun table ↦ ⟨exists_render_iff, fun fault ↦ render_eq_error_iff, fun text ↦ ?_⟩,
    fun base ↦ ⟨exists_resolveTemplate_iff, fun resolved hresolved ↦ ?_⟩⟩
  · rw [render_eq_ok_iff, renderSegments_eq_ok_iff]
  · obtain ⟨text, htext⟩ := exists_render_of_resolveTemplate hresolved
    exact ⟨text, htext, fun table hmore ↦ render_mono hmore htext⟩

/-- A value is not read as a template again. -/
example :
    (Template.mk "t" [.placeholder "a"]).render
        (Table.ofList [("a", "$\x7bb\x7d"), ("b", "other")]) = .ok "$\x7bb\x7d" := by
  decide +kernel

end Scaffold.Template

import Scaffold.Proofs.Token.Resolution
import Scaffold.Template.Render

/-!
# What rendering gives

`renderSegments` substitutes every placeholder or names the first one, in text order, that the table
has no value for (`renderSegments_eq`, `render_eq_error_iff`).

Over supplied tokens a template comes to the text that has the meaning of each placeholder in its
place, or to an error as soon as one of them has none (`resolve_render_eq`).
-/

set_option autoImplicit false

namespace Scaffold.Template

/-- The text of a segment, where a token without a value stands for nothing. -/
def textOf (table : TokenTable) : Segment → String
  | .literal text => text
  | .placeholder token => (table.find? token).getD ""

/-- The first of some tokens that a table has no value for. -/
def firstAbsent? (table : TokenTable) (tokens : List String) : Option String :=
  tokens.find? fun token ↦ (table.find? token).isNone

/-- Rendering concatenates the texts of the segments, unless a token is absent. -/
theorem renderSegments_eq (table : TokenTable) (segments : List Segment) :
    renderSegments table segments =
      match firstAbsent? table (segments.filterMap Segment.token?) with
      | some token => .error token
      | none => .ok (String.join (segments.map (textOf table))) := by
  induction segments with
  | nil => rfl
  | cons segment rest ih =>
    cases segment with
    | literal text =>
      have htoken : Segment.token? (.literal text) = none := rfl
      rw [renderSegments, ih, List.filterMap_cons_none htoken]
      cases firstAbsent? table (rest.filterMap Segment.token?) with
      | none => simp [Except.map, textOf]
      | some token => rfl
    | placeholder token =>
      have htoken : Segment.token? (.placeholder token) = some token := rfl
      rw [renderSegments, ih, List.filterMap_cons_some htoken]
      cases hvalue : table.find? token with
      | none => simp [firstAbsent?, hvalue]
      | some value =>
        have htail : firstAbsent? table (token :: rest.filterMap Segment.token?) =
            firstAbsent? table (rest.filterMap Segment.token?) := by
          simp [firstAbsent?, hvalue]
        rw [htail]
        cases firstAbsent? table (rest.filterMap Segment.token?) with
        | none => simp [Except.map, textOf, hvalue]
        | some absent => rfl

theorem firstAbsent?_eq_none_iff {table : TokenTable} {tokens : List String} :
    firstAbsent? table tokens = none ↔
      ∀ token ∈ tokens, ∃ value, table.find? token = some value := by
  simp [firstAbsent?, ← Option.isSome_iff_exists, Option.isSome_iff_ne_none]

/-- The error of rendering names the first token without a value, and the template. -/
theorem render_eq_error_iff {template : Template} {table : TokenTable} {fault : Fault} :
    template.render table = .error fault ↔
      ∃ token, firstAbsent? table template.tokens = some token ∧
        fault = .unresolvedToken token template.name := by
  rw [render, renderSegments_eq, tokens]
  cases firstAbsent? table (template.segments.filterMap Segment.token?) <;>
    simp [Except.mapError, eq_comm]

/-- The only error of rendering is that a token has no value. -/
theorem render_eq_error {template : Template} {table : TokenTable} {fault : Fault}
    (hfault : template.render table = .error fault) :
    ∃ token, fault = .unresolvedToken token template.name := by
  obtain ⟨token, -, hsame⟩ := render_eq_error_iff.mp hfault
  exact ⟨token, hsame⟩

/-- Segments are rendered up to the first token without a value. -/
theorem renderSegments_append (table : TokenTable) (first second : List Segment) :
    renderSegments table (first ++ second) =
      (renderSegments table first).bind fun text ↦
        (renderSegments table second).map (text ++ ·) := by
  induction first with
  | nil =>
    rw [List.nil_append, renderSegments]
    cases renderSegments table second <;> simp [Except.bind, Except.map]
  | cons segment rest ih =>
    have hprefix : ∀ written, (renderSegments table (rest ++ second)).map (written ++ ·) =
        ((renderSegments table rest).map (written ++ ·)).bind fun text ↦
          (renderSegments table second).map (text ++ ·) := by
      intro written
      rw [ih]
      cases renderSegments table rest with
      | error token => rfl
      | ok text =>
        cases renderSegments table second <;> simp [Except.bind, Except.map, String.append_assoc]
    cases segment with
    | literal written => exact hprefix written
    | placeholder token =>
      rw [List.cons_append, renderSegments, renderSegments]
      cases table.find? token with
      | none => rfl
      | some value => exact hprefix value

/-- A template is rendered to a text exactly if its segments are. -/
theorem render_eq_ok_iff {template : Template} {table : TokenTable} {text : String} :
    template.render table = .ok text ↔ renderSegments table template.segments = .ok text := by
  rw [render]
  cases renderSegments table template.segments <;> simp [Except.mapError]

/-! ### Over supplied tokens -/

/-- The placeholders of a template are its tokens. -/
theorem mem_placeholders {template : Template} {token : String} :
    token ∈ template.placeholders ↔ token ∈ template.tokens := by
  rw [placeholders, Table.mem_names_ofList]
  simp

/-- The text of a segment over supplied tokens, where a token without a meaning stands for
nothing. -/
def meaningOf (base : TokenTable) : Segment → String
  | .literal text => text
  | .placeholder token => (Token.meaning? base token).getD ""

/-- The text of a template over supplied tokens. -/
def textOver (base : TokenTable) (template : Template) : String :=
  String.join (template.segments.map (meaningOf base))

/-- The error of a template over supplied tokens, if a placeholder has no meaning. -/
def fault? (base : TokenTable) (template : Template) : Option Fault :=
  (Token.firstMissing? base template.placeholders).map (Token.unresolved base template.name)

variable {base : TokenTable} {template : Template}

/-- A template comes to its text, or to its error. -/
theorem resolve_render_eq (base : TokenTable) (template : Template) :
    (template.resolveTemplate base).bind template.render =
      match template.fault? base with
      | some fault => .error fault
      | none => .ok (template.textOver base) := by
  rw [resolveTemplate, Token.resolve_eq, fault?]
  cases hmissing : Token.firstMissing? base template.placeholders with
  | some token => rfl
  | none =>
    -- The table of the resolution holds the meaning of every placeholder.
    have hfind : ∀ token, .placeholder token ∈ template.segments →
        (Token.extension base template.placeholders).find? token = Token.meaning? base token := by
      intro token htoken
      rw [Token.find?_extension, if_pos]
      exact mem_placeholders.mpr (List.mem_filterMap.mpr ⟨_, htoken, rfl⟩)
    have habsent : firstAbsent? (Token.extension base template.placeholders)
        (template.segments.filterMap Segment.token?) = none := by
      refine firstAbsent?_eq_none_iff.mpr fun token htoken ↦ ?_
      obtain ⟨value, hvalue⟩ :=
        Token.firstMissing?_eq_none_iff.mp hmissing token (mem_placeholders.mpr htoken)
      refine ⟨value, ?_⟩
      rw [Token.find?_extension, if_pos (mem_placeholders.mpr htoken), hvalue]
    have htexts : template.segments.map (textOf (Token.extension base template.placeholders)) =
        template.segments.map (meaningOf base) := by
      refine List.map_congr_left fun segment hsegment ↦ ?_
      cases segment with
      | literal text => rfl
      | placeholder token => rw [textOf, hfind token hsegment, meaningOf]
    simp only [Option.map_none, Except.bind, render, renderSegments_eq, habsent, htexts]
    rfl

theorem fault?_eq_none_iff :
    template.fault? base = none ↔
      ∀ token ∈ template.tokens, ∃ value, Token.meaning? base token = some value := by
  rw [fault?, Option.map_eq_none_iff, Token.firstMissing?_eq_none_iff]
  simp only [mem_placeholders]

theorem canResolve_of_fault?_eq_none (hnone : template.fault? base = none) {token : String}
    (htoken : token ∈ template.placeholders) : Token.canResolve base token = true :=
  Token.canResolve_iff.mpr (fault?_eq_none_iff.mp hnone token (mem_placeholders.mp htoken))

/-- The error of a template names the template, and comes from a placeholder that cannot be
resolved. -/
theorem of_fault?_eq_some {fault : Fault} (hfault : template.fault? base = some fault) :
    (∃ token ∈ template.placeholders, Token.canResolve base token = false) ∧
      ∃ token, fault = .unresolvedToken token template.name := by
  obtain ⟨token, hmissing, rfl⟩ := Option.map_eq_some_iff.mp hfault
  refine ⟨⟨token, List.mem_of_find?_eq_some hmissing, ?_⟩, Token.cause base token, rfl⟩
  rw [Token.canResolve_eq_false_iff]
  simpa using List.find?_some hmissing

end Scaffold.Template

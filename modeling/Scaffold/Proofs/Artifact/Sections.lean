import Scaffold.Proofs.Artifact.Emission
import Scaffold.Proofs.Template.Joining

/-!
# Sections and the whole

The sections of an artifact are resolved and rendered one by one. Their bodies, one behind the
other, are the body of a single template, unless one of them ends in a bare dollar that the next one
would go on from. Rendering the single template comes to the same text
(`Plan.renderTemplates_joined`), and to the same artifact under the name of the first section
(`Plan.render_joined`).
-/

set_option autoImplicit false

namespace Scaffold

namespace Template

variable {base : TokenTable} {templates : List Template}

theorem textOver_joined (base : TokenTable) (name : String) (templates : List Template) :
    (printed name (templates.flatMap Template.segments)).textOver base =
      String.join (templates.map (textOver base)) := by
  rw [textOver, join_map_printed fun _ ↦ rfl]
  induction templates with
  | nil => rfl
  | cons template rest ih =>
    rw [List.flatMap_cons, List.map_append, String.join_append, ih, List.map_cons,
      String.join_cons, textOver]

theorem mem_tokens_joined {name token : String} :
    token ∈ (printed name (templates.flatMap Template.segments)).tokens ↔
      ∃ template ∈ templates, token ∈ template.tokens := by
  rw [tokens_printed, List.filterMap_flatMap, List.mem_flatMap]
  rfl

/-- The joined template is in error exactly if one of the templates is. -/
theorem fault?_joined_eq_none_iff {name : String} :
    (printed name (templates.flatMap Template.segments)).fault? base = none ↔
      templates.findSome? (fault? base) = none := by
  simp only [fault?_eq_none_iff, List.findSome?_eq_none_iff, mem_tokens_joined]
  exact ⟨fun hall template htemplate token htoken ↦ hall token ⟨template, htemplate, htoken⟩,
    fun hall token ⟨template, htemplate, htoken⟩ ↦ hall template htemplate token htoken⟩

end Template

namespace Plan

/-- Templates are rendered one after the other exactly if the joined template is, and to the same
text. -/
theorem renderTemplates_joined (base : TokenTable) (name : String) (templates : List Template)
    (text : String) :
    let joined := Template.printed name (templates.flatMap Template.segments)
    renderTemplates base templates = .ok text ↔
      (joined.resolveTemplate base).bind joined.render = .ok text := by
  intro joined
  have hfault : joined.fault? base = none ↔ templates.findSome? (Template.fault? base) = none :=
    Template.fault?_joined_eq_none_iff
  rw [renderTemplates_eq, Template.resolve_render_eq, Template.textOver_joined]
  cases hone : joined.fault? base with
  | none => rw [hfault.mp hone]
  | some fault =>
    obtain ⟨other, hother⟩ := Option.ne_none_iff_exists'.mp (mt hfault.mpr (by simp [hone]))
    simp [hother]

/-- Under the name of the first section the joined template comes to the same artifact. -/
theorem render_joined {plan : Plan} {first : Template} {rest : List Template}
    (htemplates : plan.templates = first :: rest) (artifact : Artifact) :
    plan.render = .ok artifact ↔
      Plan.render { plan with templates :=
        [Template.printed first.name (plan.templates.flatMap Template.segments)] } =
        .ok artifact := by
  rw [render_eq_ok_iff htemplates, render_eq_ok_iff rfl, htemplates]
  simp only [renderTemplates_singleton, ← renderTemplates_joined]
  rfl

/-- Rendering respects the joining of bodies. Behind a body that can be parsed and does not end in a
bare dollar, exactly that can be parsed which can be parsed on its own; what is malformed is
malformed for the same reason, further on by the bytes of the body; and the whole is rendered
exactly if both parts are, to the text of the one and behind it that of the other. So the text of
sections, none of which ends in a bare dollar, is that of a single template, and so is the
artifact. -/
theorem rendering_respects_joining :
    (∀ name body first, Template.parse name body = .ok first →
      ¬ Template.EndsBare body.toList → ∀ other later whole,
        ((∃ template, Template.parse whole (body ++ later) = .ok template) ↔
          ∃ template, Template.parse other later = .ok template) ∧
        (∀ fault, Template.parse other later = .error fault →
          ∃ offset reason, fault = .malformedTemplate other offset reason ∧
            Template.parse whole (body ++ later) =
              .error (.malformedTemplate whole (body.utf8ByteSize + offset) reason)) ∧
        ∀ second joined, Template.parse other later = .ok second →
          Template.parse whole (body ++ later) = .ok joined →
          ∀ table text, joined.render table = .ok text ↔
            ∃ before after, first.render table = .ok before ∧ second.render table = .ok after ∧
              before ++ after = text) ∧
    ∀ bodies templates,
      List.Forall₂ (fun body template ↦ Template.parse template.name body = .ok template ∧
        ¬ Template.EndsBare body.toList) bodies templates →
      ∀ whole, ∃ joined, Template.parse whole (String.join bodies) = .ok joined ∧
        (∀ base text, renderTemplates base templates = .ok text ↔
          (joined.resolveTemplate base).bind joined.render = .ok text) ∧
        ∀ (plan : Plan) first rest artifact, plan.templates = templates →
          templates = first :: rest → whole = first.name →
          (plan.render = .ok artifact ↔
            Plan.render { plan with templates := [joined] } = .ok artifact) := by
  refine ⟨fun name body first hfirst hends other later whole ↦
    ⟨Template.exists_parse_append_iff hfirst hends whole,
      fun fault hfault ↦ Template.parse_append_of_error hfirst hends hfault whole,
      fun second joined hsecond hjoined table text ↦ ?_⟩,
    fun bodies templates hjoinable whole ↦ ?_⟩
  · rw [Template.parse_append_of_ok hfirst hends hsecond whole] at hjoined
    rw [← Except.ok.inj hjoined]
    exact Template.render_printed_append whole first second table text
  · refine ⟨_, Template.parse_join hjoinable whole,
      fun base text ↦ renderTemplates_joined base whole templates text,
      fun plan first rest artifact htemplates hcons hname ↦ ?_⟩
    rw [hname, ← htemplates]
    exact render_joined (htemplates.trans hcons) artifact

/-- Two sections whose bodies meet between literals are one template. -/
theorem rendering_respects_joining_of_two :
    let bodies := ["/* $$ */\n", "int $\x7btype_name\x7d;\n"]
    let first : Template := ⟨"a.c", [.literal "/* $ */\n"]⟩
    let second : Template :=
      ⟨"b.c", [.literal "int ", .placeholder "type_name", .literal ";\n"]⟩
    ∃ joined, Template.parse "a.c" (String.join bodies) = .ok joined ∧
      ∀ base text, renderTemplates base [first, second] = .ok text ↔
        (joined.resolveTemplate base).bind joined.render = .ok text := by
  intro bodies first second
  have hjoinable : List.Forall₂ Template.IsJoinable bodies [first, second] := by
    refine .cons ⟨by decide +kernel, ?_⟩ (.cons ⟨by decide +kernel, ?_⟩ .nil) <;>
      exact Template.not_endsBare_of_getLast? (by decide)
  obtain ⟨joined, hjoined, htexts, -⟩ :=
    rendering_respects_joining.2 bodies [first, second] hjoinable "a.c"
  exact ⟨joined, hjoined, htexts⟩

/-- What a dollar at the end stands for depends on the next body. -/
example :
    Template.parse "t" "$" = .ok ⟨"t", [.literal "$"]⟩ ∧
      Template.parse "t" "\x7b" = .ok ⟨"t", [.literal "\x7b"]⟩ ∧
      Template.parse "t" ("$" ++ "\x7b") = .error (.malformedTemplate "t" 0 .unterminated) := by
  decide +kernel

end Plan

end Scaffold

import Scaffold.Artifact.Plan
import Scaffold.Proofs.Artifact.Destination
import Scaffold.Proofs.Fault
import Scaffold.Proofs.Token.Resolution

/-!
# Rendering plans

A plan with a template comes to an artifact or to a token that is unresolved, and to no other error
(`Plan.render_failsOnly`). Its templates come to their texts one after the other, or to the error of
the first template that has one (`Plan.renderTemplates_eq`), so it comes to an artifact if every
token of its templates and of its destination has a meaning (`Plan.exists_render`). The plans are
rendered in their order (`Plan.renderAll_eq`).
-/

set_option autoImplicit false

namespace Scaffold

/-- A computation whose only error is a token without a value fails as rendering does. -/
theorem failsOnly_rendering {α : Type} {answer : Except Fault α} {template : String}
    (herror : ∀ {fault}, answer = .error fault → ∃ token, fault = .unresolvedToken token template) :
    FailsOnly .rendering answer := by
  refine failsOnly_iff.mpr fun fault hfault ↦ ?_
  obtain ⟨token, rfl⟩ := herror hfault
  rfl

theorem Token.resolve_failsOnly (base : TokenTable) (required : List String) (context : String) :
    FailsOnly .rendering (resolve base required context) :=
  failsOnly_rendering resolve_eq_error

theorem Template.render_failsOnly (template : Template) (table : TokenTable) :
    FailsOnly .rendering (template.render table) :=
  failsOnly_rendering render_eq_error

theorem ArtifactKind.destination_failsOnly (kind : ArtifactKind) (template : String)
    (table : TokenTable) : FailsOnly .rendering (kind.destination template table) :=
  failsOnly_rendering destination_eq_error

theorem Artifact.emit_failsOnly (kind : ArtifactKind) (template rendered : String)
    (table : TokenTable) (finding : Option Finding) :
    FailsOnly .rendering (emit kind template rendered table finding) := by
  refine (kind.destination_failsOnly template table).bind fun destination ↦ ?_
  split
  · split <;> trivial
  · trivial

/-- With a value for the tokens of its destination an artifact is put together. -/
theorem Artifact.exists_emit {kind : ArtifactKind} {table : TokenTable}
    (template rendered : String) (finding : Option Finding)
    (htokens : ∀ token ∈ kind.destinationTokens, ∃ value, table.find? token = some value) :
    ∃ artifact, emit kind template rendered table finding = .ok artifact := by
  obtain ⟨path, hpath⟩ := ArtifactKind.exists_destination template htokens
  rw [emit, hpath]
  simp only [bind, Except.bind]
  split
  · obtain ⟨libraryId, hlibraryId⟩ := htokens "library_id" (by decide)
    simp only [hlibraryId]
    exact ⟨_, rfl⟩
  · exact ⟨_, rfl⟩

namespace Plan

/-- The templates come to their texts one after the other, or to the error of the first of them that
has one. -/
theorem renderTemplates_eq (base : TokenTable) (templates : List Template) :
    renderTemplates base templates =
      match templates.findSome? (Template.fault? base) with
      | some fault => .error fault
      | none => .ok (String.join (templates.map (Template.textOver base))) := by
  induction templates with
  | nil => rfl
  | cons template rest ih =>
    have hfirst : renderTemplates base (template :: rest) =
        ((template.resolveTemplate base).bind template.render).bind fun text ↦
          (renderTemplates base rest).map (text ++ ·) := by
      rw [renderTemplates]
      cases template.resolveTemplate base with
      | error fault => rfl
      | ok table => cases template.render table <;> rfl
    rw [hfirst, Template.resolve_render_eq, ih, List.findSome?_cons]
    cases template.fault? base with
    | some fault => rfl
    | none =>
      simp only [Except.bind]
      cases rest.findSome? (Template.fault? base) with
      | some fault => rfl
      | none => simp [Except.map]

theorem renderTemplates_singleton (base : TokenTable) (template : Template) :
    renderTemplates base [template] = (template.resolveTemplate base).bind template.render := by
  rw [renderTemplates_eq, Template.resolve_render_eq, List.findSome?_singleton, List.map_singleton]
  cases template.fault? base <;> simp

theorem exists_renderTemplates {base : TokenTable} {templates : List Template}
    (htokens : ∀ template ∈ templates, ∀ token ∈ template.tokens,
      ∃ value, Token.meaning? base token = some value) :
    ∃ text, renderTemplates base templates = .ok text := by
  have hnone : templates.findSome? (Template.fault? base) = none :=
    List.findSome?_eq_none_iff.mpr fun template htemplate ↦
      Template.fault?_eq_none_iff.mpr (htokens template htemplate)
  rw [renderTemplates_eq, hnone]
  exact ⟨_, rfl⟩

/-- A plan comes to an artifact if its templates come to a text, its destination can be resolved,
and both can be put together. -/
theorem render_eq_ok_iff {plan : Plan} {first : Template} {rest : List Template}
    (htemplates : plan.templates = first :: rest) {artifact : Artifact} :
    plan.render = .ok artifact ↔
      ∃ text, renderTemplates plan.base (first :: rest) = .ok text ∧
        ∃ table, Token.resolve plan.base plan.kind.destinationTokens first.name = .ok table ∧
          Artifact.emit plan.kind first.name text table plan.finding = .ok artifact := by
  rw [render, htemplates]
  simp only [bind, Except.bind]
  cases renderTemplates plan.base (first :: rest) with
  | error fault => simp
  | ok text =>
    cases Token.resolve plan.base plan.kind.destinationTokens first.name <;> simp

/-- A plan is rendered if the tokens of its templates and of its destination have a meaning. -/
theorem exists_render {plan : Plan} (htemplates : plan.templates ≠ [])
    (htokens : ∀ template ∈ plan.templates, ∀ token ∈ template.tokens,
      ∃ value, Token.meaning? plan.base token = some value)
    (hdestination : ∀ token ∈ plan.kind.destinationTokens,
      ∃ value, Token.meaning? plan.base token = some value) :
    ∃ artifact, plan.render = .ok artifact := by
  obtain ⟨first, rest, hcons⟩ := List.exists_cons_of_ne_nil htemplates
  obtain ⟨text, htext⟩ := exists_renderTemplates htokens
  obtain ⟨table, hresolve, -, hvalues⟩ := Token.exists_resolved _ first.name hdestination
  obtain ⟨artifact, hartifact⟩ := Artifact.exists_emit first.name text plan.finding hvalues
  rw [hcons] at htext
  exact ⟨artifact, (render_eq_ok_iff hcons).mpr ⟨text, htext, table, hresolve, hartifact⟩⟩

theorem renderTemplates_failsOnly (base : TokenTable) (templates : List Template) :
    FailsOnly .rendering (renderTemplates base templates) := by
  induction templates with
  | nil => trivial
  | cons template rest ih =>
    refine (Token.resolve_failsOnly base template.placeholders template.name).bind fun table ↦ ?_
    refine (template.render_failsOnly table).bind fun text ↦ ?_
    exact ih.bind fun texts ↦ trivial

/-- A plan with a template is rendered, or a token is unresolved. -/
theorem render_failsOnly {plan : Plan} (htemplates : plan.templates ≠ []) :
    FailsOnly .rendering plan.render := by
  rw [render]
  split
  · rename_i hnil
    exact absurd hnil htemplates
  · rename_i first rest hcons
    refine (renderTemplates_failsOnly plan.base plan.templates).bind fun text ↦ ?_
    refine (Token.resolve_failsOnly _ _ _).bind fun table ↦ ?_
    exact Artifact.emit_failsOnly ..

/-- The numbers of the tasks ascend. -/
theorem pairwise_tasks (plans : List Plan) :
    (tasks plans).Pairwise fun first second ↦ decide (first.1 ≤ second.1) = true := by
  rw [tasks, List.pairwise_map, List.pairwise_iff_getElem]
  intro i j hi hj hij
  simp only [List.getElem_zipIdx, decide_eq_true_eq]
  omega

/-- The tasks have the numbers from zero on. -/
theorem map_fst_tasks (plans : List Plan) :
    (tasks plans).map (·.1) = List.range' 0 plans.length := by
  rw [tasks, List.map_map, ← List.zipIdx_map_snd 0 plans]
  rfl

/-- Without their numbers the tasks are the renderings of the plans. -/
theorem map_snd_tasks (plans : List Plan) :
    (tasks plans).map (·.2) = plans.map fun plan ↦ (plan.destination, plan.render) := by
  have hfirst := congrArg (List.map fun plan ↦ (plan.destination, plan.render))
    (List.zipIdx_map_fst 0 plans)
  rw [List.map_map] at hfirst
  rw [tasks, List.map_map]
  exact hfirst

/-- Results that are collected in any order are put back into the order of the tasks. -/
theorem inPlanOrder_of_perm {plans : List Plan}
    {finished : List (Nat × (Path × Except Fault Artifact))} (hperm : finished.Perm (tasks plans)) :
    inPlanOrder finished = plans.map fun plan ↦ (plan.destination, plan.render) := by
  have hnumbers : ((tasks plans).map (·.1)).Nodup := by
    rw [map_fst_tasks]
    exact List.nodup_range'
  have hascending := @List.pairwise_mergeSort _
    (fun first second : Nat × (Path × Except Fault Artifact) ↦ decide (first.1 ≤ second.1))
    (fun _ _ _ ↦ by simpa using Nat.le_trans) (fun _ _ ↦ by simpa using Nat.le_total _ _) finished
  have hsorted := (List.mergeSort_perm finished fun first second ↦
    decide (first.1 ≤ second.1)).trans hperm
  -- No two tasks have one number, so there is one ascending order of them.
  have heq := hsorted.eq_of_pairwise (fun first second hfirst hsecond hle hge ↦ by
    refine List.inj_on_of_nodup_map hnumbers (hsorted.mem_iff.mp hfirst) hsecond ?_
    exact Nat.le_antisymm (of_decide_eq_true hle) (of_decide_eq_true hge)) hascending
    (pairwise_tasks plans)
  rw [inPlanOrder, heq, map_snd_tasks]

/-- Plans are rendered in their order. -/
theorem renderAll_eq (plans : List Plan) :
    renderAll plans = plans.map fun plan ↦ (plan.destination, plan.render) :=
  inPlanOrder_of_perm (List.Perm.refl _)

end Plan

end Scaffold

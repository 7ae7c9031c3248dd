import Scaffold.Proofs.Artifact.Planning
import Scaffold.Proofs.Artifact.Rendering

/-!
# What a plan comes to

The destination of a plan and that of its artifact are resolved from the same tokens for the same
template, so a plan with a destination comes to an artifact that goes there, unless one of its
templates is in error (`Plan.render_eq`). Every plan of a project has a destination, so what is
planned is what is emitted (`Project.plan_is_emitted`).
-/

set_option autoImplicit false

namespace Scaffold

namespace Plan

/-- What comes before the text of the templates: the banner of a macro for a finding. -/
def heading (plan : Plan) : String :=
  match plan.kind, plan.finding with
  | .buildMacro, some finding =>
    Artifact.banner ((Token.meaning? plan.base "library_id").getD "") finding
  | _, _ => ""

theorem emit_eq (plan : Plan) (template rendered : String) {table : TokenTable} {path : Path}
    (hresolve : Token.resolve plan.base plan.kind.destinationTokens template = .ok table)
    (hdestination : plan.kind.destination template table = .ok path) :
    Artifact.emit plan.kind template rendered table plan.finding =
      .ok ⟨plan.kind, path, plan.heading ++ rendered⟩ := by
  obtain ⟨hmeanings, rfl⟩ := Token.resolve_eq_ok_iff.mp hresolve
  rw [Artifact.emit, hdestination, heading]
  simp only [bind, Except.bind]
  cases hkind : plan.kind with
  | buildMacro =>
    cases plan.finding with
    | none => simp [pure, Except.pure]
    | some finding =>
      have hid : "library_id" ∈ plan.kind.destinationTokens := by
        rw [hkind]
        exact List.mem_singleton_self _
      obtain ⟨value, hvalue⟩ := hmeanings "library_id" hid
      have hfind := Token.find?_extension plan.base plan.kind.destinationTokens "library_id"
      rw [if_pos hid, hvalue, hkind] at hfind
      simp only [hfind, hvalue]
      rfl
  | librarySource => simp [pure, Except.pure]
  | headerStub => simp [pure, Except.pure]
  | testSource => simp [pure, Except.pure]

/-- A plan comes to an artifact that goes to its destination, or to the error of the first of its
templates that has one. -/
theorem render_eq {plan : Plan} (hplaced : plan.IsPlaced) :
    plan.render =
      match plan.templates.findSome? (Template.fault? plan.base) with
      | some fault => .error fault
      | none => .ok ⟨plan.kind, plan.destination,
          plan.heading ++ String.join (plan.templates.map (Template.textOver plan.base))⟩ := by
  obtain ⟨first, rest, htemplates, hdestination⟩ := hplaced.exists_first
  rw [ArtifactUnit.destination] at hdestination
  cases hresolve : Token.resolve plan.base plan.kind.destinationTokens first.name with
  | error fault =>
    rw [hresolve] at hdestination
    cases hdestination
  | ok table =>
    rw [hresolve] at hdestination
    rw [render, htemplates]
    simp only [renderTemplates_eq, hresolve]
    cases (first :: rest).findSome? (Template.fault? plan.base) with
    | some fault => rfl
    | none => exact plan.emit_eq first.name _ hresolve hdestination

/-- The artifact of a placed plan has its kind and goes to its destination. -/
theorem kind_and_destination_of_render {plan : Plan} (hplaced : plan.IsPlaced)
    {artifact : Artifact} (hrender : plan.render = .ok artifact) :
    artifact.kind = plan.kind ∧ artifact.destination = plan.destination := by
  rw [render_eq hplaced] at hrender
  split at hrender
  · cases hrender
  · rw [← Except.ok.inj hrender]
    exact ⟨rfl, rfl⟩

/-- A placed plan fails exactly at the first of its templates with a placeholder that cannot be
resolved. -/
theorem render_eq_error_iff {plan : Plan} (hplaced : plan.IsPlaced) {fault : Fault} :
    plan.render = .error fault ↔
      ∃ before template after, plan.templates = before ++ template :: after ∧
        template.fault? plan.base = some fault ∧
        ∀ earlier ∈ before, earlier.fault? plan.base = none := by
  rw [render_eq hplaced, ← List.findSome?_eq_some_iff]
  cases plan.templates.findSome? (Template.fault? plan.base) <;> simp

end Plan

/-! ### Plans of a project -/

namespace Project

/-- What is planned is emitted. The artifact of a plan has its kind and goes to its destination. A
plan comes to no artifact exactly if a placeholder of one of its templates cannot be resolved, and
the error then names the first template with such a placeholder. -/
theorem plan_is_emitted {project : Project} {corpus : Corpus} {resolved : List Resolved}
    {planning : Planning} {plan : Plan} (hplan : project.plan corpus resolved = .ok planning)
    (hmem : plan ∈ planning.plans) :
    (∀ artifact, plan.render = .ok artifact →
      artifact.kind = plan.kind ∧ artifact.destination.text = plan.destination.text) ∧
    ((∃ fault, plan.render = .error fault) ↔
      ∃ template ∈ plan.templates, ∃ token ∈ template.placeholders,
        Token.canResolve plan.base token = false) ∧
    ∀ fault, plan.render = .error fault →
      ∃ before template after token, plan.templates = before ++ template :: after ∧
        (∃ placeholder ∈ template.placeholders,
          Token.canResolve plan.base placeholder = false) ∧
        (∀ earlier ∈ before, ∀ placeholder ∈ earlier.placeholders,
          Token.canResolve plan.base placeholder = true) ∧
        fault = .unresolvedToken token template.name := by
  have hplaced := (perm_units_of_plan hplan).2.1 plan hmem
  refine ⟨fun artifact hartifact ↦ ?_, ⟨?_, ?_⟩, fun fault hfault ↦ ?_⟩
  · obtain ⟨hkind, hdestination⟩ := Plan.kind_and_destination_of_render hplaced hartifact
    exact ⟨hkind, congrArg Path.text hdestination⟩
  · rintro ⟨fault, hfault⟩
    obtain ⟨before, template, after, htemplates, hfault, -⟩ :=
      (Plan.render_eq_error_iff hplaced).mp hfault
    refine ⟨template, ?_, (Template.of_fault?_eq_some hfault).1⟩
    rw [htemplates]
    exact List.mem_append_right _ List.mem_cons_self
  · rintro ⟨template, htemplate, token, htoken, hresolve⟩
    rw [Plan.render_eq hplaced]
    cases hfault : plan.templates.findSome? (Template.fault? plan.base) with
    | some fault => exact ⟨fault, rfl⟩
    | none =>
      have hnone := List.findSome?_eq_none_iff.mp hfault template htemplate
      rw [Template.canResolve_of_fault?_eq_none hnone htoken] at hresolve
      cases hresolve
  · obtain ⟨before, template, after, htemplates, hfault, hbefore⟩ :=
      (Plan.render_eq_error_iff hplaced).mp hfault
    obtain ⟨hplaceholder, token, hfault⟩ := Template.of_fault?_eq_some hfault
    exact ⟨before, template, after, token, htemplates, hplaceholder,
      fun earlier hearlier _ ↦ Template.canResolve_of_fault?_eq_none (hbefore earlier hearlier),
      hfault⟩

/-- The error of a header whose only placeholder is no token names the header. -/
theorem plan_is_emitted_unless_absent :
    let template : Template := ⟨"libyal/x.h", [.placeholder "absent"]⟩
    let project : Project := ⟨[], "", "libx", "", [], none, []⟩
    ∃ planning plan token,
      project.plan ⟨Table.ofList [("libyal/x.h", template)]⟩ [] = .ok planning ∧
      plan ∈ planning.plans ∧ plan.render = .error (.unresolvedToken token "libyal/x.h") := by
  intro template project
  let plan : Plan :=
    ⟨⟨.librarySource, [template], project.libraryTokens, none⟩, ⟨"libx/libx_x.h"⟩⟩
  have hplan : project.plan ⟨Table.ofList [("libyal/x.h", template)]⟩ [] = .ok ⟨[plan], []⟩ := by
    decide +kernel
  have hmem : plan ∈ [plan] := List.mem_singleton_self plan
  obtain ⟨-, hfails, hnames⟩ := plan_is_emitted hplan hmem
  have habsent : ∃ template ∈ plan.templates, ∃ token ∈ template.placeholders,
      Token.canResolve plan.base token = false := by
    refine ⟨template, List.mem_singleton_self _, "absent", ?_, ?_⟩ <;> decide +kernel
  obtain ⟨fault, hfault⟩ := hfails.mpr habsent
  obtain ⟨before, other, after, token, htemplates, -, -, rfl⟩ := hnames fault hfault
  have hother : other ∈ plan.templates := by
    rw [htemplates]
    exact List.mem_append_right _ List.mem_cons_self
  rw [List.mem_singleton.mp hother] at hfault
  exact ⟨_, plan, token, hplan, hmem, hfault⟩

end Project

end Scaffold

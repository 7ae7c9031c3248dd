import Scaffold.Proofs.Artifact.Run

/-!
# What the writing loop accounts for

The loop begins plans in their order until it sees that the run is cancelled. `Writer.ledger` lists
the plans it began, each with what became of it (`Fate`), and `isLedger_ledger` says which plans
these are: those before the first at which the flag was up. The log of the loop is read off the
ledger (`writeAll_plans`): a plan is written or has failed, never both and never neither.

A plan that fails and leaves the writer as it was takes nothing with it: without the plan the ledger
is the same but for its line (`ledger_without`).
-/

set_option autoImplicit false

namespace Scaffold

variable {σ : Type}

/-! ### Fates -/

/-- What became of a plan that was begun. -/
inductive Fate
  | unrendered (fault : Fault)
  | refused (artifact : Artifact) (fault : Fault)
  | written (artifact : Artifact)

namespace Fate

/-- The artifact that was handed to the writer. -/
def artifact? : Fate → Option Artifact
  | unrendered _ => none
  | refused artifact _ | written artifact => some artifact

/-- The error that the plan failed with. -/
def fault? : Fate → Option Fault
  | unrendered fault | refused _ fault => some fault
  | written _ => none

end Fate

/-- A plan that was begun, with what became of it. -/
structure Begun where
  plan : Plan
  fate : Fate

namespace Begun

/-- The line of the report for a plan that was written. -/
def written? (begun : Begun) : Option (ArtifactKind × Path) :=
  match begun.fate.fault? with
  | none => some (begun.plan.kind, begun.plan.destination)
  | some _ => none

/-- The line of the report for a plan that failed. -/
def failure? (begun : Begun) : Option UnitFailure :=
  begun.fate.fault?.map fun fault ↦ ⟨begun.plan.destination.text, fault⟩

/-- The artifact of the plan that was handed to the writer. -/
def artifact? (begun : Begun) : Option Artifact :=
  begun.fate.artifact?

end Begun

/-- What becomes of a plan that is begun in a state of the writer. -/
def Plan.fate (plan : Plan) (writer : Writer σ) (state : σ) : Fate :=
  match plan.render with
  | .error fault => .unrendered fault
  | .ok artifact =>
    match (writer.write artifact state).1 with
    | .ok () => .written artifact
    | .error fault => .refused artifact fault

theorem Artifact.kind_of_emit {kind : ArtifactKind} {template rendered : String}
    {table : TokenTable} {finding : Option Finding} {artifact : Artifact}
    (hemit : emit kind template rendered table finding = .ok artifact) : artifact.kind = kind := by
  rw [emit] at hemit
  cases hdestination : kind.destination template table with
  | error fault => simp [hdestination, bind, Except.bind] at hemit
  | ok destination =>
    simp only [hdestination, bind, Except.bind] at hemit
    split at hemit
    · split at hemit
      · rw [← Except.ok.inj hemit]
      · simp at hemit
    · rw [← Except.ok.inj hemit]

/-- A plan is rendered to an artifact of its kind. -/
theorem Plan.kind_of_render {plan : Plan} {artifact : Artifact}
    (hrender : plan.render = .ok artifact) : artifact.kind = plan.kind := by
  cases htemplates : plan.templates with
  | nil => simp [render, htemplates] at hrender
  | cons first rest =>
    obtain ⟨text, -, table, -, hemit⟩ := (render_eq_ok_iff htemplates).mp hrender
    exact Artifact.kind_of_emit hemit

namespace Writer

variable (writer : Writer σ)

/-! ### Ledgers -/

/-- The state that a plan leaves the writer in once it was begun. -/
def step (state : σ) (plan : Plan) : σ :=
  (writer.writeRendered plan.render state).2

/-- The state that plans leave the writer in if all of them are begun. -/
def reach (state : σ) (plans : List Plan) : σ :=
  plans.foldl writer.step state

/-- A plan that cannot be rendered leaves the writer as it was. -/
theorem step_of_unrendered (state : σ) {plan : Plan} {fault : Fault}
    (hrender : plan.render = .error fault) : writer.step state plan = state := by
  rw [step, hrender, writeRendered]

/-- The plans that are begun before the run is seen to be cancelled, with their fates. -/
def ledger : List Plan → σ → List Begun
  | [], _ => []
  | plan :: rest, state =>
    if writer.isCancelled state then []
    else ⟨plan, plan.fate writer state⟩ :: ledger rest (writer.step state plan)

/-- The ledger holds the plans up to the first at which the flag is up, and each has the fate of a
plan that is begun where the plans before it have led. -/
structure IsLedger (plans : List Plan) (state : σ) (ledger : List Begun) : Prop where
  plans_eq : ledger.map (·.plan) = plans.take ledger.length
  fate_eq : ∀ (i : Nat) (begun : Begun), ledger[i]? = some begun →
    begun.fate = begun.plan.fate writer (writer.reach state (plans.take i))
  unseen : ∀ i < ledger.length, writer.isCancelled (writer.reach state (plans.take i)) = false
  seen : ledger.length < plans.length →
    writer.isCancelled (writer.reach state (plans.take ledger.length)) = true

theorem isLedger_ledger (plans : List Plan) (state : σ) :
    writer.IsLedger plans state (writer.ledger plans state) := by
  induction plans generalizing state with
  | nil => exact ⟨rfl, by simp [ledger], by simp [ledger], by simp [ledger]⟩
  | cons plan rest ih =>
    rw [ledger]
    cases hcancelled : writer.isCancelled state with
    | true => exact ⟨rfl, by simp, by simp, fun _ ↦ hcancelled⟩
    | false =>
      obtain ⟨hplans, hfate, hunseen, hseen⟩ := ih (writer.step state plan)
      simp only [Bool.false_eq_true, if_false]
      refine ⟨?_, fun i begun hbegun ↦ ?_, fun i hi ↦ ?_, fun hshort ↦ ?_⟩
      · rw [List.map_cons, hplans, List.length_cons, List.take_succ_cons]
      · cases i with
        | zero => rw [← Option.some.inj hbegun]; rfl
        | succ i => exact hfate i begun hbegun
      · cases i with
        | zero => exact hcancelled
        | succ i => exact hunseen i (Nat.lt_of_succ_lt_succ hi)
      · exact hseen (Nat.lt_of_succ_lt_succ hshort)

theorem IsLedger.length_le {writer : Writer σ} {plans : List Plan} {state : σ}
    {ledger : List Begun} (hledger : writer.IsLedger plans state ledger) :
    ledger.length ≤ plans.length := by
  have htake := congrArg List.length hledger.plans_eq
  rw [List.length_map, List.length_take] at htake
  omega

/-! ### The loop -/

theorem fate_of_writeRendered (plan : Plan) (state : σ) :
    (writer.writeRendered plan.render state).1 =
      match (plan.fate writer state).fault? with
      | none => .ok plan.kind
      | some fault => .error fault := by
  cases hrender : plan.render with
  | error fault => simp [Plan.fate, hrender, writeRendered, Fate.fault?]
  | ok artifact =>
    have hkind := Plan.kind_of_render hrender
    cases hwrite : (writer.write artifact state).1 <;>
      simp [Plan.fate, hrender, hwrite, hkind, writeRendered, Fate.fault?, Except.map]

theorem artifact?_fate (plan : Plan) (state : σ) :
    (plan.fate writer state).artifact? = plan.render.toOption := by
  cases hrender : plan.render with
  | error fault => simp [Plan.fate, hrender, Fate.artifact?, Except.toOption]
  | ok artifact =>
    cases hwrite : (writer.write artifact state).1 <;>
      simp [Plan.fate, hrender, hwrite, Fate.artifact?, Except.toOption]

/-- What the writer is handed for a plan is the rendering of that plan, whatever became of the
others. -/
theorem IsLedger.artifact?_eq {writer : Writer σ} {plans : List Plan} {state : σ}
    {ledger : List Begun} (hledger : writer.IsLedger plans state ledger) {begun : Begun}
    (hbegun : begun ∈ ledger) : begun.artifact? = begun.plan.render.toOption := by
  obtain ⟨i, hi⟩ := List.mem_iff_getElem?.mp hbegun
  rw [Begun.artifact?, hledger.fate_eq i begun hi, artifact?_fate]

/-- The log of the loop is read off the ledger. -/
theorem writeAll_plans (plans : List Plan) (state : σ) :
    writer.writeAll (plans.map fun plan ↦ (plan.destination, plan.render)) state =
      (⟨(writer.ledger plans state).filterMap Begun.written?,
        (writer.ledger plans state).filterMap Begun.failure?,
        decide ((writer.ledger plans state).length < plans.length)⟩,
        writer.reach state (plans.take (writer.ledger plans state).length)) := by
  induction plans generalizing state with
  | nil => rfl
  | cons plan rest ih =>
    rw [List.map_cons, writeAll, ledger]
    cases writer.isCancelled state with
    | true => simp [reach]
    | false =>
      have hrest := ih (writer.step state plan)
      rw [step] at hrest
      simp only [Bool.false_eq_true, if_false, hrest, fate_of_writeRendered]
      cases hfault : (plan.fate writer state).fault? <;>
        simp [Begun.written?, Begun.failure?, hfault, reach, step]

/-- The writer is called with the artifacts of the ledger. -/
theorem calls_plans (plans : List Plan) (state : σ) :
    writer.calls (plans.map fun plan ↦ (plan.destination, plan.render)) state =
      (writer.ledger plans state).filterMap Begun.artifact? := by
  induction plans generalizing state with
  | nil => rfl
  | cons plan rest ih =>
    rw [List.map_cons, calls, ledger]
    cases writer.isCancelled state with
    | true => rfl
    | false =>
      have hrest := ih (writer.step state plan)
      rw [step] at hrest
      simp only [Bool.false_eq_true, if_false, hrest, List.filterMap_cons, Begun.artifact?,
        artifact?_fate]
      cases plan.render.toOption <;> rfl

/-- A line of the ledger is for a plan that was written or for one that failed. -/
theorem perm_lines (ledger : List Begun) :
    ((ledger.filterMap Begun.written?).map (·.2.text) ++
      (ledger.filterMap Begun.failure?).map (·.unit)).Perm
        ((ledger.map (·.plan)).map (·.destination.text)) := by
  induction ledger with
  | nil => exact .nil
  | cons begun rest ih =>
    cases hfault : begun.fate.fault? with
    | none =>
      simp only [List.filterMap_cons, Begun.written?, Begun.failure?, hfault, Option.map_none,
        List.map_cons, List.cons_append]
      exact ih.cons _
    | some fault =>
      simp only [List.filterMap_cons, Begun.written?, Begun.failure?, hfault, Option.map_some,
        List.map_cons]
      exact List.perm_middle.trans (ih.cons _)

/-- Every plan was written exactly if none failed and none is left. -/
theorem filterMap_written_eq_iff {writer : Writer σ} {plans : List Plan} {state : σ}
    {ledger : List Begun} (hledger : writer.IsLedger plans state ledger) :
    (ledger.filterMap Begun.written? = plans.map fun plan ↦ (plan.kind, plan.destination)) ↔
      ledger.filterMap Begun.failure? = [] ∧ ledger.length = plans.length := by
  have hlines := (perm_lines ledger).length_eq
  simp only [List.length_append, List.length_map] at hlines
  have hle := hledger.length_le
  constructor
  · intro hwritten
    have hlength := congrArg List.length hwritten
    rw [List.length_map] at hlength
    exact ⟨List.eq_nil_of_length_eq_zero (by omega), by omega⟩
  · rintro ⟨hfailures, hlength⟩
    have hwritten : ∀ begun ∈ ledger,
        begun.written? = some (begun.plan.kind, begun.plan.destination) := by
      intro begun hbegun
      have hnone := List.filterMap_eq_nil_iff.mp hfailures begun hbegun
      rw [Begun.failure?, Option.map_eq_none_iff] at hnone
      rw [Begun.written?, hnone]
    have hplans := hledger.plans_eq
    rw [hlength, List.take_length] at hplans
    rw [← hplans, List.map_map, List.filterMap_congr hwritten, List.filterMap_eq_map']
    rfl

/-- A flag that stays up is up exactly at the plans that are not begun. -/
theorem isCancelled_reach_iff
    (hstays : ∀ artifact state, writer.isCancelled state = true →
      writer.isCancelled (writer.write artifact state).2 = true)
    {plans : List Plan} {state : σ} {ledger : List Begun}
    (hledger : writer.IsLedger plans state ledger) {i : Nat} (hi : i < plans.length) :
    writer.isCancelled (writer.reach state (plans.take i)) = true ↔ ledger.length ≤ i := by
  have hstep : ∀ state plan, writer.isCancelled state = true →
      writer.isCancelled (writer.step state plan) = true := by
    intro state plan hcancelled
    rw [step]
    cases plan.render with
    | error fault => exact hcancelled
    | ok artifact => exact hstays artifact state hcancelled
  have hreach : ∀ plans state, writer.isCancelled state = true →
      writer.isCancelled (writer.reach state plans) = true := by
    intro plans
    induction plans with
    | nil => exact fun _ hcancelled ↦ hcancelled
    | cons plan rest ih => exact fun state hcancelled ↦ ih _ (hstep state plan hcancelled)
  constructor
  · intro hcancelled
    refine Nat.le_of_not_lt fun hbegun ↦ ?_
    rw [hledger.unseen i hbegun] at hcancelled
    exact Bool.false_ne_true hcancelled
  · intro hle
    have hseen := hledger.seen (Nat.lt_of_le_of_lt hle hi)
    -- What leads from the first plan that is not begun to this one keeps the flag up.
    have hsplit : plans.take i = plans.take ledger.length ++ (plans.take i).drop ledger.length := by
      conv => lhs; rw [← List.take_append_drop ledger.length (plans.take i)]
      rw [List.take_take, Nat.min_eq_left hle]
    rw [hsplit, reach, List.foldl_append]
    exact hreach _ _ hseen

/-- Without a plan that fails and leaves the writer as it was, the ledger lacks the line of this
plan and is otherwise the same. -/
theorem ledger_without {before after : List Plan} {failed : Plan} {state : σ}
    (hunchanged : writer.step (writer.reach state before) failed = writer.reach state before) :
    writer.ledger (before ++ after) state =
      (writer.ledger (before ++ failed :: after) state).eraseIdx before.length := by
  induction before generalizing state with
  | nil =>
    have hsame : writer.step state failed = state := hunchanged
    rw [List.nil_append, List.nil_append, ledger, hsame]
    cases hcancelled : writer.isCancelled state with
    | true => cases after <;> simp [ledger, hcancelled]
    | false => simp
  | cons plan rest ih =>
    rw [List.cons_append, List.cons_append, ledger, ledger]
    cases writer.isCancelled state with
    | true => rfl
    | false =>
      simp only [Bool.false_eq_true, if_false, List.length_cons, List.eraseIdx_cons_succ]
      rw [ih hunchanged]

end Writer

/-! ### Reports -/

namespace Prepared

theorem produce_eq (prepared : Prepared) (writer : Writer σ) (state : σ) :
    prepared.produce writer state =
      (⟨⟨(writer.ledger prepared.planning.plans state).filterMap Begun.written?,
        prepared.planning.failures ++
          (writer.ledger prepared.planning.plans state).filterMap Begun.failure?,
        decide ((writer.ledger prepared.planning.plans state).length <
          prepared.planning.plans.length)⟩, prepared.dependencies⟩,
        writer.reach state (prepared.planning.plans.take
          (writer.ledger prepared.planning.plans state).length)) := by
  rw [produce, Plan.renderAll_eq, Writer.writeAll_plans]

/-- The loop accounts for the plans it begins. These are the first ones, up to the first at which
the flag is seen to be up; each of them is written under its kind or has failed, in plan order and
behind what planning reports, and the writer is called for no other. The run counts as cancelled
exactly if a plan is left, and as a success exactly if nothing failed in planning and every plan was
written. A plan that fails takes nothing away from the others. A run that comes to these plans ends
with this report. -/
theorem produce_accounts_for_plans (prepared : Prepared) (writer : Writer σ) (state : σ) :
    let plans := prepared.planning.plans
    let ledger := writer.ledger plans state
    let report := (prepared.produce writer state).1
    writer.IsLedger plans state ledger ∧
    report.written = ledger.filterMap Begun.written? ∧
    report.failures = prepared.planning.failures ++ ledger.filterMap Begun.failure? ∧
    (report.written.map (·.2.text) ++ (ledger.filterMap Begun.failure?).map (·.unit)).Perm
      ((plans.take ledger.length).map (·.destination.text)) ∧
    prepared.produce writer.recorded (state, []) =
      (report, writer.reach state (plans.take ledger.length), ledger.filterMap Begun.artifact?) ∧
    (report.isCancelled = true ↔ ledger.length < plans.length) ∧
    (report.isSuccess = true ↔ prepared.planning.failures = [] ∧
      report.written = plans.map fun plan ↦ (plan.kind, plan.destination)) ∧
    ((∀ artifact state, writer.isCancelled state = true →
        writer.isCancelled (writer.write artifact state).2 = true) →
      ∀ i < plans.length,
        writer.isCancelled (writer.reach state (plans.take i)) = true ↔ ledger.length ≤ i) ∧
    (∀ begun ∈ ledger, begun.artifact? = begun.plan.render.toOption) ∧
    (∀ before failed after, plans = before ++ failed :: after →
      (∃ fault, failed.render = .error fault) ∨
        writer.step (writer.reach state before) failed = writer.reach state before →
      writer.ledger (before ++ after) state = ledger.eraseIdx before.length) ∧
    (∀ (project : Project) corpus answer prober start later,
      (project.prepare corpus prober).run answer start = ((.ok prepared, later), state) →
      project.generate corpus answer writer prober start =
        (.ok report, later, writer.reach state (plans.take ledger.length))) := by
  intro plans ledger report
  have hledger := writer.isLedger_ledger plans state
  have hreport : report = _ := congrArg Prod.fst (prepared.produce_eq writer state)
  have hlast : (prepared.produce writer state).2 =
      writer.reach state (plans.take ledger.length) :=
    congrArg Prod.snd (prepared.produce_eq writer state)
  refine ⟨hledger, by rw [hreport], by rw [hreport], ?_, ?_, by rw [hreport]; simp [ledger, plans],
    ?_, fun hstays i hi ↦ writer.isCancelled_reach_iff hstays hledger hi,
    fun begun ↦ hledger.artifact?_eq, fun before failed after hplans hfailed ↦ ?_,
    fun project corpus answer prober start later hrun ↦ ?_⟩
  · have hlines := Writer.perm_lines ledger
    rw [hledger.plans_eq] at hlines
    rw [hreport]
    exact hlines
  · rw [produce_recorded, Plan.renderAll_eq, Writer.calls_plans, List.nil_append, hlast]
  · rw [hreport, Writer.filterMap_written_eq_iff hledger]
    have hle := hledger.length_le
    simp only [Report.isSuccess, Bool.and_eq_true, List.isEmpty_iff, List.append_eq_nil_iff,
      Bool.not_eq_true', decide_eq_false_iff_not, Nat.not_lt, and_assoc]
    exact and_congr_right fun _ ↦ and_congr_right fun _ ↦
      ⟨fun hall ↦ Nat.le_antisymm hle hall, fun hall ↦ hall ▸ Nat.le_refl _⟩
  · have hunchanged : writer.step (writer.reach state before) failed =
        writer.reach state before := by
      rcases hfailed with ⟨fault, hrender⟩ | hunchanged
      · exact writer.step_of_unrendered _ hrender
      · exact hunchanged
    have hwithout : writer.ledger (before ++ after) state =
        (writer.ledger (before ++ failed :: after) state).eraseIdx before.length :=
      writer.ledger_without hunchanged
    rwa [← hplans] at hwithout
  · rw [Project.generate, hrun, ← hlast]

end Prepared

end Scaffold

import Scaffold.Proofs.Dependency.Decision

/-!
# Probing through a history of calls

A prober is called for one dependency after the other, and some of the calls fail. `Prober.after` is
the prober that a history of calls leaves behind in an environment, where the first of them meets a
prober that has found nothing. A call for a name that is held gives what is held and asks nothing;
any other call decides, and remembers what it finds (`answer_probe_of_cached`,
`answer_probe_of_fresh`). So what is held for a name was decided for the first dependency of that
name that came to a finding (`cached?_after`), and the whole history can be read off the decisions.

`probe_matches_history` says so for the outcomes of the calls, and that a prober is as good as none
where equal names come with equal dependencies.
-/

set_option autoImplicit false

namespace Scaffold.Prober

variable (environment : Environment)

/-! ### One call -/

section Call

variable {environment} {prober : Prober} {dependency : Dependency}

/-- A call for a name that is held gives what is held and asks nothing. -/
theorem answer_probe_of_cached {finding : Finding}
    (hcached : prober.cached? dependency.name = some finding) :
    (prober.probe dependency).answer environment = (.ok finding, prober) ∧
      (prober.probe dependency).questions environment = [] := by
  rw [probe, hcached]
  exact ⟨rfl, rfl⟩

/-- The prober with what a decision found, if it found anything. -/
def remember (prober : Prober) (name : String) : Except Fault Finding → Prober
  | .ok finding => ⟨prober.found.insert name finding⟩
  | .error _ => prober

/-- A call for any other name decides, asks what the decision asks, and remembers what it finds. -/
theorem answer_probe_of_fresh (hcached : prober.cached? dependency.name = none) :
    (prober.probe dependency).answer environment =
        (dependency.decision.answer environment,
          prober.remember dependency.name (dependency.decision.answer environment)) ∧
      (prober.probe dependency).questions environment =
        dependency.decision.questions environment := by
  rw [probe, hcached]
  constructor
  · simp only [Inquiry.answer_bind]
    cases dependency.decision.answer environment <;> rfl
  · simp only [Inquiry.questions, Dialogue.queries_bind]
    cases dependency.decision.result environment.answer <;> simp

end Call

/-! ### A history of calls -/

/-- The prober that calls for these dependencies leave behind. -/
def after (calls : List Dependency) : Prober :=
  calls.foldl (fun prober dependency ↦ ((prober.probe dependency).answer environment).2) empty

/-- What a call gives behind a history of others. -/
def outcome (past : List Dependency) (dependency : Dependency) : Except Fault Finding :=
  (((after environment past).probe dependency).answer environment).1

/-- What a call asks behind a history of others. -/
def asked (past : List Dependency) (dependency : Dependency) : List Question :=
  ((after environment past).probe dependency).questions environment

/-- What a decision finds for a dependency of this name. -/
def found? (name : String) (dependency : Dependency) : Option Finding :=
  if dependency.name = name then (dependency.decision.answer environment).toOption else none

theorem cached?_remember (prober : Prober) (name other : String)
    (decided : Except Fault Finding) :
    (prober.remember name decided).cached? other =
      if name = other then decided.toOption.or (prober.cached? other)
      else prober.cached? other := by
  cases decided with
  | error fault => simp [remember, Except.toOption]
  | ok finding => simp [remember, cached?, Except.toOption]

/-- A call keeps what is held, and adds what it finds. -/
theorem cached?_probe (prober : Prober) (dependency : Dependency) (name : String) :
    (((prober.probe dependency).answer environment).2).cached? name =
      (prober.cached? name).or (found? environment name dependency) := by
  cases hcached : prober.cached? dependency.name with
  | some finding =>
    rw [(answer_probe_of_cached hcached).1, found?]
    split
    · rename_i heq
      rw [← heq, hcached, Option.some_or]
    · rw [Option.or_none]
  | none =>
    rw [(answer_probe_of_fresh hcached).1, cached?_remember, found?]
    split
    · rename_i heq
      rw [← heq, hcached, Option.or_none, Option.none_or]
    · rw [Option.or_none]

/-- What is held for a name was found for the first dependency of that name that was found. -/
theorem cached?_after (calls : List Dependency) (name : String) :
    (after environment calls).cached? name = calls.findSome? (found? environment name) := by
  have hrun : ∀ prober : Prober,
      (calls.foldl (fun prober dependency ↦
        ((prober.probe dependency).answer environment).2) prober).cached? name =
        (prober.cached? name).or (calls.findSome? (found? environment name)) := by
    induction calls with
    | nil => simp
    | cons dependency rest ih =>
      intro prober
      rw [List.foldl_cons, ih, cached?_probe, List.findSome?_cons, Option.or_assoc]
      cases found? environment name dependency <;> simp
  rw [after, hrun]
  rfl

variable {environment} {past : List Dependency} {dependency : Dependency}

/-- Behind a history that holds nothing for its name a call is a decision. -/
theorem outcome_of_fresh (hcached : (after environment past).cached? dependency.name = none) :
    outcome environment past dependency = dependency.decision.answer environment := by
  rw [outcome, (answer_probe_of_fresh hcached).1]

theorem outcome_of_cached {finding : Finding}
    (hcached : (after environment past).cached? dependency.name = some finding) :
    outcome environment past dependency = .ok finding := by
  rw [outcome, (answer_probe_of_cached hcached).1]

theorem after_append (environment : Environment) (past : List Dependency)
    (dependency : Dependency) :
    after environment (past ++ [dependency]) =
      (((after environment past).probe dependency).answer environment).2 := by
  rw [after, List.foldl_append, List.foldl_cons, List.foldl_nil, after]

/-- A call that fails found nothing that is held, decided, and leaves the prober as it was. -/
theorem after_of_error {fault : Fault}
    (hfault : outcome environment past dependency = .error fault) :
    dependency.decision.answer environment = .error fault ∧
      (after environment past).cached? dependency.name = none ∧
      after environment (past ++ [dependency]) = after environment past := by
  cases hcached : (after environment past).cached? dependency.name with
  | some finding => simp [outcome_of_cached hcached] at hfault
  | none =>
    rw [outcome_of_fresh hcached] at hfault
    refine ⟨hfault, rfl, ?_⟩
    rw [after_append, (answer_probe_of_fresh hcached).1, hfault]
    rfl

/-! ### Calls that succeed -/

/-- The call was for a dependency of this name and came to a finding. -/
def Succeeds (environment : Environment) (name : String) (past : List Dependency)
    (dependency : Dependency) : Prop :=
  dependency.name = name ∧ ∃ finding, outcome environment past dependency = .ok finding

theorem found?_eq_some_iff {name : String} {finding : Finding} :
    found? environment name dependency = some finding ↔
      dependency.name = name ∧ dependency.decision.answer environment = .ok finding := by
  rw [found?]
  cases dependency.decision.answer environment <;> simp [Except.toOption]

/-- The first call of a history whose decision finds something for a name succeeds. -/
theorem succeeds_of_first {name : String} {finding : Finding}
    (hfound : found? environment name dependency = some finding)
    (hpast : ∀ other ∈ past, found? environment name other = none) :
    Succeeds environment name past dependency := by
  obtain ⟨rfl, hdecided⟩ := found?_eq_some_iff.mp hfound
  have hfresh : (after environment past).cached? dependency.name = none := by
    rw [cached?_after, List.findSome?_eq_none_iff]
    exact hpast
  exact ⟨rfl, finding, (outcome_of_fresh hfresh).trans hdecided⟩

/-- A name is held exactly behind a history in which a call for it came to a finding. -/
theorem isSome_cached?_after_iff {calls : List Dependency} {name : String} :
    ((after environment calls).cached? name).isSome = true ↔
      ∃ past dependency future, calls = past ++ dependency :: future ∧
        Succeeds environment name past dependency := by
  rw [cached?_after]
  constructor
  · intro hheld
    obtain ⟨finding, hheld⟩ := Option.isSome_iff_exists.mp hheld
    obtain ⟨past, dependency, future, hcalls, hfound, hpast⟩ :=
      List.findSome?_eq_some_iff.mp hheld
    exact ⟨past, dependency, future, hcalls, succeeds_of_first hfound hpast⟩
  · rintro ⟨past, dependency, future, rfl, rfl, finding, houtcome⟩
    rw [List.findSome?_append, List.findSome?_cons, ← cached?_after]
    cases hcached : (after environment past).cached? dependency.name with
    | some held => rfl
    | none =>
      rw [outcome_of_fresh hcached] at houtcome
      rw [found?_eq_some_iff.mpr ⟨rfl, houtcome⟩]
      rfl

/-- What is held for a name was decided for the first dependency of that name whose call came to a
finding. -/
theorem cached?_after_eq_some_iff {calls : List Dependency} {name : String} {finding : Finding} :
    (after environment calls).cached? name = some finding ↔
      ∃ past dependency future, calls = past ++ dependency :: future ∧
        Succeeds environment name past dependency ∧
        dependency.decision.answer environment = .ok finding ∧
        ∀ earlier other later, past = earlier ++ other :: later →
          ¬ Succeeds environment name earlier other := by
  have hnone : ∀ past : List Dependency, (∀ other ∈ past, found? environment name other = none) ↔
      ∀ earlier other later, past = earlier ++ other :: later →
        ¬ Succeeds environment name earlier other := by
    intro past
    rw [← List.findSome?_eq_none_iff, ← cached?_after, ← Option.not_isSome_iff_eq_none,
      isSome_cached?_after_iff]
    grind
  rw [cached?_after, List.findSome?_eq_some_iff]
  constructor
  · rintro ⟨past, dependency, future, hcalls, hfound, hpast⟩
    exact ⟨past, dependency, future, hcalls, succeeds_of_first hfound hpast,
      (found?_eq_some_iff.mp hfound).2, (hnone past).mp hpast⟩
  · rintro ⟨past, dependency, future, hcalls, ⟨hname, -⟩, hdecided, hpast⟩
    exact ⟨past, dependency, future, hcalls, found?_eq_some_iff.mpr ⟨hname, hdecided⟩,
      (hnone past).mpr hpast⟩

/-- Probing matches the decisions of its history. A name is held exactly if a call for it came to a
finding, and what is held was decided for the first dependency of that name whose call did. A call
for a name that is held gives what is held, asks nothing and changes nothing; every other call gives
what is decided and asks what the decision asks. A call that fails leaves the prober as it was, so a
later call for its name decides afresh. Where equal names come with equal dependencies, every call
gives what is decided. -/
theorem probe_matches_history (environment : Environment) :
    (∀ calls name, ((after environment calls).cached? name).isSome = true ↔
      ∃ past dependency future, calls = past ++ dependency :: future ∧
        Succeeds environment name past dependency) ∧
    (∀ calls name finding, (after environment calls).cached? name = some finding ↔
      ∃ past dependency future, calls = past ++ dependency :: future ∧
        Succeeds environment name past dependency ∧
        dependency.decision.answer environment = .ok finding ∧
        ∀ earlier other later, past = earlier ++ other :: later →
          ¬ Succeeds environment name earlier other) ∧
    (∀ past dependency finding,
      (after environment past).cached? dependency.name = some finding →
        outcome environment past dependency = .ok finding ∧
        asked environment past dependency = [] ∧
        after environment (past ++ [dependency]) = after environment past) ∧
    (∀ past dependency, (after environment past).cached? dependency.name = none →
      outcome environment past dependency = dependency.decision.answer environment ∧
      asked environment past dependency = dependency.decision.questions environment) ∧
    (∀ past dependency fault, outcome environment past dependency = .error fault →
      after environment (past ++ [dependency]) = after environment past ∧
      (after environment (past ++ [dependency])).cached? dependency.name = none) ∧
    (∀ calls, (∀ first ∈ calls, ∀ second ∈ calls, first.name = second.name → first = second) →
      ∀ past dependency future, calls = past ++ dependency :: future →
        outcome environment past dependency = dependency.decision.answer environment) := by
  refine ⟨fun _ _ ↦ isSome_cached?_after_iff, fun _ _ _ ↦ cached?_after_eq_some_iff,
    fun past dependency finding hcached ↦ ?_, fun past dependency hcached ↦ ?_,
    fun past dependency fault hfault ↦ ?_, fun calls hsame past dependency future hcalls ↦ ?_⟩
  · refine ⟨outcome_of_cached hcached, (answer_probe_of_cached hcached).2, ?_⟩
    rw [after_append, (answer_probe_of_cached hcached).1]
  · exact ⟨outcome_of_fresh hcached, (answer_probe_of_fresh hcached).2⟩
  · obtain ⟨-, hcached, hafter⟩ := after_of_error hfault
    rw [hafter]
    exact ⟨rfl, hcached⟩
  · cases hcached : (after environment past).cached? dependency.name with
    | none => exact outcome_of_fresh hcached
    | some finding =>
      obtain ⟨earlier, other, later, rfl, ⟨hname, -⟩, hdecided, -⟩ :=
        cached?_after_eq_some_iff.mp hcached
      have hother : other = dependency := by
        refine hsame other ?_ dependency ?_ hname <;> simp [hcalls]
      rw [outcome_of_cached hcached, ← hother, hdecided]

end Scaffold.Prober

import Mathlib.Data.List.Forall2
import Scaffold.Proofs.Dependency.History
import Scaffold.Proofs.Dialogue
import Scaffold.Proofs.Fault

/-!
# Probing one dependency after the other

A decision fails for an override with a path, or for a library that is required on the system, and
probing fails as a decision does (`probe_ends`, `probeAll_ends`): whatever the questions are
answered, no error of another stage comes up.

There are two passes over a list. `probeUntil` keeps what was found before a failure and `probeAll`
does not, but they go in lockstep (`probeUntil_lockstep`): they ask the same, and what the one comes
to can be read off the other. In an environment the list has a `Course`, said by decisions alone,
and where names do not recur both passes follow it (`Course.probeUntil_eq`, `Course.probeAll_eq`):
nothing is asked about a dependency behind the first that fails. So a prober that holds none of
their names is as good as none (`answer_probeAll_eq_ok_iff`).
-/

set_option autoImplicit false

namespace Scaffold

namespace Dependency

theorem decidePath_ends (dependency : Dependency) (path : Path) :
    (dependency.decidePath path).Ends (FailsOnly .probing) := by
  refine Dialogue.ends_bind_of_forall _ fun isThere ↦ ?_
  cases isThere with
  | false => trivial
  | true =>
    refine Dialogue.ends_bind_of_forall _ fun isUsable ↦ ?_
    cases isUsable <;> trivial

theorem decideSystem_ends (dependency : Dependency) (isRequired : Bool) :
    (dependency.decideSystem isRequired).Ends (FailsOnly .probing) := by
  refine Dialogue.ends_bind_of_forall _ fun package ↦ ?_
  cases package with
  | some finding => trivial
  | none =>
    refine Dialogue.ends_bind_of_forall _ fun manual ↦ ?_
    cases manual with
    | some finding => trivial
    | none => cases isRequired <;> trivial

/-- A decision ends with a finding or an error of probing, whatever is answered. -/
theorem decision_ends (dependency : Dependency) :
    dependency.decision.Ends (FailsOnly .probing) := by
  rw [decision]
  cases dependency.override with
  | path path => exact dependency.decidePath_ends path
  | disabled => trivial
  | auto => exact dependency.decideSystem_ends false
  | required => exact dependency.decideSystem_ends true

end Dependency

namespace Prober

theorem probe_ends (prober : Prober) (dependency : Dependency) :
    (prober.probe dependency).Ends fun answer ↦ FailsOnly .probing answer.1 := by
  rw [probe]
  cases prober.cached? dependency.name with
  | some finding => trivial
  | none =>
    refine Dialogue.ends_bind.mpr (dependency.decision_ends.mono fun decided hdecided ↦ ?_)
    cases decided with
    | ok finding => trivial
    | error fault => exact hdecided

/-- Probing a list ends with its findings or an error of probing, whatever is answered. -/
theorem probeAll_ends (prober : Prober) (dependencies : List Dependency) :
    (prober.probeAll dependencies).Ends fun answer ↦ FailsOnly .probing answer.1 := by
  induction dependencies generalizing prober with
  | nil => trivial
  | cons dependency rest ih =>
    refine Dialogue.ends_bind.mpr ((prober.probe_ends dependency).mono fun probed hprobed ↦ ?_)
    rcases probed with ⟨fault | finding, later⟩
    · exact hprobed
    · refine Dialogue.ends_bind.mpr ((ih later).mono fun answer hanswer ↦ ?_)
      rcases answer with ⟨fault | resolved, last⟩
      · exact hanswer
      · trivial

/-- What probing a list ends with is for the dependencies of the list. -/
theorem probeAll_dependencies (prober : Prober) (dependencies : List Dependency) :
    (prober.probeAll dependencies).Ends fun answer ↦
      ∀ resolved, answer.1 = .ok resolved → resolved.map (·.dependency) = dependencies := by
  induction dependencies generalizing prober with
  | nil =>
    intro resolved hresolved
    rw [← Except.ok.inj hresolved, List.map_nil]
  | cons dependency rest ih =>
    refine Dialogue.ends_bind_of_forall _ fun probed ↦ ?_
    rcases probed with ⟨fault | finding, later⟩
    · exact fun resolved hresolved ↦ nomatch hresolved
    · refine Dialogue.ends_bind.mpr ((ih later).mono fun answer hanswer ↦ ?_)
      rcases answer with ⟨fault | others, last⟩
      · exact fun resolved hresolved ↦ nomatch hresolved
      · intro resolved hresolved
        rw [← Except.ok.inj hresolved, List.map_cons, hanswer others rfl]

/-! ### Two passes -/

/-- The result of a pass that keeps nothing of what was found before a failure. -/
def passed (resolved : List Resolved) : Option Fault → Except Fault (List Resolved)
  | none => .ok resolved
  | some fault => .error fault

/-- The pass that keeps what was found before a failure and the one that does not go in lockstep. -/
theorem probeUntil_lockstep (prober : Prober) (dependencies : List Dependency) :
    (prober.probeUntil dependencies).Lockstep
      (fun kept whole ↦ whole = (passed kept.1 kept.2.1, kept.2.2))
      (prober.probeAll dependencies) := by
  induction dependencies generalizing prober with
  | nil => exact .done rfl
  | cons dependency rest ih =>
    refine Dialogue.lockstep_bind _ fun probed ↦ ?_
    rcases probed with ⟨fault | finding, later⟩
    · exact .done rfl
    · refine (ih later).bind fun kept whole hwhole ↦ ?_
      subst hwhole
      obtain ⟨resolved, fault?, last⟩ := kept
      cases fault? <;> exact .done rfl

/-! ### The course of a list -/

/-- What is found for a dependency is what is decided for it. -/
def IsDecidedAs (environment : Environment) (dependency : Dependency) (resolved : Resolved) :
    Prop :=
  resolved.dependency = dependency ∧
    dependency.decision.answer environment = .ok resolved.finding

/-- How dependencies are gone through one after the other: each of them is found, or the first that
fails is the last that is asked about. -/
inductive Course (environment : Environment) :
    (dependencies asked : List Dependency) → List Resolved → Option Fault → Prop
  | found {dependencies : List Dependency} {resolved : List Resolved}
      (hfound : List.Forall₂ (IsDecidedAs environment) dependencies resolved) :
      Course environment dependencies dependencies resolved none
  | stopped {before : List Dependency} (dependency : Dependency) (after : List Dependency)
      {resolved : List Resolved} {fault : Fault}
      (hbefore : List.Forall₂ (IsDecidedAs environment) before resolved)
      (hfault : dependency.decision.answer environment = .error fault) :
      Course environment (before ++ dependency :: after) (before ++ [dependency]) resolved
        (some fault)

variable {environment : Environment}

/-- A dependency that is found stands before the course of the others. -/
theorem Course.cons {dependencies asked : List Dependency} {resolved : List Resolved}
    {fault? : Option Fault} (hcourse : Course environment dependencies asked resolved fault?)
    {dependency : Dependency} {first : Resolved}
    (hfirst : IsDecidedAs environment dependency first) :
    Course environment (dependency :: dependencies) (dependency :: asked) (first :: resolved)
      fault? := by
  cases hcourse with
  | found hfound => exact .found (.cons hfirst hfound)
  | stopped last after hbefore hfault =>
    exact .stopped last after (.cons hfirst hbefore) hfault

/-- There is always a course. -/
theorem exists_course (environment : Environment) (dependencies : List Dependency) :
    ∃ asked resolved fault?, Course environment dependencies asked resolved fault? := by
  induction dependencies with
  | nil => exact ⟨[], [], none, .found .nil⟩
  | cons dependency rest ih =>
    cases hdecided : dependency.decision.answer environment with
    | error fault => exact ⟨_, _, _, .stopped dependency rest .nil hdecided⟩
    | ok finding =>
      obtain ⟨asked, resolved, fault?, hcourse⟩ := ih
      have hfirst : IsDecidedAs environment dependency ⟨dependency, finding⟩ := ⟨rfl, hdecided⟩
      exact ⟨_, _, _, hcourse.cons hfirst⟩

/-! ### Passes that follow the course -/

variable {prober : Prober} {dependency : Dependency}

/-- A pass ends with a dependency that fails. -/
theorem probeUntil_cons_of_error {fault : Fault}
    (hfresh : prober.cached? dependency.name = none)
    (hfault : dependency.decision.answer environment = .error fault) (rest : List Dependency) :
    (prober.probeUntil (dependency :: rest)).answer environment = ([], some fault, prober) ∧
      (prober.probeUntil (dependency :: rest)).questions environment =
        dependency.decision.questions environment := by
  obtain ⟨hanswer, hquestions⟩ := @answer_probe_of_fresh environment _ _ hfresh
  rw [hfault] at hanswer
  constructor
  · rw [probeUntil, Inquiry.answer_bind, hanswer]
    rfl
  · rw [probeUntil, Inquiry.questions_bind, hquestions, hanswer]
    exact List.append_nil _

/-- A pass goes on behind a dependency that is found, with a prober that remembers it. -/
theorem probeUntil_cons_of_ok {finding : Finding}
    (hfresh : prober.cached? dependency.name = none)
    (hfound : dependency.decision.answer environment = .ok finding) (rest : List Dependency) :
    let later := prober.remember dependency.name (.ok finding)
    (prober.probeUntil (dependency :: rest)).answer environment =
        (⟨dependency, finding⟩ :: ((later.probeUntil rest).answer environment).1,
          ((later.probeUntil rest).answer environment).2) ∧
      (prober.probeUntil (dependency :: rest)).questions environment =
        dependency.decision.questions environment ++
          (later.probeUntil rest).questions environment := by
  intro later
  obtain ⟨hanswer, hquestions⟩ := @answer_probe_of_fresh environment _ _ hfresh
  rw [hfound] at hanswer
  constructor
  · rw [probeUntil, Inquiry.answer_bind, hanswer]
    exact Inquiry.answer_bind environment _ _
  · rw [probeUntil, Inquiry.questions_bind, hquestions, hanswer]
    refine congrArg (dependency.decision.questions environment ++ ·) ?_
    exact (Inquiry.questions_bind environment _ _).trans (List.append_nil _)

/-- A pass over names of their own goes through the dependencies that are found, and on from there
with a prober that holds none of the others. -/
theorem probeUntil_append {before : List Dependency} {resolved : List Resolved}
    (hbefore : List.Forall₂ (IsDecidedAs environment) before resolved) (after : List Dependency)
    (prober : Prober) (hdistinct : ((before ++ after).map (·.name)).Nodup)
    (hfresh : ∀ dependency ∈ before ++ after, prober.cached? dependency.name = none) :
    ∃ later : Prober, (∀ dependency ∈ after, later.cached? dependency.name = none) ∧
      (prober.probeUntil (before ++ after)).answer environment =
        (resolved ++ ((later.probeUntil after).answer environment).1,
          ((later.probeUntil after).answer environment).2) ∧
      (prober.probeUntil (before ++ after)).questions environment =
        before.flatMap (·.decision.questions environment) ++
          (later.probeUntil after).questions environment := by
  induction hbefore generalizing prober with
  | nil => exact ⟨prober, hfresh, rfl, rfl⟩
  | @cons dependency first rest others hfirst _ ih =>
    obtain ⟨found, finding⟩ := first
    obtain ⟨rfl, hfound⟩ : found = dependency ∧
      dependency.decision.answer environment = .ok finding := hfirst
    rw [List.cons_append, List.map_cons, List.nodup_cons] at hdistinct
    -- What is remembered has the name of the first dependency, which no other has.
    have hothers : ∀ other ∈ rest ++ after,
        (prober.remember found.name (.ok finding)).cached? other.name = none := by
      intro other hother
      have hname : found.name ≠ other.name := fun heq ↦
        hdistinct.1 (heq ▸ List.mem_map_of_mem hother)
      rw [cached?_remember, if_neg hname]
      exact hfresh other (List.mem_cons_of_mem _ hother)
    obtain ⟨later, hlater, hanswer, hquestions⟩ := ih _ hdistinct.2 hothers
    obtain ⟨hwhole, hasked⟩ :=
      probeUntil_cons_of_ok (hfresh found List.mem_cons_self) hfound (rest ++ after)
    refine ⟨later, hlater, ?_, ?_⟩
    · rw [List.cons_append, hwhole, hanswer]
      rfl
    · rw [List.cons_append, hasked, hquestions, List.flatMap_cons, List.append_assoc]

variable {dependencies asked : List Dependency} {resolved : List Resolved} {fault? : Option Fault}

/-- A pass over names of their own follows their course. -/
theorem Course.probeUntil_eq (hcourse : Course environment dependencies asked resolved fault?)
    (hdistinct : (dependencies.map (·.name)).Nodup)
    (hfresh : ∀ dependency ∈ dependencies, prober.cached? dependency.name = none) :
    (∃ later, (prober.probeUntil dependencies).answer environment = (resolved, fault?, later)) ∧
      (prober.probeUntil dependencies).questions environment =
        asked.flatMap (·.decision.questions environment) := by
  cases hcourse with
  | found hfound =>
    rw [← List.append_nil dependencies] at hdistinct hfresh
    obtain ⟨later, -, hanswer, hquestions⟩ := probeUntil_append hfound [] prober hdistinct hfresh
    rw [List.append_nil] at hanswer hquestions
    refine ⟨⟨later, hanswer.trans ?_⟩, hquestions.trans (List.append_nil _)⟩
    rw [probeUntil, Inquiry.answer_pure, List.append_nil]
  | stopped dependency after hbefore hfault =>
    obtain ⟨later, hlater, hanswer, hquestions⟩ :=
      probeUntil_append hbefore (dependency :: after) prober hdistinct hfresh
    obtain ⟨hlast, hasked⟩ :=
      probeUntil_cons_of_error (hlater dependency List.mem_cons_self) hfault after
    rw [hlast, List.append_nil] at hanswer
    rw [hasked] at hquestions
    refine ⟨⟨later, hanswer⟩, hquestions.trans ?_⟩
    rw [List.flatMap_append, List.flatMap_singleton]

/-- So does the pass that keeps nothing of what was found before a failure. -/
theorem Course.probeAll_eq (hcourse : Course environment dependencies asked resolved fault?)
    (hdistinct : (dependencies.map (·.name)).Nodup)
    (hfresh : ∀ dependency ∈ dependencies, prober.cached? dependency.name = none) :
    ((prober.probeAll dependencies).answer environment).1 = passed resolved fault? ∧
      (prober.probeAll dependencies).questions environment =
        asked.flatMap (·.decision.questions environment) := by
  obtain ⟨⟨later, hkept⟩, hquestions⟩ := hcourse.probeUntil_eq hdistinct hfresh
  obtain ⟨hsame, hwhole⟩ := (probeUntil_lockstep prober dependencies).result environment.answer
  rw [Inquiry.answer] at hkept
  rw [hkept] at hwhole
  exact ⟨congrArg Prod.fst hwhole, hsame.symm.trans hquestions⟩

/-! ### Passes that find everything -/

/-- What is decided for a dependency, together with the dependency. -/
def resolution (environment : Environment) (dependency : Dependency) : Except Fault Resolved :=
  (dependency.decision.answer environment).map (Resolved.mk dependency)

theorem isDecidedAs_iff {found : Resolved} :
    IsDecidedAs environment dependency found ↔ resolution environment dependency = .ok found := by
  obtain ⟨other, finding⟩ := found
  rw [IsDecidedAs, resolution]
  cases dependency.decision.answer environment with
  | error fault => simp [Except.map]
  | ok decided => simp [Except.map, eq_comm]

theorem forall₂_isDecidedAs_iff :
    List.Forall₂ (IsDecidedAs environment) dependencies resolved ↔
      dependencies.map (resolution environment) = resolved.map .ok := by
  rw [← List.forall₂_eq_eq_eq, List.forall₂_map_left_iff, List.forall₂_map_right_iff]
  exact ⟨.imp fun _ _ ↦ isDecidedAs_iff.mp, .imp fun _ _ ↦ isDecidedAs_iff.mpr⟩

/-- A prober that holds none of their names is as good as none for dependencies with names of their
own: they are probed exactly with what is decided for each. -/
theorem answer_probeAll_eq_ok_iff (hdistinct : (dependencies.map (·.name)).Nodup)
    (hfresh : ∀ dependency ∈ dependencies, prober.cached? dependency.name = none) :
    ((prober.probeAll dependencies).answer environment).1 = .ok resolved ↔
      dependencies.map (resolution environment) = resolved.map .ok := by
  obtain ⟨asked, found, fault?, hcourse⟩ := exists_course environment dependencies
  rw [(hcourse.probeAll_eq hdistinct hfresh).1]
  cases hcourse with
  | found hfound =>
    have hinjective : Function.Injective (List.map (.ok : Resolved → Except Fault Resolved)) :=
      List.map_injective_iff.mpr fun _ _ ↦ Except.ok.inj
    rw [forall₂_isDecidedAs_iff.mp hfound, hinjective.eq_iff, passed, Except.ok.injEq]
  | stopped last after hbefore hfault =>
    -- What failed is among the decisions, but nothing that was found is a failure.
    refine iff_of_false nofun fun hall ↦ ?_
    have hlast : resolution environment last ∈ resolved.map .ok :=
      hall ▸ List.mem_map_of_mem (by simp)
    obtain ⟨found, -, hfound⟩ := List.mem_map.mp hlast
    simp [resolution, hfault, Except.map] at hfound

end Prober

end Scaffold

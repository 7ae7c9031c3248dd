import Mathlib.Logic.Relation
import Scaffold.Proofs.Artifact.Rendering

/-!
# Rendering in any order

Plans may be rendered at the same time. `Pool` is where such a rendering stands: the tasks that
still run, the results that wait to be collected, and those that were collected. A step ends one of
the tasks or collects one of the results (`Pool.Step`), and which one is left open, so a run is any
interleaving of the two.

A step neither loses nor doubles a result (`Pool.Step.perm_results`), and so neither does a run
(`Pool.Reaches.perm_results`). A pool that is not done can go on (`Pool.exists_step`), with less to
do after each step (`Pool.Step.remaining_lt`). What was collected in the end is a permutation of the
tasks, and each permutation comes up in some run (`Pool.reaches_of_perm`); put back into the order
of the plans, it does not tell which one it was (`rendering_ignores_schedule`).
-/

set_option autoImplicit false

namespace Scaffold.Plan

/-- What is rendered for a plan, with the number and the destination of the plan. -/
abbrev Result := Nat × (Path × Except Fault Artifact)

/-- The renderings of numbered plans: those that run, the results of those that have ended, and the
results collected so far, in the order in which they were. -/
structure Pool where
  running : List (Plan × Nat)
  ended : List Result
  collected : List Result

namespace Pool

/-- What a numbered plan comes to. -/
def resultOf (task : Plan × Nat) : Result :=
  (task.2, (task.1.destination, task.1.render))

/-- All plans run, with their numbers. -/
def start (plans : List Plan) : Pool :=
  ⟨plans.zipIdx, [], []⟩

/-- One of the running tasks ends, or one of the results that wait is collected. -/
inductive Step : Pool → Pool → Prop
  | finish (before after : List (Plan × Nat)) (task : Plan × Nat) (ended collected : List Result) :
      Step ⟨before ++ task :: after, ended, collected⟩
        ⟨before ++ after, resultOf task :: ended, collected⟩
  | collect (running : List (Plan × Nat)) (before after : List Result) (result : Result)
      (collected : List Result) :
      Step ⟨running, before ++ result :: after, collected⟩
        ⟨running, before ++ after, collected ++ [result]⟩

/-- The second pool comes after the first in some run. -/
def Reaches : Pool → Pool → Prop :=
  Relation.ReflTransGen Step

/-- Nothing runs and nothing waits. -/
def IsDone (pool : Pool) : Prop :=
  pool.running = [] ∧ pool.ended = []

/-- The results of a pool: those collected, those that wait, and those that are to come. -/
def results (pool : Pool) : List Result :=
  pool.collected ++ (pool.ended ++ pool.running.map resultOf)

/-- The number of steps that are left. -/
def remaining (pool : Pool) : Nat :=
  2 * pool.running.length + pool.ended.length

theorem results_start (plans : List Plan) : (start plans).results = tasks plans :=
  rfl

/-- The results of a pool that is done are collected. -/
theorem results_of_isDone {pool : Pool} (hdone : pool.IsDone) : pool.results = pool.collected := by
  rw [results, hdone.1, hdone.2, List.map_nil, List.append_nil, List.append_nil]

/-! ### Steps -/

/-- A step neither loses nor doubles a result. -/
theorem Step.perm_results {pool next : Pool} (hstep : pool.Step next) :
    next.results.Perm pool.results := by
  cases hstep with
  | finish before after task ended collected =>
    have hmiddle := @List.perm_middle _ (resultOf task) (ended ++ before.map resultOf)
      (after.map resultOf)
    exact List.Perm.append_left collected (by simpa using hmiddle.symm)
  | collect running before after result collected =>
    have hmiddle := @List.perm_middle _ result before (after ++ running.map resultOf)
    have hkept := List.Perm.append_left collected hmiddle.symm
    simpa [results] using hkept

/-- A step leaves less to do. -/
theorem Step.remaining_lt {pool next : Pool} (hstep : pool.Step next) :
    next.remaining < pool.remaining := by
  cases hstep <;> simp only [remaining, List.length_append, List.length_cons] <;> omega

/-- A pool that is not done can go on. -/
theorem exists_step {pool : Pool} (hdone : ¬ pool.IsDone) : ∃ next, pool.Step next := by
  obtain ⟨running, ended, collected⟩ := pool
  cases running with
  | cons task running => exact ⟨_, .finish [] running task ended collected⟩
  | nil =>
    cases ended with
    | cons result ended => exact ⟨_, .collect [] [] ended result collected⟩
    | nil => exact absurd ⟨rfl, rfl⟩ hdone

/-! ### Runs -/

/-- A run neither loses nor doubles a result. -/
theorem Reaches.perm_results {pool last : Pool} (hreaches : pool.Reaches last) :
    last.results.Perm pool.results := by
  induction hreaches with
  | refl => exact .refl _
  | tail _ hstep ih => exact hstep.perm_results.trans ih

/-- What was collected in the end is a permutation of the tasks. -/
theorem perm_collected {plans : List Plan} {pool : Pool} (hreaches : (start plans).Reaches pool)
    (hdone : pool.IsDone) : pool.collected.Perm (tasks plans) := by
  rw [← results_of_isDone hdone, ← results_start]
  exact hreaches.perm_results

/-- The tasks may all end before the first result is collected. -/
theorem reaches_ended (running : List (Plan × Nat)) (ended collected : List Result) :
    Reaches ⟨running, ended, collected⟩
      ⟨[], (running.map resultOf).reverse ++ ended, collected⟩ := by
  induction running generalizing ended with
  | nil => exact .refl
  | cons task running ih =>
    have hrest := ih (resultOf task :: ended)
    rw [List.map_cons, List.reverse_cons, List.append_assoc]
    exact .head (.finish [] running task ended collected) hrest

/-- The results that wait may be collected in any order. -/
theorem reaches_collected {order ended : List Result} (hperm : order.Perm ended)
    (collected : List Result) :
    Reaches ⟨[], ended, collected⟩ ⟨[], [], collected ++ order⟩ := by
  induction order generalizing ended collected with
  | nil =>
    rw [← hperm.nil_eq, List.append_nil]
    exact .refl
  | cons result order ih =>
    obtain ⟨before, after, rfl⟩ := List.append_of_mem (hperm.mem_iff.mp List.mem_cons_self)
    have hrest := ih (hperm.trans List.perm_middle).cons_inv (collected ++ [result])
    rw [List.append_assoc] at hrest
    exact .head (.collect [] before after result collected) hrest

/-- Every permutation of the tasks is collected in some run. -/
theorem reaches_of_perm {plans : List Plan} {order : List Result}
    (hperm : order.Perm (tasks plans)) :
    (start plans).Reaches ⟨[], [], order⟩ := by
  have hended := reaches_ended plans.zipIdx [] []
  rw [List.append_nil] at hended
  have hcollected := reaches_collected (hperm.trans (List.reverse_perm (tasks plans)).symm) []
  exact hended.trans hcollected

end Pool

/-- Rendering does not depend on the schedule. In whatever order the renderings of the plans end,
and in whatever order their results are collected, once they are put back the results are those of
the plans one after the other, each with the destination of its plan. Every run comes to its end,
and every order of the results comes up in some run. -/
theorem rendering_ignores_schedule (plans : List Plan) :
    (∀ finished : List Result, finished.Perm (tasks plans) →
      inPlanOrder finished = plans.map fun plan ↦ (plan.destination, plan.render)) ∧
    (∀ pool, (Pool.start plans).Reaches pool → pool.IsDone →
      inPlanOrder pool.collected = plans.map fun plan ↦ (plan.destination, plan.render)) ∧
    (∀ pool : Pool, ¬ pool.IsDone → ∃ next, pool.Step next) ∧
    (∀ pool next : Pool, pool.Step next → next.remaining < pool.remaining) ∧
    (∀ finished : List Result, finished.Perm (tasks plans) →
      ∃ pool, (Pool.start plans).Reaches pool ∧ pool.IsDone ∧ pool.collected = finished) ∧
    renderAll plans = plans.map fun plan ↦ (plan.destination, plan.render) :=
  ⟨fun _ ↦ inPlanOrder_of_perm,
    fun _ hreaches hdone ↦ inPlanOrder_of_perm (Pool.perm_collected hreaches hdone),
    fun _ ↦ Pool.exists_step, fun _ _ hstep ↦ hstep.remaining_lt,
    fun finished hperm ↦ ⟨⟨[], [], finished⟩, Pool.reaches_of_perm hperm, ⟨rfl, rfl⟩, rfl⟩,
    renderAll_eq plans⟩

end Scaffold.Plan

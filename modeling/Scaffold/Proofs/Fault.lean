import Scaffold.Fault

/-!
# Where errors come from

The errors of a run are sorted by the stage that raises them (`Fault.stage?`). Probing and planning
end the run, rendering and writing spoil one artifact, and this is what `Fault.stopsRun` says
(`Fault.stopsRun_eq`). Three errors belong to no stage: a run does not raise them.

`FailsOnly` says that a computation raises no errors but those of a stage; it goes through
sequencing (`FailsOnly.bind`). A sequence goes through if each part of it does (`bind_eq_ok_iff`,
`unless_throw_eq_ok_iff`).
-/

set_option autoImplicit false

namespace Scaffold

/-- The stages of a run. -/
inductive Stage
  | probing
  | planning
  | rendering
  | writing
  deriving DecidableEq, Repr

/-- An error of the stage ends the run. -/
def Stage.endsRun : Stage → Bool
  | probing | planning => true
  | rendering | writing => false

/-- The stage that raises an error. -/
def Fault.stage? : Fault → Option Stage
  | pathNotFound .. | overrideUnusable .. | requiredMissing .. => some .probing
  | missingTemplate .. | duplicateDestination .. => some .planning
  | unresolvedToken .. => some .rendering
  | writeFailure .. => some .writing
  | malformedTemplate .. | derivationCycle .. | conflictingToken .. => none

/-- An error stops the run exactly when its stage ends the run. -/
theorem Fault.stopsRun_eq {fault : Fault} {stage : Stage} (hstage : fault.stage? = some stage) :
    fault.stopsRun = stage.endsRun := by
  cases fault <;> cases hstage <;> rfl

/-- The errors that a computation may raise are those of a stage. -/
def FailsOnly {α : Type} (stage : Stage) : Except Fault α → Prop
  | .ok _ => True
  | .error fault => fault.stage? = some stage

section FailsOnly

variable {α β : Type} {stage : Stage}

theorem failsOnly_iff {answer : Except Fault α} :
    FailsOnly stage answer ↔ ∀ fault, answer = .error fault → fault.stage? = some stage := by
  cases answer <;> simp [FailsOnly]

theorem FailsOnly.bind {first : Except Fault α} {next : α → Except Fault β}
    (hfirst : FailsOnly stage first) (hnext : ∀ outcome, FailsOnly stage (next outcome)) :
    FailsOnly stage (first >>= next) := by
  cases first with
  | ok outcome => exact hnext outcome
  | error fault => exact hfirst

end FailsOnly

/-! ### Sequences that go through -/

/-- A sequence goes through if its first part does and then the rest. -/
theorem bind_eq_ok_iff {ε α β : Type} {first : Except ε α} {next : α → Except ε β} {outcome : β} :
    first >>= next = .ok outcome ↔ ∃ value, first = .ok value ∧ next value = .ok outcome := by
  cases first <;> simp [bind, Except.bind]

/-- A check that throws goes through if its condition fails and then the rest. -/
theorem unless_throw_eq_ok_iff {ε α : Type} {condition : Prop} [Decidable condition] {error : ε}
    {next : Unit → Except ε α} {outcome : α} :
    (if condition then throw error >>= next else next ()) = .ok outcome ↔
      ¬condition ∧ next () = .ok outcome := by
  split <;> simp_all [throw, throwThe, MonadExceptOf.throw, bind, Except.bind]

end Scaffold

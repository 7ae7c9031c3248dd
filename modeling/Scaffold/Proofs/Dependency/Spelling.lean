import Scaffold.Dependency.Decision
import Scaffold.Proofs.Dialogue
import Scaffold.Proofs.Text.Cutting
import Scaffold.Proofs.Token.Table

/-!
# Two spellings of a dependency

A dependency may be named with or without its leading `lib`. The two are spellings of each other
(`Respells`): the linker knows them by the same name, and all that is derived from a dependency is
derived from that name and from what was set for it.

So the decisions of both go in lockstep (`Respells.decision_lockstep`), in an environment of any
kind. The name that was given shows in two places only, the errors (`AnswersAlike`) and one of the
tokens (`Dependency.decision_ignores_spelling`).
-/

set_option autoImplicit false

namespace Scaffold.Dependency

/-- The dependency under another name. -/
def named (dependency : Dependency) (name : String) : Dependency :=
  { dependency with name }

/-- Two dependencies are spellings of each other: they are known to the linker by the same name, and
all else about them is the same. -/
structure Respells (first second : Dependency) : Prop where
  linkName_eq : second.linkName = first.linkName
  named_eq : second.named first.name = first

/-- A name and the same name with `lib` before it are spellings of each other. -/
theorem respells_named (dependency : Dependency) {name : String}
    (hname : ∀ rest, name ≠ "lib" ++ rest) :
    Respells (dependency.named name) (dependency.named ("lib" ++ name)) where
  linkName_eq := by
    rw [linkName, linkName, named, named, Text.dropStem_append, Text.dropStem_of_ne hname]
  named_eq := rfl

/-- Two decisions come to the same finding, or fail for the same reason: their errors differ in the
name of the dependency alone. -/
inductive AnswersAlike (firstName secondName : String) :
    Except Fault Finding → Except Fault Finding → Prop
  | found (finding : Finding) : AnswersAlike firstName secondName (.ok finding) (.ok finding)
  | pathNotFound (path : Path) :
      AnswersAlike firstName secondName (.error (.pathNotFound firstName path))
        (.error (.pathNotFound secondName path))
  | overrideUnusable (path : Path) :
      AnswersAlike firstName secondName (.error (.overrideUnusable firstName path))
        (.error (.overrideUnusable secondName path))
  | requiredMissing :
      AnswersAlike firstName secondName (.error (.requiredMissing firstName))
        (.error (.requiredMissing secondName))

variable {first second : Dependency}

/-! ### What spellings have in common -/

theorem Respells.libraryId_eq (hrespells : Respells first second) :
    second.libraryId = first.libraryId := by
  rw [libraryId, libraryId, hrespells.linkName_eq]

theorem Respells.minVersion_eq (hrespells : Respells first second) :
    second.minVersion = first.minVersion := by
  rw [← hrespells.named_eq, named]

theorem Respells.override_eq (hrespells : Respells first second) :
    second.override = first.override := by
  rw [← hrespells.named_eq, named]

theorem Respells.header_eq (hrespells : Respells first second) : second.header = first.header := by
  rw [header, header, hrespells.libraryId_eq, ← hrespells.named_eq, named]

theorem Respells.symbol_eq (hrespells : Respells first second) : second.symbol = first.symbol := by
  rw [symbol, symbol, hrespells.libraryId_eq, ← hrespells.named_eq, named]

theorem Respells.linkFlag_eq (hrespells : Respells first second) :
    second.linkFlag = first.linkFlag := by
  rw [linkFlag, linkFlag, hrespells.linkName_eq]

theorem Respells.localCopy?_eq (hrespells : Respells first second) :
    second.localCopy? = first.localCopy? := by
  rw [localCopy?, localCopy?, hrespells.libraryId_eq, ← hrespells.named_eq, named]

/-- A finding is the same for both spellings: its macros are made from the library name. -/
theorem Respells.new_eq (hrespells : Respells first second) :
    Finding.new second = Finding.new first := by
  funext outcome cppflags ldflags source
  rw [Finding.new, Finding.new, haveDefine, haveDefine, haveLocalDefine, haveLocalDefine,
    hrespells.libraryId_eq]

theorem Respells.fallback_eq (hrespells : Respells first second) :
    second.fallback = first.fallback := by
  rw [fallback, fallback, hrespells.localCopy?_eq, hrespells.libraryId_eq, hrespells.new_eq]

theorem Respells.isUsable_eq (hrespells : Respells first second) :
    second.isUsable = first.isUsable := by
  funext cppflags ldflags
  rw [isUsable, isUsable, hrespells.header_eq, hrespells.symbol_eq, hrespells.linkFlag_eq]

theorem Respells.decidePackage_eq (hrespells : Respells first second) :
    second.decidePackage = first.decidePackage := by
  rw [decidePackage, decidePackage, hrespells.libraryId_eq, hrespells.new_eq,
    hrespells.minVersion_eq]

theorem Respells.decideManual_eq (hrespells : Respells first second) :
    second.decideManual = first.decideManual := by
  rw [decideManual, decideManual, hrespells.isUsable_eq, hrespells.new_eq, hrespells.linkFlag_eq]

/-! ### Decisions in lockstep -/

/-- Below a path the name is told only by the two errors. -/
theorem Respells.decidePath_lockstep (hrespells : Respells first second) (path : Path) :
    (first.decidePath path).Lockstep (AnswersAlike first.name second.name)
      (second.decidePath path) := by
  rw [decidePath, decidePath, hrespells.isUsable_eq, hrespells.new_eq, hrespells.linkFlag_eq]
  refine Dialogue.lockstep_bind _ fun isThere ↦ ?_
  cases isThere with
  | false => exact .done (.pathNotFound path)
  | true =>
    refine Dialogue.lockstep_bind _ fun isUsable ↦ ?_
    cases isUsable with
    | false => exact .done (.overrideUnusable path)
    | true => exact .done (.found _)

/-- On the system the name is told only where a required dependency is missing. -/
theorem Respells.decideSystem_lockstep (hrespells : Respells first second) (isRequired : Bool) :
    (first.decideSystem isRequired).Lockstep (AnswersAlike first.name second.name)
      (second.decideSystem isRequired) := by
  rw [decideSystem, decideSystem, hrespells.decidePackage_eq, hrespells.decideManual_eq,
    hrespells.fallback_eq]
  refine Dialogue.lockstep_bind _ fun package ↦ ?_
  cases package with
  | some finding => exact .done (.found finding)
  | none =>
    refine Dialogue.lockstep_bind _ fun manual ↦ ?_
    cases manual with
    | some finding => exact .done (.found finding)
    | none =>
      cases isRequired with
      | true => exact .done .requiredMissing
      | false => exact .done (.found first.fallback)

/-- Both spellings are decided in lockstep. -/
theorem Respells.decision_lockstep (hrespells : Respells first second) :
    first.decision.Lockstep (AnswersAlike first.name second.name) second.decision := by
  rw [decision, decision, hrespells.override_eq]
  cases first.override with
  | path path => exact hrespells.decidePath_lockstep path
  | disabled =>
    rw [hrespells.new_eq]
    exact .done (.found _)
  | auto => exact hrespells.decideSystem_lockstep false
  | required => exact hrespells.decideSystem_lockstep true

/-! ### Tokens of both spellings -/

/-- The token that the name is told by. -/
theorem find?_tokens_dependency_name (finding : Finding) (dependency : Dependency) :
    (finding.tokens dependency).find? "dependency_name" = some dependency.name := by
  rw [Finding.tokens, Table.find?_ofList]
  rfl

/-- Tokens made for both spellings differ in the name of the dependency alone. -/
theorem Respells.find?_tokens_eq (hrespells : Respells first second) (finding : Finding)
    {token : String} (htoken : token ≠ "dependency_name") :
    (finding.tokens first).find? token = (finding.tokens second).find? token := by
  simp only [Finding.tokens, Table.find?_ofList_cons_of_ne _ _ htoken.symm, hrespells.libraryId_eq,
    hrespells.minVersion_eq, hrespells.linkName_eq]

/-- A dependency behaves alike under a name without a leading `lib` and under that name with it. Its
decision asks the same questions in the same order and comes to the same finding, or to an error of
the same kind that differs in the name of the dependency alone, also where what is answered depends
on what was asked before. The tokens of a finding differ in `dependency_name` alone. -/
theorem decision_ignores_spelling (dependency : Dependency) {name : String}
    (hname : ∀ rest, name ≠ "lib" ++ rest) :
    let plain := dependency.named name
    let spelled := dependency.named ("lib" ++ name)
    (∀ environment : Environment,
      plain.decision.questions environment = spelled.decision.questions environment ∧
      AnswersAlike name ("lib" ++ name) (plain.decision.answer environment)
        (spelled.decision.answer environment)) ∧
    (∀ {σ : Type} (answer : (question : Question) → σ → question.Answer × σ) (state : σ),
      plain.decision.exchanges answer state = spelled.decision.exchanges answer state ∧
      (plain.decision.run answer state).2 = (spelled.decision.run answer state).2 ∧
      AnswersAlike name ("lib" ++ name) (plain.decision.run answer state).1
        (spelled.decision.run answer state).1) ∧
    ∀ finding : Finding,
      (finding.tokens plain).find? "dependency_name" = some name ∧
      (finding.tokens spelled).find? "dependency_name" = some ("lib" ++ name) ∧
      ∀ token, token ≠ "dependency_name" →
        (finding.tokens plain).find? token = (finding.tokens spelled).find? token := by
  intro plain spelled
  have hrespells : Respells plain spelled := respells_named dependency hname
  have hlockstep := hrespells.decision_lockstep
  refine ⟨fun environment ↦ hlockstep.result environment.answer,
    fun answer state ↦ hlockstep.run answer state, fun finding ↦ ?_⟩
  exact ⟨find?_tokens_dependency_name finding plain, find?_tokens_dependency_name finding spelled,
    fun token htoken ↦ hrespells.find?_tokens_eq finding htoken⟩

/-- A name that `lib` goes further than, where the dependency is required and nothing is known. -/
theorem decision_ignores_spelling_of_li :
    let dependency : Dependency := (Dependency.new "" "1").withOverride .required
    let plain := dependency.named "li"
    let spelled := dependency.named "libli"
    let environment := KnownAnswers.none.environment
    (∀ rest, "li" ≠ "lib" ++ rest) ∧
      spelled.decision.questions environment =
        [.packageConfig "libli", .hasHeader "libli.h" []] ∧
      plain.decision.answer environment = .error (.requiredMissing "li") ∧
      spelled.decision.answer environment = .error (.requiredMissing "libli") ∧
      (plain.fallback.tokens spelled).find? "library_id" = some "libli" := by
  intro dependency plain spelled environment
  have hname : ∀ rest, "li" ≠ "lib" ++ rest := by
    intro rest heq
    simpa using congrArg String.toList heq
  obtain ⟨hfixed, -, htokens⟩ := decision_ignores_spelling dependency hname
  obtain ⟨hquestions, hanswers⟩ := hfixed environment
  have hplain : plain.decision.answer environment = .error (.requiredMissing "li") := by
    decide +kernel
  refine ⟨hname, hquestions.symm.trans (by decide +kernel), hplain, ?_, ?_⟩
  · change AnswersAlike "li" "libli" (plain.decision.answer environment)
      (spelled.decision.answer environment) at hanswers
    rw [hplain] at hanswers
    generalize spelled.decision.answer environment = outcome at hanswers
    cases hanswers with
    | requiredMissing => rfl
  · exact ((htokens plain.fallback).2.2 "library_id" (by decide)).symm.trans (by decide +kernel)

end Scaffold.Dependency

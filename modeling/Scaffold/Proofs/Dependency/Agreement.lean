import Mathlib.Data.String.Basic
import Scaffold.Proofs.Dependency.Conversation

/-!
# What is told about an outcome

The macros of a finding are made for the dependency that was decided. Its tokens are made for the
dependency that is asked about, which may be another one of the same name when a prober remembers
what was found. Macros and tokens follow from the outcome (`Finding.entries_defines`,
`Finding.find?_tokens`) and from names that depend on the name alone, so they tell the same
(`Dependency.decision_agrees`).
-/

set_option autoImplicit false

namespace Scaffold

/-! ### Names -/

namespace Dependency

variable {dependency other : Dependency}

theorem libraryId_of_name_eq (hname : other.name = dependency.name) :
    other.libraryId = dependency.libraryId := by
  rw [libraryId, libraryId, linkName, linkName, hname]

theorem upperCase_libraryId (dependency : Dependency) :
    Token.upperCase dependency.libraryId = "LIB" ++ Token.upperCase dependency.linkName := by
  rw [← String.toList_inj, libraryId, Token.upperCase, Token.upperCase, String.toList_map,
    String.toList_append, String.toList_append, String.toList_map, List.map_append]
  rfl

/-- The macro for the bundled copy comes behind the one for the library. -/
theorem haveDefine_lt_haveLocalDefine (dependency : Dependency) :
    dependency.haveDefine < dependency.haveLocalDefine := by
  rw [haveDefine, haveLocalDefine, upperCase_libraryId, String.lt_iff_toList_lt]
  simp [List.cons_lt_cons_iff]

end Dependency

/-! ### Macros and tokens -/

namespace Finding

variable {dependency : Dependency} {finding : Finding}

/-- The macros of a finding: one for the library, and one more for the bundled copy. -/
theorem entries_defines (hfor : finding.IsFor dependency) :
    finding.defines.entries =
      (dependency.haveDefine, digit finding.outcome.providesLibrary) ::
        if finding.outcome = .localFallback then [(dependency.haveLocalDefine, "1")] else [] := by
  have hlt := dependency.haveDefine_lt_haveLocalDefine
  rw [hfor, new]
  by_cases hlocal : finding.outcome = .localFallback
  · have hbehind : ¬ dependency.haveLocalDefine < dependency.haveDefine :=
      fun hbefore ↦ String.lt_irrefl _ (String.lt_trans hbefore hlt)
    have hne : ¬ dependency.haveLocalDefine = dependency.haveDefine :=
      fun heq ↦ String.lt_irrefl _ (heq ▸ hlt)
    simp only [if_pos hlocal, Table.insert, Table.empty, Table.put, if_neg hbehind, if_neg hne]
  · rw [if_neg hlocal, if_neg hlocal]
    rfl

theorem find?_haveDefine (hfor : finding.IsFor dependency) :
    finding.defines.find? dependency.haveDefine =
      some (digit finding.outcome.providesLibrary) := by
  rw [Table.find?_eq_some_iff, entries_defines hfor]
  exact List.mem_cons_self

/-- The macro for the bundled copy is defined exactly if that copy is used. -/
theorem contains_haveLocalDefine (hfor : finding.IsFor dependency) :
    finding.defines.contains dependency.haveLocalDefine = true ↔
      finding.outcome = .localFallback := by
  have hne : dependency.haveLocalDefine ≠ dependency.haveDefine :=
    fun heq ↦ String.lt_irrefl _ (heq ▸ dependency.haveDefine_lt_haveLocalDefine)
  rw [Table.contains, Option.isSome_iff_exists]
  simp only [Table.find?_eq_some_iff, entries_defines hfor, List.mem_cons, Prod.mk.injEq, hne,
    false_and, false_or]
  by_cases hlocal : finding.outcome = .localFallback <;> simp [hlocal]

/-- The tokens that tell of the outcome, for whatever dependency they are made. -/
theorem find?_tokens (finding : Finding) (dependency : Dependency) :
    (finding.tokens dependency).find? "have_library" =
        some (digit finding.outcome.providesLibrary) ∧
      (finding.tokens dependency).find? "have_local_library" =
        some (digit (finding.outcome == .localFallback)) ∧
      (finding.tokens dependency).find? "ac_cv_value" = some finding.outcome.cacheValue ∧
      (finding.tokens dependency).find? "pc_libs_private" =
        some (if finding.outcome.isSystem then "-l" ++ dependency.linkName else "") ∧
      (finding.tokens dependency).find? "spec_requires" =
        some (if finding.outcome.isSystem then dependency.libraryId else "") ∧
      (finding.tokens dependency).find? "spec_build_requires" =
        some (if finding.outcome.isSystem then dependency.libraryId ++ "-devel" else "") := by
  simp only [tokens, Table.find?_ofList]
  exact ⟨rfl, rfl, rfl, rfl, rfl, rfl⟩

theorem digit_eq_one_iff {value : Bool} : digit value = "1" ↔ value = true := by
  cases value <;> decide

end Finding

/-! ### The decision -/

namespace Dependency

/-- What a decision finds tells the same wherever it is told. Its macros are those of its outcome,
its flags and their source are those of the outcome and of what was exchanged, and the tokens made
for any dependency of the same name agree with the macros. -/
theorem decision_agrees {σ : Type} {answer : (question : Question) → σ → question.Answer × σ}
    {state : σ} {dependency other : Dependency} {finding : Finding}
    (hfinding : (dependency.decision.run answer state).1 = .ok finding)
    (hname : other.name = dependency.name) :
    finding.defines.entries =
      (dependency.haveDefine,
        if finding.outcome.isSystem ∨ finding.outcome = .localFallback then "1" else "0") ::
        (if finding.outcome = .localFallback then [(dependency.haveLocalDefine, "1")] else []) ∧
    dependency.IsBacked (dependency.decision.exchanges answer state) finding ∧
    (finding.tokens other).find? "have_library" = finding.defines.find? other.haveDefine ∧
    ((finding.tokens other).find? "have_local_library" = some "1" ↔
      finding.defines.contains other.haveLocalDefine = true) ∧
    (finding.tokens other).find? "ac_cv_value" = some
      (match finding.outcome with
        | .localFallback => "local"
        | .systemPackage | .systemManual => "yes"
        | .disabled | .absent => "no") ∧
    ∀ token ∈ ["pc_libs_private", "spec_requires", "spec_build_requires"],
      ∃ text, (finding.tokens other).find? token = some text ∧
        (text ≠ "" ↔ finding.outcome.isSystem = true) := by
  obtain ⟨hfor, hbacked⟩ := (dependency.decision_endsAfter.run answer state).2 finding hfinding
  obtain ⟨hlibrary, hlocal, hcache, hprivate, hrequires, hbuild⟩ := finding.find?_tokens other
  have hid := libraryId_of_name_eq hname
  have hplain : other.haveDefine = dependency.haveDefine := by rw [haveDefine, hid, haveDefine]
  have hbundled : other.haveLocalDefine = dependency.haveLocalDefine := by
    rw [haveLocalDefine, hid, haveLocalDefine]
  refine ⟨?_, hbacked, ?_, ?_, ?_, fun token htoken ↦ ?_⟩
  · rw [Finding.entries_defines hfor]
    cases finding.outcome <;> rfl
  · rw [hlibrary, hplain, Finding.find?_haveDefine hfor]
  · rw [hlocal, hbundled, Finding.contains_haveLocalDefine hfor, Option.some_inj,
      Finding.digit_eq_one_iff, beq_iff_eq]
  · rw [hcache]
    cases finding.outcome <;> rfl
  · -- Each of the three texts has a fixed part, so it is empty only where it is left out.
    simp only [List.mem_cons, List.not_mem_nil, or_false] at htoken
    rcases htoken with rfl | rfl | rfl
    · exact ⟨_, hprivate, by cases finding.outcome.isSystem <;> simp⟩
    · exact ⟨_, hrequires, by cases finding.outcome.isSystem <;> simp [libraryId]⟩
    · exact ⟨_, hbuild, by cases finding.outcome.isSystem <;> simp⟩

/-- What was found for a library is asked about with a later minimum version. -/
theorem decision_agrees_with_later_minimum :
    (Dependency.new "z" "1").fallback.defines.entries =
        [("HAVE_LIBZ", "1"), ("HAVE_LOCAL_LIBZ", "1")] ∧
      ((Dependency.new "z" "1").fallback.tokens (.new "z" "2")).find? "have_library" =
        some "1" := by
  obtain ⟨hdefines, -, hlibrary, -⟩ := @decision_agrees Unit
    (fun question state ↦ (KnownAnswers.none.environment.answer question, state)) ()
    (.new "z" "1") (.new "z" "2") (Dependency.new "z" "1").fallback rfl rfl
  refine ⟨hdefines.trans (by decide +kernel), hlibrary.trans (by decide +kernel)⟩

end Dependency

end Scaffold

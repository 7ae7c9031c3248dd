import Mathlib.Logic.Relation
import Scaffold.Proofs.Token.Supply

/-!
# The token that an error names

A token that cannot be resolved lacks another one: the first input of its rule that cannot be
resolved, or its stem (`Lacks`). The search goes down from token to token, and each of them cannot
be resolved either (`Lacks.canResolve_eq_false`), until it comes to a root, a token that nothing is
derived for (`IsRoot`). It has a single end, the one that resolution computes
(`reflTransGen_cause`, `eq_cause_of_reflTransGen`), and this is the token that an error names
(`resolve_eq_error_iff`).

A root that cannot be resolved is not supplied. Once it is, no error names it any more
(`resolve_blames_root`).
-/

set_option autoImplicit false

namespace Scaffold.Token

/-- One token lacks another: a token with a rule lacks the first input of the rule that cannot be
resolved, and any other upper-case form lacks its stem. -/
inductive Lacks (base : TokenTable) : String → String → Prop
  | input {token input : String} {rule : Rule} (hrule : ruleFor? token = some rule)
    (hinput : firstUnresolvable? base rule.inputs = some input) : Lacks base token input
  | stem {stem : String} (hrule : ruleFor? (stem ++ upperCaseEnding) = none) (hstem : stem ≠ "") :
    Lacks base (stem ++ upperCaseEnding) stem

/-- A token that nothing is derived for: it has no rule and is no upper-case form. -/
structure IsRoot (token : String) : Prop where
  ruleFor?_eq_none : ruleFor? token = none
  ne_append : ∀ stem, stem ≠ "" → stem ++ upperCaseEnding ≠ token

theorem isRoot_iff {token : String} :
    IsRoot token ↔ ruleFor? token = none ∧ stem? token = none := by
  constructor
  · intro hroot
    refine ⟨hroot.ruleFor?_eq_none, Option.eq_none_iff_forall_ne_some.mpr fun stem hstem ↦ ?_⟩
    obtain ⟨hne, happend⟩ := stem?_eq_some_iff.mp hstem
    exact hroot.ne_append stem hne happend
  · rintro ⟨hrule, hstem⟩
    refine ⟨hrule, fun stem hne happend ↦ ?_⟩
    rw [stem?_eq_some_iff.mpr ⟨hne, happend⟩] at hstem
    cases hstem

variable {base : TokenTable}

/-- What is supplied can be resolved. -/
theorem canResolve_of_contains {token : String} (hsupplied : base.contains token = true) :
    canResolve base token = true := by
  obtain ⟨value, hvalue⟩ := Option.isSome_iff_exists.mp hsupplied
  exact canResolve_iff.mpr ⟨value, meaning?_of_supplied hvalue⟩

theorem not_exists_meaning {token : String} (hnot : canResolve base token = false) :
    ¬∃ value, meaning? base token = some value := by
  rw [← canResolve_iff, hnot]
  exact Bool.false_ne_true

/-! ### The search -/

/-- What a token lacks that cannot be resolved cannot be resolved. -/
theorem Lacks.canResolve_eq_false {token next : String} (hlacks : Lacks base token next)
    (hnot : canResolve base token = false) : canResolve base next = false := by
  cases hlacks with
  | input hrule hinput => exact canResolve_of_first hinput
  | stem hrule hstem =>
    rw [Bool.eq_false_iff]
    intro hresolve
    refine not_exists_meaning hnot ?_
    exact exists_meaning_of_stem hrule (stem?_eq_some_iff.mpr ⟨hstem, rfl⟩)
      (canResolve_iff.mp hresolve)

/-- No token on the search for what a token lacks can be resolved if that one cannot. -/
theorem canResolve_of_reflTransGen {token last : String}
    (hsearch : Relation.ReflTransGen (Lacks base) token last)
    (hnot : canResolve base token = false) : canResolve base last = false := by
  induction hsearch with
  | refl => exact hnot
  | tail _ hlacks ih => exact hlacks.canResolve_eq_false ih

/-- The search from a token that cannot be resolved comes to its cause, and no further. -/
theorem reflTransGen_cause {token : String} (hnot : canResolve base token = false) :
    Relation.ReflTransGen (Lacks base) token (cause base token) ∧ IsRoot (cause base token) := by
  induction token using cause.induct base with
  | case1 token rule hrule input hinput ih =>
    have hlacks : Lacks base token input :=
      .input hrule (firstMissing?_eq_firstUnresolvable? base _ ▸ hinput)
    obtain ⟨hsearch, hroot⟩ := ih (hlacks.canResolve_eq_false hnot)
    rw [cause_of_rule hrule hinput]
    exact ⟨.head hlacks hsearch, hroot⟩
  | case2 token rule hrule hinputs =>
    -- A rule with all its inputs would give the token a meaning.
    have hmeaning := exists_meaning_of_rule hrule (firstMissing?_eq_none_iff.mp hinputs)
    exact absurd hmeaning (not_exists_meaning hnot)
  | case3 token hrule stem hstem ih =>
    obtain ⟨hne, rfl⟩ := stem?_eq_some_iff.mp hstem
    have hlacks : Lacks base (stem ++ upperCaseEnding) stem := .stem hrule hne
    obtain ⟨hsearch, hroot⟩ := ih (hlacks.canResolve_eq_false hnot)
    rw [cause_of_stem hrule hstem]
    exact ⟨.head hlacks hsearch, hroot⟩
  | case4 token hrule hstem =>
    rw [cause_of_leaf hrule hstem]
    exact ⟨.refl, isRoot_iff.mpr ⟨hrule, hstem⟩⟩

/-- A token and what it lacks have the same cause. -/
theorem Lacks.cause_eq {token next : String} (hlacks : Lacks base token next) :
    cause base token = cause base next := by
  cases hlacks with
  | input hrule hinput =>
    exact cause_of_rule hrule (firstMissing?_eq_firstUnresolvable? base _ ▸ hinput)
  | stem hrule hstem => exact cause_of_stem hrule (stem?_eq_some_iff.mpr ⟨hstem, rfl⟩)

/-- The search ends at the cause and nowhere else. -/
theorem eq_cause_of_reflTransGen {token root : String}
    (hsearch : Relation.ReflTransGen (Lacks base) token root) (hroot : IsRoot root) :
    root = cause base token := by
  have hsame : cause base token = cause base root := by
    induction hsearch using Relation.ReflTransGen.head_induction_on with
    | refl => rfl
    | head hlacks _ ih => exact hlacks.cause_eq.trans ih
  obtain ⟨hrule, hstem⟩ := isRoot_iff.mp hroot
  rw [hsame, cause_of_leaf hrule hstem]

/-! ### Errors -/

/-- Resolution ends in an error exactly if some token cannot be resolved, and the error names the
root that the search from the first of them comes to. -/
theorem resolve_eq_error_iff {required : List String} {context : String} {fault : Fault} :
    resolve base required context = .error fault ↔
      ∃ listed root, firstUnresolvable? base required = some listed ∧
        Relation.ReflTransGen (Lacks base) listed root ∧ IsRoot root ∧
        fault = .unresolvedToken root context := by
  rw [resolve_eq, firstMissing?_eq_firstUnresolvable?]
  cases hlisted : firstUnresolvable? base required with
  | none => simp
  | some listed =>
    have hnot := canResolve_of_first hlisted
    constructor
    · intro hfault
      obtain ⟨hsearch, hroot⟩ := reflTransGen_cause hnot
      exact ⟨listed, _, rfl, hsearch, hroot, (Except.error.inj hfault).symm⟩
    · rintro ⟨_, root, hsame, hsearch, hroot, rfl⟩
      cases hsame
      rw [eq_cause_of_reflTransGen hsearch hroot]
      rfl

/-- No error names a supplied token. -/
theorem contains_eq_false_of_error {required : List String} {context root : String}
    (hfault : resolve base required context = .error (.unresolvedToken root context)) :
    base.contains root = false := by
  obtain ⟨listed, _, hlisted, hsearch, -, hsame⟩ := resolve_eq_error_iff.mp hfault
  obtain ⟨rfl, -⟩ := Fault.unresolvedToken.inj hsame
  have hnot := canResolve_of_reflTransGen hsearch (canResolve_of_first hlisted)
  rw [Bool.eq_false_iff] at hnot ⊢
  exact fun hsupplied ↦ hnot (canResolve_of_contains hsupplied)

/-- Over a table that has a token, what cannot be resolved ends in an error about another one. -/
theorem exists_ne_of_contains {required : List String} {listed token : String}
    (hsupplied : base.contains token = true) (hlisted : listed ∈ required)
    (hnot : canResolve base listed = false) (context : String) :
    ∃ other, other ≠ token ∧
      resolve base required context = .error (.unresolvedToken other context) := by
  cases hresolve : resolve base required context with
  | ok resolved =>
    have hmeaning := (resolve_eq_ok_iff.mp hresolve).1 listed hlisted
    exact absurd hmeaning (not_exists_meaning hnot)
  | error fault =>
    obtain ⟨other, rfl⟩ := resolve_eq_error hresolve
    refine ⟨other, ?_, rfl⟩
    rintro rfl
    rw [contains_eq_false_of_error hresolve] at hsupplied
    cases hsupplied

/-- An error names the root cause. Where resolution fails, it names the token that the search from
the first required token that cannot be resolved comes to, going from a rule to its first input that
cannot be resolved and from an upper-case form to its stem, until nothing is derived for the token.
This token is not supplied; once it is, with whatever value, the required token can be resolved or
the error names another. -/
theorem resolve_blames_root (base : TokenTable) (required : List String) (context : String) :
    (∀ fault, resolve base required context = .error fault ↔
      ∃ listed root, firstUnresolvable? base required = some listed ∧
        Relation.ReflTransGen (Lacks base) listed root ∧ IsRoot root ∧
        fault = .unresolvedToken root context) ∧
    ∀ listed root, firstUnresolvable? base required = some listed →
      Relation.ReflTransGen (Lacks base) listed root → IsRoot root →
      base.contains root = false ∧
        ∀ value, ∃ more, base.define root value = .ok more ∧
          (canResolve more listed = true ∨
            ∃ other, other ≠ root ∧
              resolve more required context = .error (.unresolvedToken other context)) := by
  refine ⟨fun fault ↦ resolve_eq_error_iff, fun listed root hlisted hsearch hroot ↦ ?_⟩
  have hfault : resolve base required context = .error (.unresolvedToken root context) :=
    resolve_eq_error_iff.mpr ⟨listed, root, hlisted, hsearch, hroot, rfl⟩
  have hunsupplied := contains_eq_false_of_error hfault
  refine ⟨hunsupplied, fun value ↦ ⟨base.insert root value, ?_, ?_⟩⟩
  · refine TokenTable.define_of_agree fun held hheld ↦ ?_
    rw [Table.contains, hheld] at hunsupplied
    cases hunsupplied
  · have hsupplied : (base.insert root value).contains root = true := by
      rw [Table.contains, Table.find?_insert, if_pos rfl, Option.isSome_some]
    cases hresolve : canResolve (base.insert root value) listed with
    | true => exact .inl rfl
    | false =>
      have hmem := List.mem_of_find?_eq_some hlisted
      exact .inr (exists_ne_of_contains hsupplied hmem hresolve context)

/-- The error of an upper-case form names the input that the rule of its stem lacks, the second. -/
theorem resolve_blames_root_of_rule :
    let base : TokenTable := Table.ofList [("library_name", "libexample")]
    let required := ["library_name_suffix", "test_prefix" ++ upperCaseEnding, "value_name"]
    resolve base required "t" = .error (.unresolvedToken "type_name" "t") ∧
      ∀ value, ∃ more, base.define "type_name" value = .ok more ∧
        (canResolve more ("test_prefix" ++ upperCaseEnding) = true ∨
          ∃ other, other ≠ "type_name" ∧
            resolve more required "t" = .error (.unresolvedToken other "t")) := by
  intro base required
  have hlisted : firstUnresolvable? base required = some ("test_prefix" ++ upperCaseEnding) := by
    decide +kernel
  have hrule : ruleFor? "test_prefix" = some ⟨"test_prefix",
      [.value "library_name_suffix", .text "_test_", .value "type_name"]⟩ := by decide
  have hsearch : Relation.ReflTransGen (Lacks base) ("test_prefix" ++ upperCaseEnding)
      "type_name" :=
    .head (.stem (by decide) (by decide)) (.single (.input hrule (by decide +kernel)))
  have hroot : IsRoot "type_name" := isRoot_iff.mpr ⟨by decide, by decide⟩
  obtain ⟨herror, hsupply⟩ := resolve_blames_root base required "t"
  exact ⟨(herror _).mpr ⟨_, _, hlisted, hsearch, hroot, rfl⟩,
    (hsupply _ _ hlisted hsearch hroot).2⟩

end Scaffold.Token

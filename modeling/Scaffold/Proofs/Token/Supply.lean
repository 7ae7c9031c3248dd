import Scaffold.Proofs.Token.Resolution

/-!
# What a result owes to the supplied tokens

What has been resolved may be supplied for what follows. An extension by meanings changes no meaning
(`meaning?_extension`), since the equation of a step has a single solution and the old meanings
solve the new equation. So tokens resolved in stages come to what they come to at once
(`resolve_append`, `resolve_in_stages`), errors included.

Which tokens can be resolved depends on the supplied names and not on their values, and more names
never resolve less (`canResolve_mono`, `canResolve_congr`). The token that an error blames is found
by asking what can be resolved, nothing else (`firstMissing?_congr`, `cause_congr`), so it is the
same over all tables with the same names (`resolvability_follows_names`).
-/

set_option autoImplicit false

namespace Scaffold.Token

/-! ### Which token is to blame -/

/-- The first of some tokens that cannot be resolved. -/
def firstUnresolvable? (base : TokenTable) (tokens : List String) : Option String :=
  tokens.find? fun token ↦ !canResolve base token

theorem canResolve_of_first {base : TokenTable} {tokens : List String} {token : String}
    (hfirst : firstUnresolvable? base tokens = some token) : canResolve base token = false := by
  simpa using List.find?_some hfirst

/-- The first token without a meaning is the first that cannot be resolved. -/
theorem firstMissing?_eq_firstUnresolvable? (base : TokenTable) (tokens : List String) :
    firstMissing? base tokens = firstUnresolvable? base tokens := by
  rw [firstMissing?, firstUnresolvable?]
  congr 1
  funext token
  cases hvalue : meaning? base token with
  | none => rw [canResolve_eq_false_iff.mpr hvalue, Option.isNone_none, Bool.not_false]
  | some value => rw [canResolve_iff.mpr ⟨value, hvalue⟩, Option.isNone_some, Bool.not_true]

theorem firstMissing?_congr {first second : TokenTable}
    (hsame : canResolve first = canResolve second) (tokens : List String) :
    firstMissing? first tokens = firstMissing? second tokens := by
  rw [firstMissing?_eq_firstUnresolvable?, firstMissing?_eq_firstUnresolvable?,
    firstUnresolvable?, firstUnresolvable?, hsame]

/-- The search for the token to blame asks only which tokens can be resolved. -/
theorem cause_congr {first second : TokenTable} (hsame : canResolve first = canResolve second)
    (token : String) : cause first token = cause second token := by
  have hmissing := firstMissing?_congr hsame
  -- Both searches go down by the same steps.
  induction token using cause.induct first with
  | case1 token rule hrule input hinput ih =>
    rw [cause_of_rule hrule hinput, cause_of_rule hrule (hmissing _ ▸ hinput), ih]
  | case2 token rule hrule hinputs =>
    rw [cause_of_complete hrule hinputs, cause_of_complete hrule (hmissing _ ▸ hinputs)]
  | case3 token hrule stem hstem ih =>
    rw [cause_of_stem hrule hstem, cause_of_stem hrule hstem, ih]
  | case4 token hrule hstem =>
    rw [cause_of_leaf hrule hstem, cause_of_leaf hrule hstem]

/-! ### Stages -/

/-- An extension holds a token as it was supplied, or holds its meaning. -/
theorem find?_extension_eq_or (base : TokenTable) (tokens : List String) (token : String) :
    (extension base tokens).find? token = base.find? token ∨
      ∃ value, meaning? base token = some value ∧
        (extension base tokens).find? token = some value := by
  rw [find?_extension]
  split
  · cases hvalue : meaning? base token with
    | some value => exact .inr ⟨value, rfl, rfl⟩
    | none =>
      cases hbase : base.find? token with
      | none => exact .inl rfl
      | some value => simp [meaning?_of_supplied hbase] at hvalue
  · exact .inl rfl

/-- Meanings that are supplied change no meaning. -/
theorem meaning?_extension (base : TokenTable) (tokens : List String) :
    meaning? (extension base tokens) = meaning? base := by
  -- The old meanings solve the equation of a step over the extension.
  refine ((eq_meaningStep_iff _ _).mp fun token ↦ ?_).symm
  rcases find?_extension_eq_or base tokens token with hsame | ⟨value, hvalue, hfind⟩
  · rw [meaning?_eq_meaningStep, meaningStep, meaningStep, hsame]
  · rw [hvalue, meaningStep, hfind]

/-- The same tokens can be resolved over an extension. -/
theorem canResolve_extension (base : TokenTable) (tokens : List String) :
    canResolve (extension base tokens) = canResolve base := by
  funext token
  rw [Bool.eq_iff_iff, canResolve_iff, canResolve_iff, meaning?_extension]

/-- Extensions one after the other are a single one. -/
theorem extension_extension (base : TokenTable) (first second : List String) :
    extension (extension base first) second = extension base (first ++ second) := by
  refine Table.ext_find? fun token ↦ ?_
  simp only [find?_extension, meaning?_extension, List.mem_append]
  by_cases hfirst : token ∈ first <;> by_cases hsecond : token ∈ second <;> simp [hfirst, hsecond]

/-- Resolving some tokens and then others over what they came to is resolving all of them. -/
theorem resolve_append (base : TokenTable) (first second : List String) (context : String) :
    resolve base (first ++ second) context =
      (resolve base first context).bind fun staged ↦ resolve staged second context := by
  have hmissing : firstMissing? base (first ++ second) =
      (firstMissing? base first).or (firstMissing? base second) := List.find?_append
  rw [resolve_eq base (first ++ second), resolve_eq base first, hmissing]
  cases hfirst : firstMissing? base first with
  | some token => rfl
  | none =>
    have hsecond := firstMissing?_congr (canResolve_extension base first) second
    simp only [Option.none_or, Except.bind, resolve_eq, hsecond, extension_extension]
    cases firstMissing? base second with
    | none => rfl
    | some token =>
      simp only [unresolved, cause_congr (canResolve_extension base first)]

/-- Resolution in stages is resolution at once. Over the table that some tokens were resolved to,
others come to what the whole list comes to over the supplied tokens, be it a table or an error; and
an error of the first stage is the error of the whole. -/
theorem resolve_in_stages (base : TokenTable) (first second : List String) (context : String) :
    (∀ elsewhere staged, resolve base first elsewhere = .ok staged →
      resolve staged second context = resolve base (first ++ second) context) ∧
    ∀ fault, resolve base first context = .error fault →
      resolve base (first ++ second) context = .error fault := by
  constructor
  · intro elsewhere staged hstaged
    have hfirst : resolve base first context = .ok staged :=
      resolve_eq_ok_iff.mpr (resolve_eq_ok_iff.mp hstaged)
    rw [resolve_append, hfirst]
    rfl
  · intro fault hfault
    rw [resolve_append, hfault]
    rfl

/-- An upper-case form that was resolved first is the stem of one that is resolved later. -/
theorem resolve_in_stages_of_suffix :
    let base : TokenTable := Table.ofList [("library_name", "libexample")]
    let suffix := "library_name_suffix_upper_case"
    let staged : TokenTable := Table.ofList [("library_name", "libexample"), (suffix, "EXAMPLE")]
    resolve base [suffix] "first" = .ok staged ∧
      resolve staged [suffix ++ upperCaseEnding, "volume_name"] "second" =
        resolve base ([suffix] ++ [suffix ++ upperCaseEnding, "volume_name"]) "second" := by
  intro base suffix staged
  have hstaged : resolve base [suffix] "first" = .ok staged := by decide +kernel
  exact ⟨hstaged, (resolve_in_stages base _ _ "second").1 "first" staged hstaged⟩

/-! ### Names -/

/-- More names resolve no fewer tokens, whatever their values. -/
theorem canResolve_mono {fewer more : TokenTable}
    (hmore : ∀ name, fewer.contains name = true → more.contains name = true) {token : String}
    (hresolve : canResolve fewer token = true) : canResolve more token = true := by
  rw [canResolve_iff] at hresolve ⊢
  refine exists_meaning_mono (fun name value hvalue ↦ ?_) hresolve
  have hname : fewer.contains name = true := by rw [Table.contains, hvalue, Option.isSome_some]
  exact Option.isSome_iff_exists.mp (hmore name hname)

/-- The same names resolve the same tokens. -/
theorem canResolve_congr {first second : TokenTable}
    (hnames : ∀ name, first.contains name = second.contains name) :
    canResolve first = canResolve second := by
  funext token
  rw [Bool.eq_iff_iff]
  exact ⟨canResolve_mono fun name hname ↦ hnames name ▸ hname,
    canResolve_mono fun name hname ↦ (hnames name).symm ▸ hname⟩

/-- Resolvability follows the supplied names. Over tables with the same names the same lists can be
resolved, and those that cannot end in the same error; and a token that can be resolved stays so
when names are added. -/
theorem resolvability_follows_names :
    (∀ first second : TokenTable, (∀ name, first.contains name = second.contains name) →
      ∀ required context,
        ((∃ resolved, resolve first required context = .ok resolved) ↔
          ∃ resolved, resolve second required context = .ok resolved) ∧
        ∀ fault, resolve first required context = .error fault ↔
          resolve second required context = .error fault) ∧
    ∀ fewer more : TokenTable,
      (∀ name, fewer.contains name = true → more.contains name = true) →
      ∀ token, canResolve fewer token = true → canResolve more token = true := by
  refine ⟨fun first second hnames required context ↦ ?_,
    fun fewer more hmore token ↦ canResolve_mono hmore⟩
  have hsame := canResolve_congr hnames
  rw [resolve_eq, resolve_eq, firstMissing?_congr hsame]
  cases firstMissing? second required with
  | none => simp
  | some token => simp [unresolved, cause_congr hsame]

/-- Another value, or a value in place of a rule, takes nothing from what can be resolved. -/
theorem resolvability_follows_names_of_suffix :
    let base : TokenTable := Table.ofList [("library_name", "libexample")]
    let renamed : TokenTable := Table.ofList [("library_name", "")]
    let more : TokenTable := Table.ofList [("library_name", ""), ("library_name_suffix", "x")]
    (∀ fault, resolve base ["python_module_guid", "type_prefix"] "t" = .error fault ↔
      resolve renamed ["python_module_guid", "type_prefix"] "t" = .error fault) ∧
    (canResolve base "python_module_guid_upper_case" = true →
      canResolve more "python_module_guid_upper_case" = true) := by
  intro base renamed more
  have hnames : ∀ name, base.contains name = renamed.contains name := by
    intro name
    simp only [base, renamed, Table.contains, Table.find?_ofList]
    by_cases hname : "library_name" = name <;> simp [Table.lookup, hname]
  have hmore : ∀ name, base.contains name = true → more.contains name = true := by
    intro name
    simp only [base, more, Table.contains, Table.find?_ofList]
    by_cases hname : "library_name" = name
    · subst hname
      exact fun _ ↦ by decide
    · simp [Table.lookup, hname]
  exact ⟨(resolvability_follows_names.1 base renamed hnames _ "t").2,
    resolvability_follows_names.2 base more hmore _⟩

end Scaffold.Token

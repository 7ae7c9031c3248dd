import Scaffold.Proofs.Token.Meaning
import Scaffold.Proofs.Token.Table
import Scaffold.Token.Resolution

/-!
# Resolution finds meanings

A pass that resolves tokens keeps a memory and a list of tokens that wait. Neither shows in the
result: against a memory that holds meanings alone (`Sound`), each token comes to its `verdict`,
which depends on the supplied tokens only, and the memory stays sound (`resolveToken_eq`). No wait
is ever for a token that waits itself, because what is waited for is lower than what waits.

So the table of a whole pass is the supplied one, extended by the meanings of the required tokens
(`resolve_eq`), and no token that is added meets another value for it.
-/

set_option autoImplicit false

namespace Scaffold.Token

/-- A memory that holds nothing but meanings. -/
def Sound (base : TokenTable) (memo : Memo) : Prop :=
  ∀ token value, memo.find? token = some value → meaning? base token = some value

theorem sound_empty (base : TokenTable) : Sound base Table.empty :=
  fun token value hvalue ↦ by simp at hvalue

theorem sound_insert {base : TokenTable} {memo : Memo} {token value : String}
    (hmemo : Sound base memo) (hvalue : meaning? base token = some value) :
    Sound base (memo.insert token value) := by
  intro other held hheld
  rw [Table.find?_insert] at hheld
  split at hheld
  · rename_i heq
    rw [← heq, hvalue, hheld]
  · exact hmemo other held hheld

/-- A table that holds nothing but meanings takes a meaning in. -/
theorem define_of_sound {base table : TokenTable} {token value : String}
    (htable : Sound base table) (hvalue : meaning? base token = some value) :
    table.define token value = .ok (table.insert token value) :=
  TokenTable.define_of_agree fun held hheld ↦
    Option.some.inj ((htable token held hheld).symm.trans hvalue)

/-- The error of a token without a meaning. -/
def unresolved (base : TokenTable) (context token : String) : Fault :=
  .unresolvedToken (cause base token) context

/-- What a required token comes to: its meaning, or an error that blames its cause. -/
def verdict (base : TokenTable) (context token : String) : Except Fault String :=
  match meaning? base token with
  | some value => .ok value
  | none => .error (unresolved base context token)

theorem verdict_of_some {base : TokenTable} {context token value : String}
    (hvalue : meaning? base token = some value) : verdict base context token = .ok value := by
  rw [verdict, hvalue]

theorem verdict_of_none {base : TokenTable} {context token : String}
    (hnone : meaning? base token = none) :
    verdict base context token = .error (unresolved base context token) := by
  rw [verdict, hnone]

/-! ### One token -/

section Parts

variable {base : TokenTable} {context : String}
  {resolve : String → Memo → Except Fault String × Memo}

/-- Parts whose inputs come to their verdicts come to their meaning, or to the error of their first
missing input. -/
theorem resolveParts_eq {parts : List Part}
    (hresolve : ∀ input ∈ parts.filterMap Part.input?, ∀ memo, Sound base memo →
      (resolve input memo).1 = verdict base context input ∧ Sound base (resolve input memo).2)
    {memo : Memo} (hmemo : Sound base memo) :
    (∀ text, partsMeaning (meaning? base) parts = some text →
        (resolveParts resolve parts memo).1 = .ok text) ∧
      (∀ input, firstMissing? base (parts.filterMap Part.input?) = some input →
        (resolveParts resolve parts memo).1 = .error (unresolved base context input)) ∧
      Sound base (resolveParts resolve parts memo).2 := by
  induction parts generalizing memo with
  | nil =>
    refine ⟨fun text htext ↦ ?_, fun input hinput ↦ ?_, hmemo⟩
    · simp only [partsMeaning, Option.some.injEq] at htext
      rw [resolveParts, htext]
    · simp [firstMissing?] at hinput
  | cons part rest ih =>
    cases hpart : part.input? with
    | none =>
      rw [List.filterMap_cons_none hpart] at hresolve ⊢
      obtain ⟨hok, herror, hsound⟩ := ih hresolve hmemo
      simp only [resolveParts, partsMeaning, hpart]
      refine ⟨fun text htext ↦ ?_, fun input hinput ↦ ?_, hsound⟩
      · obtain ⟨tail, htail, rfl⟩ := Option.map_eq_some_iff.mp htext
        rw [hok tail htail]
        rfl
      · rw [herror input hinput]
        rfl
    | some token =>
      rw [List.filterMap_cons_some hpart] at hresolve ⊢
      obtain ⟨hfirst, hmiddle⟩ := hresolve token List.mem_cons_self memo hmemo
      obtain ⟨hok, herror, hsound⟩ :=
        ih (fun input hinput ↦ hresolve input (List.mem_cons_of_mem _ hinput)) hmiddle
      cases hvalue : meaning? base token with
      | none =>
        -- The first input fails, so the pass ends here and its error is the error of the parts.
        rw [verdict_of_none hvalue] at hfirst
        have hrun : resolveParts resolve (part :: rest) memo =
            (.error (unresolved base context token), (resolve token memo).2) := by
          rw [resolveParts, hpart]
          simp only [← hfirst]
          grind
        refine ⟨fun text htext ↦ ?_, fun input hinput ↦ ?_, ?_⟩
        · simp [partsMeaning, hpart, hvalue] at htext
        · simp only [firstMissing?, List.find?_cons, hvalue, Option.isNone_none,
            Option.some.injEq] at hinput
          rw [hrun, hinput]
        · rw [hrun]
          exact hmiddle
      | some value =>
        rw [verdict_of_some hvalue] at hfirst
        have hrun : resolveParts resolve (part :: rest) memo =
            ((resolveParts resolve rest (resolve token memo).2).1.map fun text ↦
                part.render value ++ text,
              (resolveParts resolve rest (resolve token memo).2).2) := by
          rw [resolveParts, hpart]
          grind
        rw [hrun]
        refine ⟨fun text htext ↦ ?_, fun input hinput ↦ ?_, hsound⟩
        · cases htail : partsMeaning (meaning? base) rest with
          | none => simp [partsMeaning, hpart, hvalue, htail] at htext
          | some tail =>
            simp only [partsMeaning, hpart, hvalue, htail, Option.some.injEq] at htext
            simp only [hok tail htail, Except.map, htext]
        · have htail : firstMissing? base (rest.filterMap Part.input?) = some input := by
            simpa [firstMissing?, hvalue] using hinput
          simp only [herror input htail, Except.map]

end Parts

/-- The derivation of a token that is neither supplied nor remembered, where `inner` resolves the
tokens that it asks for. -/
def derive (inner : String → Memo → Except Fault String × Memo) (context token : String)
    (memo : Memo) : Except Fault String × Memo :=
  match ruleFor? token with
  | some rule => resolveParts inner rule.parts memo
  | none =>
    match stem? token with
    | some stem => ((inner stem memo).1.map upperCase, (inner stem memo).2)
    | none => (.error (.unresolvedToken token context), memo)

/-- A derivation with its value remembered. -/
def remember (token : String) : Except Fault String × Memo → Except Fault String × Memo
  | (.ok value, memo) => (.ok value, memo.insert token value)
  | (.error fault, memo) => (.error fault, memo)

theorem resolveToken_of_unknown {base : TokenTable} {context : String} {steps : Nat}
    {visiting : List String} {token : String} {memo : Memo} (hbase : base.find? token = none)
    (hmemo : memo.find? token = none) (hvisiting : token ∉ visiting) :
    resolveToken base context (steps + 1) visiting token memo =
      remember token
        (derive (resolveToken base context steps (token :: visiting)) context token memo) := by
  have hfree : visiting.contains token = false := by simpa using hvisiting
  rw [resolveToken]
  simp only [hbase, hmemo, hfree, Bool.false_eq_true, if_false]
  rw [derive]
  cases ruleFor? token with
  | some rule =>
    simp only
    rcases resolveParts _ rule.parts memo with ⟨_ | _, _⟩ <;> rfl
  | none =>
    cases stem? token with
    | some stem =>
      simp only
      rcases resolveToken base context steps (token :: visiting) stem memo with ⟨_ | _, _⟩ <;> rfl
    | none => rfl

theorem remember_eq {base : TokenTable} {context token : String}
    {derived : Except Fault String × Memo} (houtcome : derived.1 = verdict base context token)
    (hsound : Sound base derived.2) :
    (remember token derived).1 = verdict base context token ∧
      Sound base (remember token derived).2 := by
  obtain ⟨outcome, memo⟩ := derived
  subst houtcome
  cases hvalue : meaning? base token with
  | none =>
    rw [verdict_of_none hvalue]
    exact ⟨rfl, hsound⟩
  | some value =>
    rw [verdict_of_some hvalue]
    exact ⟨rfl, sound_insert hsound hvalue⟩

/-- A derivation comes to the verdict of its token if all lower tokens come to theirs. -/
theorem derive_eq {base : TokenTable} {context token : String}
    {inner : String → Memo → Except Fault String × Memo} (hbase : base.find? token = none)
    (hinner : ∀ lower, height lower < height token → ∀ memo, Sound base memo →
      (inner lower memo).1 = verdict base context lower ∧ Sound base (inner lower memo).2)
    {memo : Memo} (hmemo : Sound base memo) :
    (derive inner context token memo).1 = verdict base context token ∧
      Sound base (derive inner context token memo).2 := by
  cases hrule : ruleFor? token with
  | some rule =>
    obtain ⟨hok, herror, hsound⟩ :=
      resolveParts_eq (fun input hinput ↦ hinner input (height_input_lt hrule hinput)) hmemo
    have hrun : derive inner context token memo = resolveParts inner rule.parts memo := by
      rw [derive, hrule]
    rw [hrun]
    refine ⟨?_, hsound⟩
    have hmeaning := meaning?_of_rule hbase hrule
    cases hvalues : rule.inputs.mapM (meaning? base) with
    | some values =>
      rw [hvalues, Option.map_some] at hmeaning
      rw [verdict_of_some hmeaning]
      apply hok
      rw [partsMeaning_eq]
      exact congrArg (Option.map rule.derive) hvalues
    | none =>
      obtain ⟨input, hinput⟩ := firstMissing?_of_mapM hvalues
      rw [hvalues, Option.map_none] at hmeaning
      rw [verdict_of_none hmeaning, herror input hinput, unresolved, unresolved,
        cause_of_rule hrule hinput]
  | none =>
    cases hstem : stem? token with
    | some stem =>
      obtain ⟨houtcome, hsound⟩ := hinner stem (height_stem_lt hrule hstem) memo hmemo
      have hrun : derive inner context token memo =
          ((inner stem memo).1.map upperCase, (inner stem memo).2) := by
        rw [derive, hrule, hstem]
      rw [hrun]
      refine ⟨?_, hsound⟩
      have hmeaning := meaning?_of_stem hbase hrule hstem
      simp only [houtcome, verdict, hmeaning, unresolved, cause_of_stem hrule hstem]
      cases meaning? base stem <;> rfl
    | none =>
      have hrun : derive inner context token memo =
          (.error (.unresolvedToken token context), memo) := by
        rw [derive, hrule, hstem]
      rw [hrun, verdict_of_none (meaning?_of_leaf hbase hrule hstem), unresolved,
        cause_of_leaf hrule hstem]
      exact ⟨rfl, hmemo⟩

/-- A token comes to its verdict, whatever the memory holds and however many steps above its height
are allowed, as long as all that waits is higher. -/
theorem resolveToken_eq (base : TokenTable) (context : String) {steps : Nat}
    {visiting : List String} {token : String} {memo : Memo} (hsteps : height token < steps)
    (hvisiting : ∀ waiting ∈ visiting, height token < height waiting)
    (hmemo : Sound base memo) :
    (resolveToken base context steps visiting token memo).1 = verdict base context token ∧
      Sound base (resolveToken base context steps visiting token memo).2 := by
  induction steps generalizing visiting token memo with
  | zero => exact absurd hsteps (Nat.not_lt_zero _)
  | succ steps ih =>
    cases hbase : base.find? token with
    | some value =>
      rw [resolveToken, hbase, verdict_of_some (meaning?_of_supplied hbase)]
      exact ⟨rfl, hmemo⟩
    | none =>
      cases hheld : memo.find? token with
      | some value =>
        rw [resolveToken, hbase, verdict_of_some (hmemo token value hheld)]
        simp only [hheld]
        exact ⟨trivial, hmemo⟩
      | none =>
        have hfree : token ∉ visiting := fun hwaits ↦ Nat.lt_irrefl _ (hvisiting token hwaits)
        have hinner : ∀ lower, height lower < height token → ∀ memo, Sound base memo →
            (resolveToken base context steps (token :: visiting) lower memo).1 =
                verdict base context lower ∧
              Sound base (resolveToken base context steps (token :: visiting) lower memo).2 := by
          intro lower hlower memo hmemo
          refine ih (by omega) (fun waiting hwaiting ↦ ?_) hmemo
          rcases List.mem_cons.mp hwaiting with rfl | hwaiting
          · exact hlower
          · exact Nat.lt_trans hlower (hvisiting waiting hwaiting)
        obtain ⟨houtcome, hsound⟩ := derive_eq hbase hinner hmemo
        rw [resolveToken_of_unknown hbase hheld hfree]
        exact remember_eq houtcome hsound

theorem resolveNext_eq (base : TokenTable) (context token : String) {memo : Memo}
    (hmemo : Sound base memo) :
    (resolveNext base context token memo).1 = verdict base context token ∧
      Sound base (resolveNext base context token memo).2 :=
  resolveToken_eq base context (height_lt_depth token) (by simp) hmemo

theorem canResolve_iff {base : TokenTable} {token : String} :
    canResolve base token = true ↔ ∃ value, meaning? base token = some value := by
  rw [canResolve, (resolveNext_eq base "" token (sound_empty base)).1, verdict]
  cases meaning? base token <;> simp [Except.isOk, Except.toBool]

theorem canResolve_eq_false_iff {base : TokenTable} {token : String} :
    canResolve base token = false ↔ meaning? base token = none := by
  rw [Bool.eq_false_iff, ne_eq, canResolve_iff]
  cases meaning? base token <;> simp

/-! ### A list of tokens -/

/-- A table with the meanings of tokens added from left to right. -/
def adjoin (base table : TokenTable) (tokens : List String) : TokenTable :=
  tokens.foldl
    (fun table token ↦
      match meaning? base token with
      | some value => table.insert token value
      | none => table)
    table

/-- The supplied tokens with the meanings of others. -/
def extension (base : TokenTable) (tokens : List String) : TokenTable :=
  adjoin base base tokens

theorem find?_adjoin (base table : TokenTable) (tokens : List String) (token : String) :
    (adjoin base table tokens).find? token =
      if token ∈ tokens then (meaning? base token).or (table.find? token)
      else table.find? token := by
  induction tokens generalizing table with
  | nil => simp [adjoin]
  | cons first rest ih =>
    rw [adjoin, List.foldl_cons, ← adjoin, ih]
    cases hfirst : meaning? base first with
    | none => by_cases heq : token = first <;> simp [heq, hfirst]
    | some value =>
      by_cases heq : first = token
      · subst heq
        simp [hfirst]
      · simp [heq, Ne.symm heq]

/-- The extension gives the added tokens their meanings and leaves all others as supplied. -/
theorem find?_extension (base : TokenTable) (tokens : List String) (token : String) :
    (extension base tokens).find? token =
      if token ∈ tokens then meaning? base token else base.find? token := by
  rw [extension, find?_adjoin]
  split
  · cases hbase : base.find? token with
    | none => exact Option.or_none
    | some value => rw [meaning?_of_supplied hbase, Option.some_or]
  · rfl

/-- A pass over tokens adds their meanings, or blames the first that has none. -/
theorem resolveEach_eq (base : TokenTable) (context : String) {required : List String}
    {memo : Memo} {table : TokenTable} (hmemo : Sound base memo) (htable : Sound base table) :
    resolveEach base context required memo table =
      match firstMissing? base required with
      | some token => .error (unresolved base context token)
      | none => .ok (adjoin base table required) := by
  induction required generalizing memo table with
  | nil => rfl
  | cons token rest ih =>
    obtain ⟨houtcome, hsound⟩ := resolveNext_eq base context token hmemo
    rcases hnext : resolveNext base context token memo with ⟨outcome, later⟩
    rw [hnext] at houtcome hsound
    simp only at houtcome hsound
    rw [resolveEach, hnext, firstMissing?, List.find?_cons, adjoin, List.foldl_cons]
    cases hvalue : meaning? base token with
    | none =>
      rw [verdict_of_none hvalue] at houtcome
      subst houtcome
      rfl
    | some value =>
      rw [verdict_of_some hvalue] at houtcome
      subst houtcome
      simp only [Option.isNone_some, define_of_sound htable hvalue]
      exact ih hsound (sound_insert htable hvalue)

/-- The table of a pass is the supplied one, extended by the meanings of the required tokens. -/
theorem resolve_eq (base : TokenTable) (required : List String) (context : String) :
    resolve base required context =
      match firstMissing? base required with
      | some token => .error (unresolved base context token)
      | none => .ok (extension base required) :=
  resolveEach_eq base context (sound_empty base) fun _ _ ↦ meaning?_of_supplied

theorem resolve_eq_ok_iff {base resolved : TokenTable} {required : List String}
    {context : String} :
    resolve base required context = .ok resolved ↔
      (∀ token ∈ required, ∃ value, meaning? base token = some value) ∧
        extension base required = resolved := by
  rw [resolve_eq, ← firstMissing?_eq_none_iff]
  cases firstMissing? base required <;> simp

/-- A token resolved on its own gets its meaning. -/
theorem exists_resolve_singleton_iff {base : TokenTable} {token value context : String} :
    (∃ resolved, resolve base [token] context = .ok resolved ∧
      resolved.find? token = some value) ↔ meaning? base token = some value := by
  constructor
  · rintro ⟨_, hresolve, hvalue⟩
    obtain ⟨-, rfl⟩ := resolve_eq_ok_iff.mp hresolve
    rwa [find?_extension, if_pos List.mem_cons_self] at hvalue
  · intro hvalue
    have hmeanings : ∀ other ∈ [token], ∃ value, meaning? base other = some value := by
      simp [hvalue]
    refine ⟨_, resolve_eq_ok_iff.mpr ⟨hmeanings, rfl⟩, ?_⟩
    rw [find?_extension, if_pos List.mem_cons_self, hvalue]

/-- A pass over tokens that all have a meaning gives each of them that meaning. -/
theorem exists_resolved {base : TokenTable} (required : List String) (context : String)
    (hmeanings : ∀ token ∈ required, ∃ value, meaning? base token = some value) :
    ∃ table, resolve base required context = .ok table ∧
      (∀ token ∈ required, table.find? token = meaning? base token) ∧
      ∀ token ∈ required, ∃ value, table.find? token = some value := by
  have hfind : ∀ token ∈ required, (extension base required).find? token = meaning? base token :=
    fun token htoken ↦ by rw [find?_extension, if_pos htoken]
  refine ⟨_, resolve_eq_ok_iff.mpr ⟨hmeanings, rfl⟩, hfind, fun token htoken ↦ ?_⟩
  rw [hfind token htoken]
  exact hmeanings token htoken

/-- The only error of a pass is that a token has no meaning. -/
theorem resolve_eq_error {base : TokenTable} {required : List String} {context : String}
    {fault : Fault} (hfault : resolve base required context = .error fault) :
    ∃ token, fault = .unresolvedToken token context := by
  rw [resolve_eq] at hfault
  cases hmissing : firstMissing? base required with
  | none => simp [hmissing] at hfault
  | some token =>
    simp only [hmissing, Except.error.injEq] at hfault
    exact ⟨cause base token, hfault.symm⟩

/-- Lists of the same tokens, in whatever order and however often, give the same extension. -/
theorem extension_congr (base : TokenTable) {first second : List String}
    (hsame : ∀ token, token ∈ first ↔ token ∈ second) :
    extension base first = extension base second :=
  Table.ext_find? fun token ↦ by simp only [find?_extension, hsame]

/-- Resolution is extension by meanings. The meaning of tokens is the only solution of the equation
of a step; a pass goes through exactly when every required token has a meaning, and then adds these
meanings and nothing else to the supplied tokens, in whatever order and however often the tokens are
required. Otherwise it names a token that is unresolved: no token waits for itself, no two values
clash, and the bound on the number of steps is never met. -/
theorem resolve_extends_by_meanings (base : TokenTable) (required : List String)
    (context : String) :
    (∀ meaning : String → Option String,
      (∀ token, meaning token = meaningStep base meaning token) ↔ meaning = meaning? base) ∧
    ((∃ resolved, resolve base required context = .ok resolved) ↔
      ∀ token ∈ required, ∃ value, meaning? base token = some value) ∧
    (∀ resolved, resolve base required context = .ok resolved →
      (∀ token, resolved.find? token =
        if token ∈ required then meaning? base token else base.find? token) ∧
      (∀ token value, base.find? token = some value → resolved.find? token = some value) ∧
      (∀ other elsewhere, (∀ token, token ∈ other ↔ token ∈ required) →
        resolve base other elsewhere = .ok resolved)) ∧
    (∀ fault, resolve base required context = .error fault →
      ∃ token, fault = .unresolvedToken token context) ∧
    (∀ token memo steps, Sound base memo → depth token ≤ steps →
      (resolveToken base context steps [] token memo).1 =
        (resolveNext base context token memo).1) := by
  refine ⟨eq_meaningStep_iff base, ⟨?_, ?_⟩, fun resolved hresolved ↦ ?_,
    fun fault ↦ resolve_eq_error, fun token memo steps hmemo hsteps ↦ ?_⟩
  · rintro ⟨resolved, hresolved⟩
    exact (resolve_eq_ok_iff.mp hresolved).1
  · intro hall
    exact ⟨extension base required, resolve_eq_ok_iff.mpr ⟨hall, rfl⟩⟩
  · obtain ⟨hall, rfl⟩ := resolve_eq_ok_iff.mp hresolved
    refine ⟨find?_extension base required, fun token value hvalue ↦ ?_,
      fun other elsewhere hsame ↦ ?_⟩
    · rw [find?_extension, meaning?_of_supplied hvalue, hvalue, ite_self]
    · exact resolve_eq_ok_iff.mpr ⟨fun token htoken ↦ hall token ((hsame token).mp htoken),
        extension_congr base hsame⟩
  · have hbound : height token < steps := Nat.lt_of_lt_of_le (height_lt_depth token) hsteps
    rw [(resolveToken_eq base context hbound (by simp) hmemo).1,
      (resolveNext_eq base context token hmemo).1]

example :
    meaning? (Table.ofList [("library_name", "libexample")]) "python_module_guid_upper_case" =
      some "PYEXAMPLE_GUID" := by
  decide +kernel

end Scaffold.Token

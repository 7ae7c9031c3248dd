import Scaffold.Proofs.Token.Supply

/-!
# Offering the tokens that can be had

The list of available tokens comes from one pass over the rule table. All its derivations share one
memory and one stack of tokens whose derivation is under way, those that fail among them. A failing
derivation takes from the stack what it has put on it, so the stack stands after any token as it
stood before (`Pass.resolveToken_eq`), and what it leaves in the memory are meanings. Hence every
token comes to what it comes to in a pass of its own, whatever was tried before (`Pass.attempt_eq`).

So the list holds the supplied tokens, and each rule token that can be resolved with the value that
it is resolved to (`resolveAvailable_offers_resolvable`).
-/

set_option autoImplicit false

namespace Scaffold.Token

/-! ### A pass with a stack -/

/-- What the derivations of a pass share: its memory, and the stack of the tokens whose derivation
is under way. -/
structure Pass where
  memo : Memo
  visiting : List String

namespace Pass

/-- A pass before its first token. -/
def fresh : Pass :=
  ⟨Table.empty, []⟩

/-- The pass with a token put on the stack. -/
def push (token : String) (pass : Pass) : Pass :=
  { pass with visiting := token :: pass.visiting }

/-- The pass with the last token taken from the stack. -/
def pop (pass : Pass) : Pass :=
  { pass with visiting := pass.visiting.tail }

/-- The pass with the value of a token remembered. -/
def record (token value : String) (pass : Pass) : Pass :=
  { pass with memo := pass.memo.insert token value }

/-- The concatenation of the parts of a rule, each input resolved from left to right. -/
def resolveParts (resolve : String → Pass → Except Fault String × Pass) :
    List Part → Pass → Except Fault String × Pass
  | [], pass => (.ok "", pass)
  | part :: rest, pass =>
    match part.input? with
    | none =>
      let (outcome, pass) := resolveParts resolve rest pass
      (outcome.map fun text ↦ part.render "" ++ text, pass)
    | some token =>
      match resolve token pass with
      | (.error fault, pass) => (.error fault, pass)
      | (.ok value, pass) =>
        let (outcome, pass) := resolveParts resolve rest pass
        (outcome.map fun text ↦ part.render value ++ text, pass)

/-- The derivation of a token, where `inner` resolves the tokens that it asks for. -/
def derive (inner : String → Pass → Except Fault String × Pass) (context token : String)
    (pass : Pass) : Except Fault String × Pass :=
  match ruleFor? token with
  | some rule => resolveParts inner rule.parts pass
  | none =>
    match stem? token with
    | some stem =>
      let (outcome, pass) := inner stem pass
      (outcome.map upperCase, pass)
    | none => (.error (.unresolvedToken token context), pass)

/-- Resolves one token. It stands on the stack while it is derived, and is taken off again before
the outcome is looked at. -/
def resolveToken (base : TokenTable) (context : String) :
    Nat → String → Pass → Except Fault String × Pass
  | 0, token, pass => (.error (.derivationCycle token), pass)
  | steps + 1, token, pass =>
    match base.find? token with
    | some value => (.ok value, pass)
    | none =>
      match pass.memo.find? token with
      | some value => (.ok value, pass)
      | none =>
        if pass.visiting.contains token then (.error (.derivationCycle token), pass)
        else
          let (outcome, pass) :=
            derive (resolveToken base context steps) context token (pass.push token)
          match outcome with
          | .ok value => (.ok value, pass.pop.record token value)
          | .error fault => (.error fault, pass.pop)

/-- Tries tokens one after the other in the same pass, and gives each with its outcome. -/
def attempt (base : TokenTable) (context : String) :
    List String → Pass → List (String × Except Fault String) × Pass
  | [], pass => ([], pass)
  | token :: rest, pass =>
    let (outcome, pass) := resolveToken base context (depth token) token pass
    let (outcomes, pass) := attempt base context rest pass
    ((token, outcome) :: outcomes, pass)

/-! ### The stack comes back -/

/-- The outcome and the memory of a step, beside the stack that the pass had before. -/
def restored (visiting : List String) (step : Except Fault String × Memo) :
    Except Fault String × Pass :=
  (step.1, ⟨step.2, visiting⟩)

section Restored

variable {inner : String → Pass → Except Fault String × Pass}
  {plain : String → Memo → Except Fault String × Memo} {visiting : List String}

theorem resolveParts_eq
    (hinner : ∀ token memo, inner token ⟨memo, visiting⟩ = restored visiting (plain token memo))
    (parts : List Part) (memo : Memo) :
    resolveParts inner parts ⟨memo, visiting⟩ =
      restored visiting (Token.resolveParts plain parts memo) := by
  induction parts generalizing memo with
  | nil => rfl
  | cons part rest ih =>
    rw [resolveParts, Token.resolveParts]
    cases part.input? with
    | none => simp only [ih, restored]
    | some token =>
      simp only [hinner, restored]
      rcases plain token memo with ⟨_ | value, later⟩
      · rfl
      · simp only [ih, restored]

theorem derive_eq
    (hinner : ∀ token memo, inner token ⟨memo, visiting⟩ = restored visiting (plain token memo))
    (context token : String) (memo : Memo) :
    derive inner context token ⟨memo, visiting⟩ =
      restored visiting (Token.derive plain context token memo) := by
  rw [derive, Token.derive]
  cases ruleFor? token with
  | some rule => exact resolveParts_eq hinner rule.parts memo
  | none =>
    cases stem? token with
    | some stem => simp only [hinner, restored]
    | none => rfl

end Restored

/-- A token that fails leaves the stack as it found it, and so does one that is resolved. So the
stack may as well be handed down. -/
theorem resolveToken_eq (base : TokenTable) (context : String) (steps : Nat) (token : String)
    (pass : Pass) :
    resolveToken base context steps token pass =
      restored pass.visiting
        (Token.resolveToken base context steps pass.visiting token pass.memo) := by
  -- Inside a derivation the token lies on the stack, so the tokens that it asks for restore the
  -- stack with it, and taking it off leaves the stack of before, whatever the outcome is.
  induction steps generalizing token pass with
  | zero => rfl
  | succ steps ih =>
    obtain ⟨memo, visiting⟩ := pass
    cases hbase : base.find? token with
    | some value => simp only [resolveToken, Token.resolveToken, hbase, restored]
    | none =>
      cases hmemo : memo.find? token with
      | some value => simp only [resolveToken, Token.resolveToken, hbase, hmemo, restored]
      | none =>
        by_cases hvisiting : token ∈ visiting
        · have hwaits : visiting.contains token = true := by simpa using hvisiting
          simp only [resolveToken, Token.resolveToken, hbase, hmemo, hwaits, if_true, restored]
        · have hfree : visiting.contains token = false := by simpa using hvisiting
          have hinner := fun other memo ↦ ih other ⟨memo, token :: visiting⟩
          have hderive := derive_eq hinner context token memo
          rw [resolveToken_of_unknown hbase hmemo hvisiting]
          simp only [resolveToken, hbase, hmemo, hfree, Bool.false_eq_true, if_false, push,
            hderive, restored]
          rcases Token.derive _ context token memo with ⟨_ | value, later⟩ <;> rfl

/-! ### Earlier tokens do not show -/

/-- Whatever was tried before, a token comes to what it comes to in a pass of its own, and the
stack is empty again. -/
theorem attempt_eq (base : TokenTable) (context : String) (tokens : List String) {memo : Memo}
    (hmemo : Sound base memo) :
    (attempt base context tokens ⟨memo, []⟩).1 =
        tokens.map (fun token ↦ (token, (resolveNext base context token Table.empty).1)) ∧
      (attempt base context tokens ⟨memo, []⟩).2.visiting = [] := by
  induction tokens generalizing memo with
  | nil => exact ⟨rfl, rfl⟩
  | cons token rest ih =>
    obtain ⟨houtcome, hsound⟩ := resolveNext_eq base context token hmemo
    obtain ⟨halone, -⟩ := resolveNext_eq base context token (sound_empty base)
    obtain ⟨houtcomes, hvisiting⟩ := ih hsound
    simp only [resolveNext] at houtcome halone houtcomes hvisiting
    simp only [attempt, resolveToken_eq, restored, List.map_cons, resolveNext]
    exact ⟨by rw [houtcomes, houtcome, halone], hvisiting⟩

end Pass

/-! ### The table of what is offered -/

/-- The tokens that have a rule, in the order of the rules. -/
def ruleTokens : List String :=
  rules.map (·.token)

/-- A table with a token and its value, if the token was resolved to one. -/
def keep (table : TokenTable) : String × Except Fault String → TokenTable
  | (token, .ok value) => (table.define token value).toOption.getD table
  | (_, .error _) => table

/-- What is offered are the outcomes of one pass, as far as it has any. -/
theorem resolveOffered_eq_foldl (base : TokenTable) (tokens : List String) (memo : Memo)
    (table : TokenTable) :
    resolveOffered base tokens memo table =
      (Pass.attempt base "" tokens ⟨memo, []⟩).1.foldl keep table := by
  induction tokens generalizing memo table with
  | nil => rfl
  | cons token rest ih =>
    simp only [resolveOffered, Pass.attempt, Pass.resolveToken_eq, Pass.restored, List.foldl_cons,
      resolveNext]
    rcases Token.resolveToken base "" (depth token) [] token memo with ⟨_ | value, later⟩
    · exact ih later table
    · exact ih later _

/-- Offered tokens with a meaning are added to the table, and the others are passed over. -/
theorem resolveOffered_eq (base : TokenTable) (tokens : List String) {memo : Memo}
    {table : TokenTable} (hmemo : Sound base memo) (htable : Sound base table) :
    resolveOffered base tokens memo table = adjoin base table tokens := by
  induction tokens generalizing memo table with
  | nil => rfl
  | cons token rest ih =>
    obtain ⟨houtcome, hsound⟩ := resolveNext_eq base "" token hmemo
    rcases hnext : resolveNext base "" token memo with ⟨outcome, later⟩
    rw [hnext] at houtcome hsound
    simp only at houtcome hsound
    rw [resolveOffered, hnext, adjoin, List.foldl_cons, ← adjoin]
    cases hvalue : meaning? base token with
    | none =>
      rw [verdict_of_none hvalue] at houtcome
      subst houtcome
      exact ih hsound htable
    | some value =>
      rw [verdict_of_some hvalue] at houtcome
      subst houtcome
      simp only [define_of_sound htable hvalue]
      exact ih hsound (sound_insert htable hvalue)

theorem resolveAvailable_eq (base : TokenTable) :
    resolveAvailable base = extension base ruleTokens :=
  resolveOffered_eq base ruleTokens (sound_empty base) fun _ _ ↦ meaning?_of_supplied

/-- A token on its own is resolved, or it is unresolved; it never waits for itself. -/
theorem resolveNext_fresh (base : TokenTable) (context token : String) :
    (canResolve base token = true ∧
        ∃ value, (resolveNext base context token Table.empty).1 = .ok value) ∨
      canResolve base token = false ∧ ∃ root,
        (resolveNext base context token Table.empty).1 =
          .error (.unresolvedToken root context) := by
  rw [(resolveNext_eq base context token (sound_empty base)).1]
  cases hvalue : meaning? base token with
  | some value =>
    exact .inl ⟨canResolve_iff.mpr ⟨value, hvalue⟩, value, verdict_of_some hvalue⟩
  | none => exact .inr ⟨canResolve_eq_false_iff.mpr hvalue, _, verdict_of_none hvalue⟩

/-- Listing agrees with resolving one by one. The table of available tokens holds the supplied ones,
and every rule token that can be resolved, with the value that it is resolved to on its own; it
holds nothing else. It is put together from the outcomes of a single pass over the rules. In such a
pass, over whatever tokens and with whatever failures, each token comes to what it comes to in a
pass of its own, which is a value or the error of an unresolved token, never that of one that waits
for itself; and in the end no token is left on the stack. -/
theorem resolveAvailable_offers_resolvable (base : TokenTable) :
    (∀ token value context,
      (resolveAvailable base).find? token = some value ↔
        base.find? token = some value ∨
          token ∈ ruleTokens ∧ canResolve base token = true ∧
            ∃ resolved, resolve base [token] context = .ok resolved ∧
              resolved.find? token = some value) ∧
    resolveAvailable base = (Pass.attempt base "" ruleTokens Pass.fresh).1.foldl keep base ∧
    (∀ context tokens,
      (Pass.attempt base context tokens Pass.fresh).1 =
          tokens.map (fun token ↦ (token, (resolveNext base context token Table.empty).1)) ∧
        (Pass.attempt base context tokens Pass.fresh).2.visiting = []) ∧
    ∀ context token,
      (canResolve base token = true ∧
          ∃ value, (resolveNext base context token Table.empty).1 = .ok value) ∨
        canResolve base token = false ∧ ∃ root,
          (resolveNext base context token Table.empty).1 =
            .error (.unresolvedToken root context) := by
  refine ⟨fun token value context ↦ ?_, resolveOffered_eq_foldl base ruleTokens Table.empty base,
    fun context tokens ↦ Pass.attempt_eq base context tokens (sound_empty base),
    resolveNext_fresh base⟩
  rw [resolveAvailable_eq, find?_extension, exists_resolve_singleton_iff]
  by_cases hrule : token ∈ ruleTokens
  · rw [if_pos hrule]
    constructor
    · exact fun hvalue ↦ .inr ⟨hrule, canResolve_iff.mpr ⟨value, hvalue⟩, hvalue⟩
    · rintro (hsupplied | ⟨-, -, hvalue⟩)
      · exact meaning?_of_supplied hsupplied
      · exact hvalue
  · simp [hrule]

/-- Without a type and without authors, their tokens are passed over, and those that follow are
not. -/
example :
    resolveAvailable (Table.ofList [("copyright", "2016"), ("library_name", "libexample")]) =
      Table.ofList [("copyright", "2016"), ("library_name", "libexample"),
        ("library_name_suffix", "example"), ("python_module_copyright", "2016"),
        ("python_module_guid", "pyexample_guid"), ("python_module_name", "pyexample")] := by
  decide +kernel

end Scaffold.Token

import Scaffold.Token.Meaning

/-!
# Resolving tokens

One pass over a list of required tokens. A pass remembers the value of each derived token
(`Memo`) and the tokens whose derivation is under way, so that a token that needs itself is an
error rather than an endless loop. The tokens supplied in the base table win over rules.
-/

set_option autoImplicit false

namespace Scaffold.Token

/-- The derived tokens of a pass so far. -/
abbrev Memo := Table String

/-- The concatenation of the parts of a rule, each input resolved from left to right. -/
def resolveParts (resolve : String → Memo → Except Fault String × Memo) :
    List Part → Memo → Except Fault String × Memo
  | [], memo => (.ok "", memo)
  | part :: rest, memo =>
    match part.input? with
    | none =>
      let (outcome, memo) := resolveParts resolve rest memo
      (outcome.map fun text ↦ part.render "" ++ text, memo)
    | some token =>
      match resolve token memo with
      | (.error fault, memo) => (.error fault, memo)
      | (.ok value, memo) =>
        let (outcome, memo) := resolveParts resolve rest memo
        (outcome.map fun text ↦ part.render value ++ text, memo)

/-- Resolves one token. `context` is named when a token is unknown, and `visiting` holds the tokens
whose derivation waits for this one. -/
def resolveToken (base : TokenTable) (context : String) :
    Nat → List String → String → Memo → Except Fault String × Memo
  | 0, _, token, memo => (.error (.derivationCycle token), memo)
  | steps + 1, visiting, token, memo =>
    match base.find? token with
    | some value => (.ok value, memo)
    | none =>
      match memo.find? token with
      | some value => (.ok value, memo)
      | none =>
        if visiting.contains token then (.error (.derivationCycle token), memo)
        else
          let inner := resolveToken base context steps (token :: visiting)
          let (outcome, memo) :=
            match ruleFor? token with
            | some rule => resolveParts inner rule.parts memo
            | none =>
              match stem? token with
              | some stem =>
                let (outcome, memo) := inner stem memo
                (outcome.map upperCase, memo)
              | none => (.error (.unresolvedToken token context), memo)
          match outcome with
          | .ok value => (.ok value, memo.insert token value)
          | .error fault => (.error fault, memo)

/-- Resolves one token within a pass. -/
def resolveNext (base : TokenTable) (context token : String) (memo : Memo) :
    Except Fault String × Memo :=
  resolveToken base context (depth token) [] token memo

/-- Resolves tokens from left to right, adding each to the table. -/
def resolveEach (base : TokenTable) (context : String) :
    List String → Memo → TokenTable → Except Fault TokenTable
  | [], _, resolved => .ok resolved
  | token :: rest, memo, resolved =>
    match resolveNext base context token memo with
    | (.error fault, _) => .error fault
    | (.ok value, memo) => do
      resolveEach base context rest memo (← resolved.define token value)

/-- The supplied tokens together with every required one. -/
def resolve (base : TokenTable) (required : List String) (context : String) :
    Except Fault TokenTable :=
  resolveEach base context required Table.empty base

/-- Adds the tokens that can be resolved and passes over the others, with one memory for all. -/
def resolveOffered (base : TokenTable) : List String → Memo → TokenTable → TokenTable
  | [], _, resolved => resolved
  | token :: rest, memo, resolved =>
    match resolveNext base "" token memo with
    | (.error _, memo) => resolveOffered base rest memo resolved
    | (.ok value, memo) =>
      resolveOffered base rest memo ((resolved.define token value).toOption.getD resolved)

/-- The supplied tokens together with every rule token that can be derived. -/
def resolveAvailable (base : TokenTable) : TokenTable :=
  resolveOffered base (rules.map (·.token)) Table.empty base

/-- The token is supplied or can be derived. -/
def canResolve (base : TokenTable) (token : String) : Bool :=
  (resolveNext base "" token Table.empty).1.isOk

end Scaffold.Token

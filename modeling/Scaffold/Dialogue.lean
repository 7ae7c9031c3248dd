/-!
# Dialogues

A dialogue asks queries, one after the other, and ends with a result. Each query may depend on the
replies before it, so a dialogue is a tree that branches at every reply.

Against fixed replies a dialogue has a `result` and the `queries` it asks on the way. Against a
replier with a state it is `run`; when the state does not matter, the two agree
(`run_of_replies`). `through` has each query replied to by a dialogue of another kind.
-/

set_option autoImplicit false

namespace Scaffold

/-- A computation that asks queries of one kind, each with replies of its own type. -/
inductive Dialogue {Query : Type} (Reply : Query → Type) (α : Type) : Type
  | done (outcome : α)
  | ask (query : Query) (next : Reply query → Dialogue Reply α)

namespace Dialogue

variable {Query Inner : Type} {Reply : Query → Type} {InnerReply : Inner → Type} {α β σ : Type}

/-- The dialogue that goes on where another one ends. -/
def andThen : Dialogue Reply α → (α → Dialogue Reply β) → Dialogue Reply β
  | done outcome, next => next outcome
  | ask query following, next => ask query fun reply ↦ (following reply).andThen next

instance : Monad (Dialogue Reply) where
  pure := done
  bind := andThen

/-- The result against fixed replies. -/
def result (reply : (query : Query) → Reply query) : Dialogue Reply α → α
  | done outcome => outcome
  | ask query next => (next (reply query)).result reply

/-- The queries asked against fixed replies, in order. -/
def queries (reply : (query : Query) → Reply query) : Dialogue Reply α → List Query
  | done _ => []
  | ask query next => query :: (next (reply query)).queries reply

/-- The result against replies that depend on a state and change it, and the state after them. -/
def run (step : (query : Query) → σ → Reply query × σ) : Dialogue Reply α → σ → α × σ
  | done outcome, state => (outcome, state)
  | ask query next, state =>
    let (reply, state) := step query state
    (next reply).run step state

/-- The dialogue with each query replied to by a dialogue with somebody else. -/
def through (answer : (query : Query) → Dialogue InnerReply (Reply query)) :
    Dialogue Reply α → Dialogue InnerReply α
  | done outcome => done outcome
  | ask query next => (answer query).andThen fun reply ↦ (next reply).through answer

/-! ### Laws -/

@[simp]
theorem result_pure (reply : (query : Query) → Reply query) (outcome : α) :
    (pure outcome : Dialogue Reply α).result reply = outcome :=
  rfl

@[simp]
theorem queries_pure (reply : (query : Query) → Reply query) (outcome : α) :
    (pure outcome : Dialogue Reply α).queries reply = [] :=
  rfl

@[simp]
theorem result_done (reply : (query : Query) → Reply query) (outcome : α) :
    (done outcome : Dialogue Reply α).result reply = outcome :=
  rfl

@[simp]
theorem queries_done (reply : (query : Query) → Reply query) (outcome : α) :
    (done outcome : Dialogue Reply α).queries reply = [] :=
  rfl

@[simp]
theorem result_ask (reply : (query : Query) → Reply query) (query : Query)
    (next : Reply query → Dialogue Reply α) :
    (ask query next).result reply = (next (reply query)).result reply :=
  rfl

@[simp]
theorem queries_ask (reply : (query : Query) → Reply query) (query : Query)
    (next : Reply query → Dialogue Reply α) :
    (ask query next).queries reply = query :: (next (reply query)).queries reply :=
  rfl

@[simp]
theorem result_andThen (reply : (query : Query) → Reply query) (first : Dialogue Reply α)
    (next : α → Dialogue Reply β) :
    (first.andThen next).result reply = (next (first.result reply)).result reply := by
  induction first with
  | done outcome => rfl
  | ask query following ih => exact ih (reply query)

@[simp]
theorem queries_andThen (reply : (query : Query) → Reply query) (first : Dialogue Reply α)
    (next : α → Dialogue Reply β) :
    (first.andThen next).queries reply =
      first.queries reply ++ (next (first.result reply)).queries reply := by
  induction first with
  | done outcome => rfl
  | ask query following ih => exact congrArg (query :: ·) (ih (reply query))

@[simp]
theorem result_bind (reply : (query : Query) → Reply query) (first : Dialogue Reply α)
    (next : α → Dialogue Reply β) :
    (first >>= next).result reply = (next (first.result reply)).result reply :=
  result_andThen reply first next

@[simp]
theorem queries_bind (reply : (query : Query) → Reply query) (first : Dialogue Reply α)
    (next : α → Dialogue Reply β) :
    (first >>= next).queries reply =
      first.queries reply ++ (next (first.result reply)).queries reply :=
  queries_andThen reply first next

/-- Against replies that ignore the state, the run gives the result and leaves the state alone. -/
theorem run_of_replies (reply : (query : Query) → Reply query) (dialogue : Dialogue Reply α)
    (state : σ) :
    dialogue.run (fun query state ↦ (reply query, state)) state =
      (dialogue.result reply, state) := by
  induction dialogue with
  | done outcome => rfl
  | ask query next ih => exact ih (reply query)

end Dialogue

end Scaffold

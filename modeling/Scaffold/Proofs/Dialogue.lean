import Scaffold.Dialogue

/-!
# What every dialogue comes to

`Dialogue.Ends` says of a predicate that it holds of every result that a dialogue may come to,
whatever it is replied. It is proved by following the text of the dialogue (`ends_bind`), without a
replier, and then holds of every run, also where the replier answers one query differently at
different times (`Ends.run`). What is known of a replier, step by step, holds after every run
(`run_keeps`).

`Dialogue.EndsAfter` is the same for a predicate that also looks at what was exchanged on the way,
query by query with its reply (`endsAfter_bind`, `EndsAfter.run`). Where each query is replied to by
a dialogue with somebody else, both make up one dialogue (`run_through`). What it exchanges is cut
into one part for each reply (`Dialogue.Carries`), so what is known of both sides is put together
once (`EndsAfter.through`).

Two dialogues are in `Dialogue.Lockstep` if they ask the same queries, whatever the replies are, and
come to related results. This is proved along both texts at once (`Lockstep.bind`), and then every
run of the one goes like that of the other (`Lockstep.run`).
-/

set_option autoImplicit false

namespace Scaffold.Dialogue

variable {Query : Type} {Reply : Query → Type} {α β σ : Type}

/-- Every result of the dialogue satisfies a predicate, whatever the replies are. -/
def Ends (holds : α → Prop) : Dialogue Reply α → Prop
  | done outcome => holds outcome
  | ask _ next => ∀ reply, (next reply).Ends holds

theorem ends_bind {holds : β → Prop} {first : Dialogue Reply α} {next : α → Dialogue Reply β} :
    (first >>= next).Ends holds ↔ first.Ends fun outcome ↦ (next outcome).Ends holds := by
  induction first with
  | done outcome => exact Iff.rfl
  | ask query following ih => exact forall_congr' ih

theorem Ends.mono {holds weaker : α → Prop} {dialogue : Dialogue Reply α}
    (hends : dialogue.Ends holds) (hweaker : ∀ outcome, holds outcome → weaker outcome) :
    dialogue.Ends weaker := by
  induction dialogue with
  | done outcome => exact hweaker outcome hends
  | ask query next ih => exact fun reply ↦ ih reply (hends reply)

theorem ends_of_forall {holds : α → Prop} (hall : ∀ outcome, holds outcome)
    (dialogue : Dialogue Reply α) : dialogue.Ends holds := by
  induction dialogue with
  | done outcome => exact hall outcome
  | ask query next ih => exact ih

/-- What follows a first dialogue decides how both end. -/
theorem ends_bind_of_forall {holds : β → Prop} (first : Dialogue Reply α)
    {next : α → Dialogue Reply β} (hnext : ∀ outcome, (next outcome).Ends holds) :
    (first >>= next).Ends holds :=
  ends_bind.mpr (ends_of_forall hnext first)

/-- The result of a run is one that the dialogue may come to. -/
theorem Ends.run {holds : α → Prop} {dialogue : Dialogue Reply α} (hends : dialogue.Ends holds)
    (step : (query : Query) → σ → Reply query × σ) (state : σ) :
    holds (dialogue.run step state).1 := by
  induction dialogue generalizing state with
  | done outcome => exact hends
  | ask query next ih => exact ih _ (hends _) _

/-- A run goes on in the state that its first part ends in. -/
theorem run_bind (step : (query : Query) → σ → Reply query × σ) (first : Dialogue Reply α)
    (next : α → Dialogue Reply β) (state : σ) :
    (first >>= next).run step state =
      (next (first.run step state).1).run step (first.run step state).2 := by
  induction first generalizing state with
  | done outcome => rfl
  | ask query following ih => exact ih _ _

/-- What every step keeps is kept by a run. -/
theorem run_keeps {keeps : σ → Prop} {step : (query : Query) → σ → Reply query × σ}
    (hstep : ∀ query state, keeps state → keeps (step query state).2)
    (dialogue : Dialogue Reply α) {state : σ} (hstate : keeps state) :
    keeps (dialogue.run step state).2 := by
  induction dialogue generalizing state with
  | done outcome => exact hstate
  | ask query next ih => exact ih _ (hstep query state hstate)

/-- In a state that no query changes, a run comes to the result against the replies there. -/
theorem run_of_still {step : (query : Query) → σ → Reply query × σ} {state : σ}
    {reply : (query : Query) → Reply query}
    (hstill : ∀ query, step query state = (reply query, state)) (dialogue : Dialogue Reply α) :
    dialogue.run step state = (dialogue.result reply, state) := by
  induction dialogue with
  | done outcome => rfl
  | ask query next ih =>
    rw [run, hstill query]
    exact ih (reply query)

/-- Where every state that comes up has the same replies, a run comes to the result against them. -/
theorem run_of_steady {steady : σ → Prop} {step : (query : Query) → σ → Reply query × σ}
    {reply : (query : Query) → Reply query}
    (hstep : ∀ query state, steady state →
      (step query state).1 = reply query ∧ steady (step query state).2)
    (dialogue : Dialogue Reply α) {state : σ} (hstate : steady state) :
    (dialogue.run step state).1 = dialogue.result reply := by
  induction dialogue generalizing state with
  | done outcome => rfl
  | ask query next ih =>
    obtain ⟨hreply, hsteady⟩ := hstep query state hstate
    rw [result_ask, ← hreply]
    exact ih _ hsteady

/-! ### What was exchanged -/

/-- A query with its reply. -/
abbrev Exchange (Reply : Query → Type) : Type :=
  (query : Query) × Reply query

/-- The queries of a run with their replies, in order. -/
def exchanges (step : (query : Query) → σ → Reply query × σ) :
    Dialogue Reply α → σ → List (Exchange Reply)
  | done _, _ => []
  | ask query next, state =>
    let (reply, state) := step query state
    ⟨query, reply⟩ :: (next reply).exchanges step state

/-- Against replies that ignore the state, every query is exchanged with its fixed reply. -/
theorem exchanges_of_replies (reply : (query : Query) → Reply query) (dialogue : Dialogue Reply α)
    (state : σ) :
    dialogue.exchanges (fun query state ↦ (reply query, state)) state =
      (dialogue.queries reply).map fun query ↦ ⟨query, reply query⟩ := by
  induction dialogue with
  | done outcome => rfl
  | ask query next ih => exact congrArg (⟨query, reply query⟩ :: ·) (ih (reply query))

/-- Whatever the replies are, what is exchanged and the result satisfy a predicate. -/
def EndsAfter (holds : List (Exchange Reply) → α → Prop) : Dialogue Reply α → Prop
  | done outcome => holds [] outcome
  | ask query next => ∀ reply, (next reply).EndsAfter fun talk ↦ holds (⟨query, reply⟩ :: talk)

theorem endsAfter_bind {holds : List (Exchange Reply) → β → Prop} {first : Dialogue Reply α}
    {next : α → Dialogue Reply β} :
    (first >>= next).EndsAfter holds ↔
      first.EndsAfter fun talk outcome ↦ (next outcome).EndsAfter fun later ↦
        holds (talk ++ later) := by
  induction first generalizing holds with
  | done outcome => exact Iff.rfl
  | ask query following ih => exact forall_congr' fun reply ↦ ih reply

/-- A dialogue that begins with a query goes on with each of its replies. -/
theorem endsAfter_ask_bind {holds : List (Exchange Reply) → β → Prop} {query : Query}
    {next : Reply query → Dialogue Reply β} :
    (ask query done >>= next).EndsAfter holds ↔
      ∀ reply, (next reply).EndsAfter fun talk ↦ holds (⟨query, reply⟩ :: talk) :=
  Iff.rfl

theorem EndsAfter.mono {holds weaker : List (Exchange Reply) → α → Prop}
    {dialogue : Dialogue Reply α} (hends : dialogue.EndsAfter holds)
    (hweaker : ∀ talk outcome, holds talk outcome → weaker talk outcome) :
    dialogue.EndsAfter weaker := by
  induction dialogue generalizing holds weaker with
  | done outcome => exact hweaker [] outcome hends
  | ask query next ih => exact fun reply ↦ ih reply (hends reply) fun talk ↦ hweaker _

theorem EndsAfter.and {holds others : List (Exchange Reply) → α → Prop}
    {dialogue : Dialogue Reply α} (hends : dialogue.EndsAfter holds)
    (hothers : dialogue.EndsAfter others) :
    dialogue.EndsAfter fun talk outcome ↦ holds talk outcome ∧ others talk outcome := by
  induction dialogue generalizing holds others with
  | done outcome => exact ⟨hends, hothers⟩
  | ask query next ih => exact fun reply ↦ ih reply (hends reply) (hothers reply)

/-- What a run exchanges, and its result, are among what the dialogue may come to. -/
theorem EndsAfter.run {holds : List (Exchange Reply) → α → Prop} {dialogue : Dialogue Reply α}
    (hends : dialogue.EndsAfter holds) (step : (query : Query) → σ → Reply query × σ) (state : σ) :
    holds (dialogue.exchanges step state) (dialogue.run step state).1 := by
  induction dialogue generalizing holds state with
  | done outcome => exact hends
  | ask query next ih => exact ih _ (hends _) _

/-! ### Replying through dialogues -/

section Through

variable {Inner : Type} {InnerReply : Inner → Type}
  {meets : (query : Query) → List (Exchange InnerReply) → Reply query → Prop}
  {talk : List (Exchange Reply)} {inner : List (Exchange InnerReply)}

/-- Replying through dialogues comes to running each of them where its reply is asked for. -/
theorem run_through (step : (query : Inner) → σ → InnerReply query × σ)
    (answer : (query : Query) → Dialogue InnerReply (Reply query)) (dialogue : Dialogue Reply α)
    (state : σ) :
    (dialogue.through answer).run step state =
      dialogue.run (fun query state ↦ (answer query).run step state) state := by
  induction dialogue generalizing state with
  | done outcome => rfl
  | ask query next ih => exact (run_bind step (answer query) _ state).trans (ih _ _)

/-- The inner exchanges are those that the replies were got from: a part of them for each exchange,
one after the other, and each part meets what is said about it and the reply. -/
inductive Carries
    (meets : (query : Query) → List (Exchange InnerReply) → Reply query → Prop) :
    List (Exchange Reply) → List (Exchange InnerReply) → Prop
  | nothing : Carries meets [] []
  | reply {query : Query} {reply : Reply query} {talk : List (Exchange Reply)}
      {own rest : List (Exchange InnerReply)} (hown : meets query own reply)
      (hrest : Carries meets talk rest) : Carries meets (⟨query, reply⟩ :: talk) (own ++ rest)

theorem carries_nil_iff : Carries meets [] inner ↔ inner = [] := by
  constructor
  · rintro ⟨⟩
    rfl
  · rintro rfl
    exact .nothing

theorem carries_cons_iff {query : Query} {reply : Reply query} :
    Carries meets (⟨query, reply⟩ :: talk) inner ↔
      ∃ own rest, inner = own ++ rest ∧ meets query own reply ∧ Carries meets talk rest := by
  constructor
  · rintro (_ | ⟨hown, hrest⟩)
    exact ⟨_, _, rfl, hown, hrest⟩
  · rintro ⟨own, rest, rfl, hown, hrest⟩
    exact .reply hown hrest

/-- Each inner exchange stands in the part that some reply was got from. -/
theorem Carries.exists_reply (hcarries : Carries meets talk inner)
    {exchange : Exchange InnerReply} (hexchange : exchange ∈ inner) :
    ∃ query reply before own after, ⟨query, reply⟩ ∈ talk ∧ inner = before ++ own ++ after ∧
      exchange ∈ own ∧ meets query own reply := by
  induction hcarries with
  | nothing => simp at hexchange
  | @reply query reply talk own rest hown hrest ih =>
    rcases List.mem_append.mp hexchange with hfirst | hlater
    · exact ⟨query, reply, [], own, rest, List.mem_cons_self, rfl, hfirst, hown⟩
    · obtain ⟨other, otherReply, before, others, after, hmem, rfl, hothers, hmeets⟩ := ih hlater
      exact ⟨other, otherReply, own ++ before, others, after, List.mem_cons_of_mem _ hmem,
        by simp only [List.append_assoc], hothers, hmeets⟩

/-- Each reply was got from a part of the inner exchanges. -/
theorem Carries.exists_part (hcarries : Carries meets talk inner) {query : Query}
    {reply : Reply query} (hreply : ⟨query, reply⟩ ∈ talk) :
    ∃ own, meets query own reply ∧ ∀ exchange ∈ own, exchange ∈ inner := by
  induction hcarries with
  | nothing => simp at hreply
  | @reply first firstReply talk own rest hown hrest ih =>
    rcases List.mem_cons.mp hreply with heq | hlater
    · cases heq
      exact ⟨own, hown, fun exchange ↦ List.mem_append_left rest⟩
    · obtain ⟨others, hothers, hinner⟩ := ih hlater
      exact ⟨others, hothers, fun exchange hmem ↦ List.mem_append_right own (hinner exchange hmem)⟩

/-- What is known of a dialogue and of those that reply to it is known of both together. -/
theorem EndsAfter.through {holds : List (Exchange Reply) → α → Prop} {dialogue : Dialogue Reply α}
    {answer : (query : Query) → Dialogue InnerReply (Reply query)}
    (hends : dialogue.EndsAfter holds) (hanswer : ∀ query, (answer query).EndsAfter (meets query)) :
    (dialogue.through answer).EndsAfter fun inner outcome ↦
      ∃ talk, Carries meets talk inner ∧ holds talk outcome := by
  induction dialogue generalizing holds with
  | done outcome => exact ⟨[], .nothing, hends⟩
  | ask query next ih =>
    refine endsAfter_bind.mpr ((hanswer query).mono fun own reply hown ↦ ?_)
    refine (ih reply (hends reply)).mono fun rest outcome ⟨talk, hrest, hholds⟩ ↦ ?_
    exact ⟨⟨query, reply⟩ :: talk, .reply hown hrest, hholds⟩

end Through

/-! ### Two dialogues in lockstep -/

/-- Whatever the replies are, both dialogues ask the same queries and come to related results. -/
inductive Lockstep (related : α → β → Prop) : Dialogue Reply α → Dialogue Reply β → Prop
  | done {first : α} {second : β} (hrelated : related first second) :
      Lockstep related (done first) (done second)
  | ask (query : Query) {first : Reply query → Dialogue Reply α}
      {second : Reply query → Dialogue Reply β}
      (hnext : ∀ reply, Lockstep related (first reply) (second reply)) :
      Lockstep related (ask query first) (ask query second)

section Lockstep

variable {γ δ : Type} {related : α → β → Prop} {first : Dialogue Reply α}
  {second : Dialogue Reply β}

theorem Lockstep.refl (dialogue : Dialogue Reply α) : Lockstep Eq dialogue dialogue := by
  induction dialogue with
  | done outcome => exact .done rfl
  | ask query next ih => exact .ask query ih

/-- Dialogues in lockstep stay so if they go on in lockstep from related results. -/
theorem Lockstep.bind {later : γ → δ → Prop} {next : α → Dialogue Reply γ}
    {other : β → Dialogue Reply δ} (hfirst : Lockstep related first second)
    (hnext : ∀ left right, related left right → Lockstep later (next left) (other right)) :
    Lockstep later (first >>= next) (second >>= other) := by
  induction hfirst with
  | done hrelated => exact hnext _ _ hrelated
  | ask query _ ih => exact .ask query ih

/-- One dialogue that goes on in two ways is in lockstep if both ways are, from each result. -/
theorem lockstep_bind {later : γ → δ → Prop} (dialogue : Dialogue Reply α)
    {next : α → Dialogue Reply γ} {other : α → Dialogue Reply δ}
    (hnext : ∀ outcome, Lockstep later (next outcome) (other outcome)) :
    Lockstep later (dialogue >>= next) (dialogue >>= other) :=
  (Lockstep.refl dialogue).bind fun left _ heq ↦ heq ▸ hnext left

/-- Runs of dialogues in lockstep exchange the same, leave the same state and have related
results. -/
theorem Lockstep.run (hlockstep : Lockstep related first second)
    (step : (query : Query) → σ → Reply query × σ) (state : σ) :
    first.exchanges step state = second.exchanges step state ∧
      (first.run step state).2 = (second.run step state).2 ∧
      related (first.run step state).1 (second.run step state).1 := by
  induction hlockstep generalizing state with
  | done hrelated => exact ⟨rfl, rfl, hrelated⟩
  | ask query _ ih =>
    let exchange : Exchange Reply := ⟨query, (step query state).1⟩
    obtain ⟨hexchanges, hstate, hrelated⟩ := ih (step query state).1 (step query state).2
    exact ⟨congrArg (exchange :: ·) hexchanges, hstate, hrelated⟩

/-- Against fixed replies dialogues in lockstep ask the same and have related results. -/
theorem Lockstep.result (hlockstep : Lockstep related first second)
    (reply : (query : Query) → Reply query) :
    first.queries reply = second.queries reply ∧
      related (first.result reply) (second.result reply) := by
  obtain ⟨hexchanges, -, hrelated⟩ := hlockstep.run (fun query state ↦ (reply query, state)) ()
  rw [run_of_replies, run_of_replies] at hrelated
  rw [exchanges_of_replies, exchanges_of_replies] at hexchanges
  have hqueries := congrArg (List.map Sigma.fst) hexchanges
  rw [List.map_map, List.map_map] at hqueries
  exact ⟨by simpa [Function.comp_def] using hqueries, hrelated⟩

end Lockstep

end Scaffold.Dialogue

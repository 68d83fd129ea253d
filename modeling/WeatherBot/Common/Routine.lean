import Mathlib.Logic.Relation
import WeatherBot.Common.Except

/-!
# Routines that share a state

A `Routine σ ε α` acts on a state that it shares with others, one atomic step at a
time, and returns an `α` or raises an `ε`. Between two of its steps the others may
act. A `Pool` is the state and the calls that are under way; any of them may take
the next step, and any may stop for good between two steps.

* `Meets`: what a routine owes the others, and what it returns, if the others do
  what it relies on; with the rules for sequencing.
* `Meets.framed`: what every step keeps is kept from the first state to the last.
* `Pool.Agreement`: calls whose steps are what the others rely on.
* `Agreement.safe_of_run`: **in every run the invariant holds, and every call that
  has returned meets its postcondition**.
-/

namespace WeatherBot.Common

/-- A program that acts on a shared state, one atomic step at a time. -/
inductive Routine (σ ε α : Type) where
  | done (a : α)
  | raised (e : ε)
  /-- The new state, and what comes next; both depend on the state that the step finds. -/
  | step (act : σ → σ) (next : σ → Routine σ ε α)

namespace Routine

variable {σ ε α β : Type}

/-- Go on with what a routine returns. -/
def andThen : Routine σ ε α → (α → Routine σ ε β) → Routine σ ε β
  | done a, f => f a
  | raised e, _ => raised e
  | step act next, f => step act fun s => (next s).andThen f

instance : Monad (Routine σ ε) where
  pure := done
  bind := andThen

/-- A computation that does not use the state. -/
def ofExcept : Except ε α → Routine σ ε α
  | .ok a => done a
  | .error e => raised e

instance : MonadLift (Except ε) (Routine σ ε) where
  monadLift := ofExcept

/-- One step that reads the state. -/
def read (f : σ → α) : Routine σ ε α := step id fun s => done (f s)

/-- One step that changes the state. -/
def write (f : σ → σ) : Routine σ ε Unit := step f fun _ => done ()

/-- One step that returns with a new state, or raises and leaves the state. -/
def transaction (f : σ → Except ε (α × σ)) : Routine σ ε α :=
  step (fun s => match f s with | .ok (_, t) => t | .error _ => s)
    fun s => match f s with | .ok (a, _) => done a | .error e => raised e

/-- What a routine does when no other acts: what it returns or raises, and the state that it
leaves. -/
def alone : Routine σ ε α → σ → Except ε α × σ
  | done a, s => (.ok a, s)
  | raised e, s => (.error e, s)
  | step act next, s => (next s).alone (act s)

theorem alone_read_bind (f : σ → α) (k : α → Routine σ ε β) (s : σ) :
    (read f >>= k).alone s = (k (f s)).alone s :=
  rfl

theorem alone_lift_bind {x : Except ε α} {a : α} (h : x = .ok a) (k : α → Routine σ ε β) (s : σ) :
    ((liftM x : Routine σ ε α) >>= k).alone s = (k a).alone s := by
  rw [h]
  rfl

theorem alone_bind_pure {x : Routine σ ε α} {s t : σ} {a : α} {b : β} (h : x.alone s = (.ok a, t)) :
    (x >>= fun _ => pure b).alone s = (.ok b, t) := by
  show (x.andThen fun _ => .done b).alone s = (.ok b, t)
  induction x generalizing s with
  | done a => exact Prod.ext rfl (Prod.mk.inj h).2
  | raised e => cases (Prod.mk.inj h).1
  | step act next ih => exact ih s h

end Routine

/-! ## Contracts -/

/-- What a routine and the others owe each other: all keep `inv`, the others take the steps of
`rely`, and the routine those of `guarantee`. -/
structure Contract (σ : Type) where
  inv : σ → Prop
  rely : σ → σ → Prop
  guarantee : σ → σ → Prop
  /-- A step may leave the state. -/
  guarantee_refl : ∀ s, guarantee s s

namespace Routine

variable {σ ε α β : Type} {c : Contract σ}

/-- From `s`, which the routine's last step left: as long as the others keep the contract, so does
the routine, and what it returns meets `post` in the state that its last step leaves. -/
def Meets (c : Contract σ) (post : α → σ → Prop) : Routine σ ε α → σ → Prop
  | done a, s => post a s
  | raised _, _ => True
  | step act next, s => ∀ t, c.inv t → c.rely s t →
      c.inv (act t) ∧ c.guarantee t (act t) ∧ Meets c post (next t) (act t)

@[simp] theorem meets_pure {post : α → σ → Prop} {a : α} {s : σ} :
    Meets c post (pure a : Routine σ ε α) s ↔ post a s :=
  Iff.rfl

/-- **Sequencing.** -/
theorem meets_bind {post : β → σ → Prop} {x : Routine σ ε α} {f : α → Routine σ ε β} {s : σ} :
    Meets c post (x >>= f) s ↔ Meets c (fun a t => Meets c post (f a) t) x s := by
  show Meets c post (x.andThen f) s ↔ _
  induction x generalizing s with
  | done a => exact Iff.rfl
  | raised e => exact Iff.rfl
  | step act next ih =>
    refine forall_congr' fun t => imp_congr_right fun _ => imp_congr_right fun _ => ?_
    exact and_congr_right fun _ => and_congr_right fun _ => ih t

theorem Meets.mono {post post' : α → σ → Prop} {x : Routine σ ε α} {s : σ} (h : Meets c post x s)
    (hpost : ∀ a t, post a t → post' a t) : Meets c post' x s := by
  induction x generalizing s with
  | done a => exact hpost a s h
  | raised e => trivial
  | step act next ih =>
    intro t hinv hrely
    obtain ⟨hact, hguarantee, hnext⟩ := h t hinv hrely
    exact ⟨hact, hguarantee, ih t hnext⟩

theorem Meets.bind {post : α → σ → Prop} {post' : β → σ → Prop} {x : Routine σ ε α}
    {f : α → Routine σ ε β} {s : σ} (h : Meets c post x s)
    (hf : ∀ a t, post a t → Meets c post' (f a) t) : Meets c post' (x >>= f) s :=
  meets_bind.mpr (h.mono hf)

theorem meets_lift_bind {post : β → σ → Prop} {x : Except ε α} {f : α → Routine σ ε β} {s : σ}
    (h : ∀ a, x = .ok a → Meets c post (f a) s) :
    Meets c post ((liftM x : Routine σ ε α) >>= f) s := by
  refine meets_bind.mpr ?_
  cases x with
  | ok a => exact h a rfl
  | error e => trivial

theorem meets_read {post : α → σ → Prop} {f : σ → α} {s : σ}
    (h : ∀ t, c.inv t → c.rely s t → post (f t) t) :
    Meets c post (read f : Routine σ ε α) s := by
  intro t hinv hrely
  exact ⟨hinv, c.guarantee_refl t, h t hinv hrely⟩

theorem meets_write {post : Unit → σ → Prop} {f : σ → σ} {s : σ}
    (h : ∀ t, c.inv t → c.rely s t → c.inv (f t) ∧ c.guarantee t (f t) ∧ post () (f t)) :
    Meets c post (write f : Routine σ ε Unit) s :=
  h

/-- A transaction that raises keeps every contract. -/
theorem meets_transaction {post : α → σ → Prop} {f : σ → Except ε (α × σ)} {s : σ}
    (h : ∀ t, c.inv t → c.rely s t → ∀ a u, f t = .ok (a, u) →
      c.inv u ∧ c.guarantee t u ∧ post a u) :
    Meets c post (transaction f) s := by
  intro t hinv hrely
  cases hf : f t with
  | error e =>
    simp only [hf]
    exact ⟨hinv, c.guarantee_refl t, trivial⟩
  | ok r =>
    obtain ⟨a, u⟩ := r
    simp only [hf]
    exact h t hinv hrely a u hf

/-- **A loop** keeps what each of its iterations keeps. -/
theorem meets_foldlM {γ : Type} {holds : List γ → β → σ → Prop} {f : β → γ → Routine σ ε β}
    {l : List γ} {b : β} {s : σ} (hstart : holds [] b s)
    (hf : ∀ before x after b s, l = before ++ x :: after → holds before b s →
      Meets c (holds (before ++ [x])) (f b x) s) :
    Meets c (holds l) (l.foldlM f b) s := by
  have hloop : ∀ after before b s, l = before ++ after → holds before b s →
      Meets c (holds l) (after.foldlM f b) s := by
    intro after
    induction after with
    | nil =>
      intro before b s hl hholds
      rw [List.append_nil] at hl
      rw [hl]
      exact hholds
    | cons x after ih =>
      intro before b s hl hholds
      rw [List.foldlM_cons]
      refine (hf before x after b s hl hholds).bind fun b' t hb' => ?_
      exact ih (before ++ [x]) b' t (by rw [hl, List.append_assoc]; rfl) hb'
  exact hloop l [] b s rfl hstart

/-- **What every step keeps** is kept from the state that a routine starts in. -/
theorem Meets.framed {kept : σ → σ → Prop} (hrefl : ∀ s, kept s s)
    (htrans : ∀ s t u, kept s t → kept t u → kept s u) (hrely : ∀ s t, c.rely s t → kept s t)
    (hguarantee : ∀ s t, c.guarantee s t → kept s t) {post : α → σ → Prop} {x : Routine σ ε α}
    {s : σ} (h : Meets c post x s) : Meets c (fun a t => kept s t ∧ post a t) x s := by
  have hframe : ∀ r, kept r s → Meets c (fun a t => kept r t ∧ post a t) x s := by
    intro r hr
    induction x generalizing s with
    | done a => exact ⟨hr, h⟩
    | raised e => trivial
    | step act next ih =>
      intro t hinv hst
      obtain ⟨hact, hstep, hnext⟩ := h t hinv hst
      have hrt := htrans r s t hr (hrely s t hst)
      exact ⟨hact, hstep, ih t hnext (htrans r t _ hrt (hguarantee t _ hstep))⟩
  exact hframe s (hrefl s)

/-- A routine may be read at any later state that its contract allows, unless it has returned. -/
theorem Meets.later {post : α → σ → Prop} (htrans : ∀ s t u, c.rely s t → c.rely t u → c.rely s u)
    (hpost : ∀ a s t, c.rely s t → post a s → post a t) {x : Routine σ ε α} {s t : σ}
    (h : Meets c post x s) (hrely : c.rely s t) : Meets c post x t := by
  cases x with
  | done a => exact hpost a s t hrely h
  | raised e => trivial
  | step act next => exact fun u hinv hu => h u hinv (htrans s t u hrely hu)

end Routine

/-! ## Pools -/

/-- A call that is under way: the state in which it was made, and what is left of it. -/
structure Running (κ σ ε α : Type) where
  call : κ
  began : σ
  rest : Routine σ ε α

/-- A state, and the calls on it that are under way. -/
structure Pool (κ σ ε α : Type) where
  state : σ
  running : List (Running κ σ ε α)

namespace Pool

variable {κ σ ε α : Type} (program : κ → Routine σ ε α) (admits : σ → κ → Prop)
  (together : κ → κ → Prop)

/-- What may happen to a pool: a call is made, a call takes its next step, or a call is over,
wherever it is: it has returned, has raised or has crashed. -/
inductive Step : Pool κ σ ε α → Pool κ σ ε α → Prop
  | start {p : Pool κ σ ε α} {call : κ} (hadmits : admits p.state call)
      (htogether : ∀ r ∈ p.running, together r.call call) :
      Step p ⟨p.state, ⟨call, p.state, program call⟩ :: p.running⟩
  | act {s : σ} {before after : List (Running κ σ ε α)} {call : κ} {began : σ} {f : σ → σ}
      {next : σ → Routine σ ε α} :
      Step ⟨s, before ++ ⟨call, began, .step f next⟩ :: after⟩
        ⟨f s, before ++ ⟨call, began, next s⟩ :: after⟩
  | stop {s : σ} {before after : List (Running κ σ ε α)} {r : Running κ σ ε α} :
      Step ⟨s, before ++ r :: after⟩ ⟨s, before ++ after⟩

/-- A run of a pool. -/
abbrev Run : Pool κ σ ε α → Pool κ σ ε α → Prop :=
  Relation.ReflTransGen (Step program admits together)

variable {program admits together}

/-- A call may be the only one to act until it is over. -/
theorem run_alone (call : κ) (began s : σ) (x : Routine σ ε α)
    (before after : List (Running κ σ ε α)) :
    Run program admits together ⟨s, before ++ ⟨call, began, x⟩ :: after⟩
      ⟨(x.alone s).2, before ++ ⟨call, began, .ofExcept (x.alone s).1⟩ :: after⟩ := by
  induction x generalizing s with
  | done a => exact .refl
  | raised e => exact .refl
  | step act next ih => exact .head .act (ih s (act s))

/-- A call that is made alone. -/
theorem run_call (s : σ) (call : κ) (h : admits s call) :
    Run program admits together ⟨s, []⟩
      ⟨((program call).alone s).2, [⟨call, s, .ofExcept ((program call).alone s).1⟩]⟩ :=
  .head (.start h (List.forall_mem_nil _)) (run_alone call s s (program call) [] [])

theorem run_through (s : σ) (call : κ) (h : admits s call) :
    Run program admits together ⟨s, []⟩ ⟨((program call).alone s).2, []⟩ := by
  have hstop : Step program admits together
      ⟨((program call).alone s).2, [] ++ ⟨call, s, .ofExcept ((program call).alone s).1⟩ :: []⟩
      ⟨((program call).alone s).2, [] ++ []⟩ := .stop
  exact (run_call s call h).tail hstop

variable (program admits together)

/-- Calls that keep their contracts, where calls that may be under way together keep what the
others rely on. -/
structure Agreement where
  inv : σ → Prop
  rely : κ → σ → σ → Prop
  guarantee : κ → σ → σ → Prop
  post : κ → σ → α → σ → Prop
  rely_refl : ∀ call s, rely call s s
  rely_trans : ∀ call s t u, rely call s t → rely call t u → rely call s u
  guarantee_refl : ∀ call s, guarantee call s s
  /-- Nothing that the others do makes a postcondition false. -/
  post_later : ∀ call began a s t, rely call s t → post call began a s → post call began a t
  meets : ∀ call s, inv s → admits s call →
    Routine.Meets ⟨inv, rely call, guarantee call, guarantee_refl call⟩ (post call s) (program call) s
  together_comm : ∀ call call', together call call' → together call' call
  relies : ∀ call call', together call call' → ∀ s t, guarantee call s t → rely call' s t

namespace Agreement

variable {program admits together} (a : Agreement program admits together)

/-- The contract of a call. -/
def contract (call : κ) : Contract σ := ⟨a.inv, a.rely call, a.guarantee call, a.guarantee_refl call⟩

/-- What holds of a pool in every run. -/
structure Safe (p : Pool κ σ ε α) : Prop where
  inv : a.inv p.state
  meets : ∀ r ∈ p.running, r.rest.Meets (a.contract r.call) (a.post r.call r.began) p.state
  together : p.running.Pairwise fun r r' => together r.call r'.call

variable {a} {p q : Pool κ σ ε α}

/-- A call that did not take the step goes on from the new state. -/
theorem Safe.others {s t : σ} {call : κ} {l : List (Running κ σ ε α)}
    (hmeets : ∀ r ∈ l, r.rest.Meets (a.contract r.call) (a.post r.call r.began) s)
    (htogether : ∀ r ∈ l, together call r.call) (h : a.guarantee call s t) :
    ∀ r ∈ l, r.rest.Meets (a.contract r.call) (a.post r.call r.began) t := by
  intro r hr
  refine (hmeets r hr).later (a.rely_trans r.call) (a.post_later r.call r.began) ?_
  exact a.relies call r.call (htogether r hr) s t h

/-- **One step.** -/
theorem Safe.step (h : a.Safe p) (hstep : Step program admits together p q) : a.Safe q := by
  cases hstep with
  | start hadmits htogether =>
    refine ⟨h.inv, List.forall_mem_cons.mpr ⟨a.meets _ _ h.inv hadmits, h.meets⟩, ?_⟩
    refine List.pairwise_cons.mpr ⟨?_, h.together⟩
    exact fun r hr => a.together_comm _ _ (htogether r hr)
  | @act s before after call began f next =>
    have hmeets := h.meets
    have htogether := h.together
    simp only [List.forall_mem_append, List.forall_mem_cons, List.pairwise_append,
      List.pairwise_cons] at hmeets htogether
    obtain ⟨hbefore, hcall, hafter⟩ := hmeets
    obtain ⟨hpairs, ⟨hcallAfter, hpairsAfter⟩, hcross⟩ := htogether
    obtain ⟨hinv, hguarantee, hnext⟩ := hcall s h.inv (a.rely_refl call s)
    refine ⟨hinv, ?_, ?_⟩
    · simp only [List.forall_mem_append, List.forall_mem_cons]
      refine ⟨Safe.others hbefore (fun r hr => ?_) hguarantee, hnext,
        Safe.others hafter hcallAfter hguarantee⟩
      exact a.together_comm _ _ (hcross r hr).1
    · simp only [List.pairwise_append, List.pairwise_cons, List.forall_mem_cons]
      exact ⟨hpairs, ⟨hcallAfter, hpairsAfter⟩, hcross⟩
  | @stop s before after r =>
    have hsublist : (before ++ after).Sublist (before ++ r :: after) :=
      (List.sublist_cons_self r after).append_left before
    exact ⟨h.inv, fun r' hr' => h.meets r' (hsublist.subset hr'), h.together.sublist hsublist⟩

/-- **In every run the invariant holds, and every call that has returned meets its
postcondition.** -/
theorem safe_of_run (h : a.Safe p) (hrun : Run program admits together p q) : a.Safe q := by
  induction hrun with
  | refl => exact h
  | tail _ hstep ih => exact ih.step hstep

/-- A pool with no call under way. -/
theorem safe_idle {s : σ} (h : a.inv s) : a.Safe (⟨s, []⟩ : Pool κ σ ε α) :=
  ⟨h, List.forall_mem_nil _, List.Pairwise.nil⟩

/-- **What every step of every call keeps, every run keeps.** -/
theorem kept_of_run {kept : σ → σ → Prop} (hrefl : ∀ s, kept s s)
    (htrans : ∀ s t u, kept s t → kept t u → kept s u)
    (hguarantee : ∀ call s t, a.guarantee call s t → kept s t) (h : a.Safe p)
    (hrun : Run program admits together p q) : kept p.state q.state := by
  induction hrun with
  | refl => exact hrefl p.state
  | @tail m q hrun hstep ih =>
    refine htrans _ _ _ ih ?_
    have hsafe := safe_of_run h hrun
    cases hstep with
    | start => exact hrefl _
    | @act s before after call began f next =>
      have hcall := hsafe.meets ⟨call, began, .step f next⟩
        (List.mem_append_right _ List.mem_cons_self)
      exact hguarantee call _ _ (hcall s hsafe.inv (a.rely_refl call s)).2.1
    | stop => exact hrefl _

end Agreement
end Pool
end WeatherBot.Common

import Mathlib.Logic.Relation
import WeatherBot.Common.Except

/-!
# Actions on a database

An `Action ε σ α` reads and writes a state `σ` and returns an `α` or raises an
`ε`; what it wrote before it raised stays written. `transaction` undoes it.

* `Returns`: the runs that return, with the rules for sequencing.
* `transaction_unchanged`: **a transaction that raises leaves the state as it
  was**, wherever its body raised.
* `returns_transaction`: one that returns is its body.
* `run_of_atomic`: what every call of a family that returns keeps, any run of calls
  keeps, if a call that raises changes nothing.
-/

namespace WeatherBot.Common

/-- A computation with a state that may raise. -/
def Action (ε σ α : Type) : Type := σ → Except ε α × σ

namespace Action

variable {ε σ α β : Type}

instance : Monad (Action ε σ) where
  pure a := fun s => (.ok a, s)
  bind x f := fun s =>
    match x s with
    | (.ok a, t) => f a t
    | (.error e, t) => (.error e, t)

theorem id_map (x : Action ε σ α) : id <$> x = x := by
  funext s
  show (match x s with
    | (.ok a, t) => (.ok a, t)
    | (.error e, t) => (.error e, t)) = x s
  rcases x s with ⟨_ | _, t⟩ <;> rfl

theorem bind_assoc {γ : Type} (x : Action ε σ α) (f : α → Action ε σ β) (g : β → Action ε σ γ) :
    x >>= f >>= g = x >>= fun a => f a >>= g := by
  funext s
  show (match (match x s with
      | (.ok a, t) => f a t
      | (.error e, t) => (.error e, t)) with
    | (.ok b, t) => g b t
    | (.error e, t) => (.error e, t)) = match x s with
    | (.ok a, t) => (f a >>= g) t
    | (.error e, t) => (.error e, t)
  rcases x s with ⟨_ | _, t⟩ <;> rfl

instance : LawfulMonad (Action ε σ) :=
  LawfulMonad.mk' (Action ε σ) id_map (fun _ _ => rfl) bind_assoc

/-- A computation that does not use the state. -/
instance : MonadLift (Except ε) (Action ε σ) where
  monadLift x := fun s => (x, s)

/-- Read the state. -/
def get : Action ε σ σ := fun s => (.ok s, s)

/-- Change the state. -/
def modify (f : σ → σ) : Action ε σ Unit := fun s => (.ok (), f s)

/-- Raise an error. -/
def raise (e : ε) : Action ε σ α := fun s => (.error e, s)

/-- Raise an error if there is one. -/
def raiseSome : Option ε → Action ε σ Unit
  | none => pure ()
  | some e => fun s => (.error e, s)

/-- `BEGIN`, the body, `COMMIT`; `ROLLBACK` if the body raises or the commit fails. -/
def transaction (beginError commitError : Option ε) (body : Action ε σ α) : Action ε σ α := fun s =>
  match beginError with
  | some e => (.error e, s)
  | none =>
    match body s with
    | (.error e, _) => (.error e, s)
    | (.ok a, t) =>
      match commitError with
      | some e => (.error e, s)
      | none => (.ok a, t)

/-! ## Runs that return -/

/-- From state `s` the action returns `a` and leaves `t`. -/
def Returns (x : Action ε σ α) (s : σ) (a : α) (t : σ) : Prop := x s = (.ok a, t)

theorem Returns.unique {x : Action ε σ α} {s t t' : σ} {a a' : α} (h : Returns x s a t)
    (h' : Returns x s a' t') : a' = a ∧ t' = t := by
  have := h.symm.trans h'
  rw [Prod.mk.injEq, Except.ok.injEq] at this
  exact ⟨this.1.symm, this.2.symm⟩

theorem returns_pure {a b : α} {s t : σ} :
    Returns (pure a : Action ε σ α) s b t ↔ b = a ∧ t = s := by
  constructor
  · intro h
    cases h
    exact ⟨rfl, rfl⟩
  · rintro ⟨rfl, rfl⟩
    rfl

theorem returns_bind {x : Action ε σ α} {f : α → Action ε σ β} {s t : σ} {b : β} :
    Returns (x >>= f) s b t ↔ ∃ a u, Returns x s a u ∧ Returns (f a) u b t := by
  show (match x s with
    | (.ok a, u) => f a u
    | (.error e, u) => (.error e, u)) = (.ok b, t) ↔ ∃ a u, x s = (.ok a, u) ∧ f a u = (.ok b, t)
  constructor
  · intro h
    cases hx : x s with
    | mk r u =>
      cases r with
      | ok a =>
        rw [hx] at h
        exact ⟨a, u, rfl, h⟩
      | error e =>
        rw [hx] at h
        cases h
  · rintro ⟨a, u, hx, hf⟩
    rw [hx]
    exact hf

theorem returns_lift {x : Except ε α} {s t : σ} {a : α} :
    Returns (liftM x : Action ε σ α) s a t ↔ x = .ok a ∧ t = s := by
  constructor
  · intro h
    cases h
    exact ⟨rfl, rfl⟩
  · rintro ⟨rfl, rfl⟩
    rfl

theorem returns_get {s t u : σ} : Returns (get : Action ε σ σ) s u t ↔ u = s ∧ t = s := by
  constructor
  · intro h
    cases h
    exact ⟨rfl, rfl⟩
  · rintro ⟨rfl, rfl⟩
    rfl

theorem returns_lift_bind {x : Except ε α} {f : α → Action ε σ β} {s t : σ} {b : β} :
    Returns (liftM x >>= f) s b t ↔ ∃ a, x = .ok a ∧ Returns (f a) s b t := by
  rw [returns_bind]
  constructor
  · rintro ⟨a, u, hx, hf⟩
    obtain ⟨hok, rfl⟩ := returns_lift.mp hx
    exact ⟨a, hok, hf⟩
  · rintro ⟨a, hx, hf⟩
    exact ⟨a, s, returns_lift.mpr ⟨hx, rfl⟩, hf⟩

theorem returns_get_bind {f : σ → Action ε σ β} {s t : σ} {b : β} :
    Returns (get >>= f) s b t ↔ Returns (f s) s b t := Iff.rfl

theorem returns_modify {f : σ → σ} {s t : σ} {u : Unit} :
    Returns (modify f : Action ε σ Unit) s u t ↔ t = f s := by
  constructor
  · intro h
    cases h
    rfl
  · rintro rfl
    rfl

theorem returns_raiseSome {e : Option ε} {s t : σ} {u : Unit} :
    Returns (raiseSome e : Action ε σ Unit) s u t ↔ e = none ∧ t = s := by
  cases e with
  | none =>
    constructor
    · intro h
      cases h
      exact ⟨rfl, rfl⟩
    · rintro ⟨-, rfl⟩
      rfl
  | some e =>
    constructor
    · intro h
      cases h
    · rintro ⟨h, -⟩
      cases h

theorem not_returns_raise {e : ε} {s t : σ} {a : α} : ¬ Returns (raise e : Action ε σ α) s a t := by
  intro h
  cases h

theorem returns_foldlM_cons {f : β → α → Action ε σ β} {x : α} {xs : List α} {b b' : β} {s t : σ} :
    Returns ((x :: xs).foldlM f b) s b' t ↔
      ∃ b₁ u, Returns (f b x) s b₁ u ∧ Returns (xs.foldlM f b₁) u b' t := by
  rw [List.foldlM_cons]
  exact returns_bind

theorem returns_mapM_cons {f : α → Action ε σ β} {x : α} {xs : List α} {bs : List β} {s t : σ} :
    Returns ((x :: xs).mapM f) s bs t ↔
      ∃ b u rest, Returns (f x) s b u ∧ Returns (xs.mapM f) u rest t ∧ bs = b :: rest := by
  rw [List.mapM_cons, returns_bind]
  simp only [returns_bind, returns_pure]
  constructor
  · rintro ⟨b, u, hb, rest, v, hrest, rfl, rfl⟩
    exact ⟨b, u, rest, hb, hrest, rfl⟩
  · rintro ⟨b, u, rest, hb, hrest, rfl⟩
    exact ⟨b, u, hb, rest, t, hrest, rfl, rfl⟩

/-! ## Transactions -/

theorem returns_transaction {b c : Option ε} {body : Action ε σ α} {s t : σ} {a : α} :
    Returns (transaction b c body) s a t ↔ b = none ∧ c = none ∧ Returns body s a t := by
  unfold Returns transaction
  cases b with
  | some e => simp
  | none =>
    cases hbody : body s with
    | mk r u =>
      cases r with
      | error e => simp
      | ok a' =>
        cases c with
        | some e => simp
        | none => simp

/-- **A transaction that raises leaves the state as it was.** -/
theorem transaction_unchanged {b c : Option ε} {body : Action ε σ α} {s t : σ} {e : ε}
    (h : transaction b c body s = (.error e, t)) : t = s := by
  unfold transaction at h
  cases b with
  | some e =>
    cases h
    rfl
  | none =>
    cases hbody : body s with
    | mk r u =>
      rw [hbody] at h
      cases r with
      | error e =>
        cases h
        rfl
      | ok a =>
        cases c with
        | some e =>
          cases h
          rfl
        | none => cases h

/-! ## Runs of calls -/

/-- An action that raises leaves the state as it was. -/
def Atomic (x : Action ε σ α) : Prop := ∀ s e t, x s = (.error e, t) → t = s

theorem atomic_transaction (b c : Option ε) (body : Action ε σ α) : Atomic (transaction b c body) :=
  fun _ _ _ h => transaction_unchanged h

/-- What comes before a transaction reads only the arguments. -/
theorem atomic_lift_bind {x : Except ε α} {f : α → Action ε σ β} (h : ∀ a, Atomic (f a)) :
    Atomic (liftM x >>= f) := by
  intro s e t hs
  cases x with
  | error e' =>
    cases hs
    rfl
  | ok a => exact h a s e t hs

theorem Atomic.bind_pure {x : Action ε σ α} (h : Atomic x) (f : α → β) :
    Atomic (x >>= fun a => pure (f a)) := by
  intro s e t hs
  cases hx : x s with
  | mk r u =>
    cases r with
    | ok a =>
      have hreturns : Returns (x >>= fun a => pure (f a)) s (f a) u :=
        returns_bind.mpr ⟨a, u, hx, rfl⟩
      cases hreturns.symm.trans hs
    | error e' =>
      have hraises : (x >>= fun a => pure (f a)) s = (.error e', u) := by
        show (match x s with
          | (.ok a, u) => (pure (f a) : Action ε σ β) u
          | (.error e, u) => (.error e, u)) = (.error e', u)
        rw [hx]
      cases hraises.symm.trans hs
      exact h s _ _ hx

/-- One call of a family, whether it returns or raises. -/
def CallStep {ι : Type} (calls : ι → Action ε σ α) (s t : σ) : Prop := ∃ i, (calls i s).2 = t

/-- **A run of atomic calls** keeps what the calls that return keep, and its ends are related as the
ends of those calls are. -/
theorem run_of_atomic {ι : Type} {calls : ι → Action ε σ α} {Inv : σ → Prop} {R : σ → σ → Prop}
    (hatomic : ∀ i, Atomic (calls i)) (hrefl : ∀ s, R s s)
    (htrans : ∀ s t u, R s t → R t u → R s u)
    (hcall : ∀ i s a t, Inv s → Returns (calls i) s a t → Inv t ∧ R s t) {s t : σ} (hs : Inv s)
    (hrun : Relation.ReflTransGen (CallStep calls) s t) : Inv t ∧ R s t := by
  induction hrun with
  | refl => exact ⟨hs, hrefl s⟩
  | tail hprefix hlast ih =>
    rename_i t u
    obtain ⟨hinv, hrel⟩ := ih
    obtain ⟨i, rfl⟩ := hlast
    cases hcase : calls i t with
    | mk r v =>
      cases r with
      | error e =>
        rw [hatomic i t e v hcase]
        exact ⟨hinv, hrel⟩
      | ok a =>
        obtain ⟨hinv', hrel'⟩ := hcall i t a v hinv hcase
        exact ⟨hinv', htrans s t v hrel hrel'⟩

end Action

end WeatherBot.Common

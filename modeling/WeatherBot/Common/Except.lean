import Mathlib.Tactic

/-!
# Raising computations

Code that may raise is modelled in `Except ε`. This file has the two shapes the
models are written with, a guard (`raiseIf`, `ensure`,
`keepOk`) and a loop (`forM`,
`List.foldlM`), and for each of them the lemma that says when it returns.

* `bind_eq_ok`, `raiseIf_bind_eq_ok`: a `do` block returns iff every step does.
* `forM_eq_ok`, `mapM_eq_ok_map`: a loop returns if every step does.
* `exists_mapM_of_perm`: the order of a loop does not decide whether it returns.
* `foldlM_invariant`: what every step keeps, a loop keeps.
-/

namespace WeatherBot.Common

variable {ε α β σ : Type}

/-! ## Guards -/

/-- `if bad: raise error`. -/
def raiseIf (bad : Prop) [Decidable bad] (error : ε) : Except ε Unit :=
  if bad then .error error else .ok ()

theorem raiseIf_eq_ok {bad : Prop} [Decidable bad] {error : ε} {u : Unit} :
    raiseIf bad error = .ok u ↔ ¬ bad := by
  unfold raiseIf
  split_ifs with h <;> simp [h]

theorem raiseIf_of_not {bad : Prop} [Decidable bad] (error : ε) (h : ¬ bad) :
    raiseIf bad error = .ok () :=
  raiseIf_eq_ok.mpr h

/-- `if not good: raise error`, keeping the proof of `good`. -/
def ensure (good : Prop) [Decidable good] (error : ε) : Except ε (PLift good) :=
  if h : good then .ok ⟨h⟩ else .error error

/-- Run a check, keeping the fact that it returned. -/
def keepOk (x : Except ε Unit) : Except ε (PLift (x = .ok ())) :=
  match x with
  | .ok () => .ok ⟨rfl⟩
  | .error e => .error e

/-- The result of a computation, or a default. -/
def okOr (x : Except ε α) (default : α) : α :=
  match x with
  | .ok a => a
  | .error _ => default

/-- A computation that is seen to return has a result. -/
theorem eq_ok_okOr {x : Except ε α} (h : x.isOk = true) (default : α) :
    x = .ok (okOr x default) := by
  cases x with
  | error e => cases h
  | ok a => rfl

theorem exists_of_isOk {x : Except ε α} (h : x.isOk = true) : ∃ a, x = .ok a := by
  cases x with
  | error e => cases h
  | ok a => exact ⟨a, rfl⟩

/-- Renaming the exceptions does not change what is returned. -/
theorem mapError_eq_ok {ε' : Type} {f : ε → ε'} {x : Except ε α} {a : α} :
    x.mapError f = .ok a ↔ x = .ok a := by
  cases x with
  | error e => exact iff_of_false (by rintro ⟨⟩) (by rintro ⟨⟩)
  | ok b => exact ⟨fun h => congrArg _ (Except.ok.inj h), fun h => congrArg _ (Except.ok.inj h)⟩

/-! ## Sequencing -/

theorem bind_eq_ok {x : Except ε α} {f : α → Except ε β} {b : β} :
    x >>= f = .ok b ↔ ∃ a, x = .ok a ∧ f a = .ok b := by
  cases x with
  | error e => simp [bind, Except.bind]
  | ok a => simp [bind, Except.bind]

/-- A computation whose only result is known. -/
theorem bind_eq_ok_of_iff {x : Except ε α} {a : α} {P : Prop} (h : ∀ y, x = .ok y ↔ P ∧ y = a)
    {f : α → Except ε β} {b : β} : x >>= f = .ok b ↔ P ∧ f a = .ok b := by
  simp only [bind_eq_ok, h]
  constructor
  · rintro ⟨_, ⟨hP, rfl⟩, hf⟩
    exact ⟨hP, hf⟩
  · rintro ⟨hP, hf⟩
    exact ⟨a, ⟨hP, rfl⟩, hf⟩

/-- A check in front of a computation. -/
theorem check_bind_eq_ok {x : Except ε Unit} {f : Unit → Except ε β} {b : β} :
    x >>= f = .ok b ↔ x = .ok () ∧ f () = .ok b := by
  rw [bind_eq_ok]
  constructor
  · rintro ⟨u, hx, hf⟩
    exact ⟨hx, hf⟩
  · rintro ⟨hx, hf⟩
    exact ⟨(), hx, hf⟩

theorem raiseIf_bind_eq_ok {bad : Prop} [Decidable bad] {error : ε} {f : Unit → Except ε β} {b : β} :
    raiseIf bad error >>= f = .ok b ↔ ¬ bad ∧ f () = .ok b := by
  rw [check_bind_eq_ok, raiseIf_eq_ok]

/-- A sequence raises in its first part, or after it. -/
theorem bind_eq_error {x : Except ε α} {f : α → Except ε β} {e : ε} :
    (x >>= f) = .error e ↔ x = .error e ∨ ∃ a, x = .ok a ∧ f a = .error e := by
  cases x with
  | error e' => exact ⟨fun h => .inl (congrArg _ (Except.error.inj h)),
      fun h => h.elim (fun h => congrArg _ (Except.error.inj h)) (by rintro ⟨a, ⟨⟩, -⟩)⟩
  | ok a => exact ⟨fun h => .inr ⟨a, rfl, h⟩,
      fun h => h.elim (by rintro ⟨⟩) (by rintro ⟨b, ⟨⟩, h⟩; exact h)⟩

theorem raiseIf_eq_error {bad : Prop} [Decidable bad] {error e : ε} :
    raiseIf bad error = .error e ↔ bad ∧ error = e := by
  unfold raiseIf
  split_ifs with h <;> simp [h]

theorem raiseIf_bind_eq_error {bad : Prop} [Decidable bad] {error e : ε} {f : Unit → Except ε β} :
    (raiseIf bad error >>= f) = .error e ↔ bad ∧ error = e ∨ ¬ bad ∧ f () = .error e := by
  rw [bind_eq_error, raiseIf_eq_error]
  refine or_congr_right ⟨?_, fun h => ⟨(), raiseIf_eq_ok.mpr h.1, h.2⟩⟩
  rintro ⟨_, h, hf⟩
  exact ⟨raiseIf_eq_ok.mp h, hf⟩

theorem ensure_bind_eq_ok {good : Prop} [Decidable good] {error : ε} {f : PLift good → Except ε β}
    {b : β} : ensure good error >>= f = .ok b ↔ ∃ h : good, f ⟨h⟩ = .ok b := by
  rw [bind_eq_ok]
  constructor
  · rintro ⟨⟨h⟩, -, hf⟩
    exact ⟨h, hf⟩
  · rintro ⟨h, hf⟩
    exact ⟨⟨h⟩, by rw [ensure, dif_pos h], hf⟩

theorem keepOk_bind_eq_ok {x : Except ε Unit} {f : PLift (x = .ok ()) → Except ε β} {b : β} :
    keepOk x >>= f = .ok b ↔ ∃ h : x = .ok (), f ⟨h⟩ = .ok b := by
  cases x with
  | error e =>
    constructor
    · exact nofun
    · rintro ⟨h, -⟩
      cases h
  | ok u =>
    constructor
    · intro hf
      exact ⟨rfl, hf⟩
    · rintro ⟨_, hf⟩
      exact hf

@[simp] theorem ok_bind (a : α) (f : α → Except ε β) : (Except.ok a >>= f) = f a := rfl

@[simp] theorem error_bind (e : ε) (f : α → Except ε β) : (Except.error e >>= f) = .error e := rfl

@[simp] theorem pure_eq_ok (a : α) : (pure a : Except ε α) = .ok a := rfl

@[simp] theorem throw_eq_error (e : ε) : (throw e : Except ε α) = .error e := rfl

/-! ## Loops -/

theorem forM_eq_ok {f : α → Except ε Unit} {xs : List α} :
    forM xs f = .ok () ↔ ∀ x ∈ xs, f x = .ok () := by
  induction xs with
  | nil => simp
  | cons x xs ih =>
    rw [List.forM_cons, bind_eq_ok, List.forall_mem_cons, ← ih]
    constructor
    · rintro ⟨u, hx, hxs⟩
      exact ⟨hx, hxs⟩
    · rintro ⟨hx, hxs⟩
      exact ⟨(), hx, hxs⟩

/-- Every result of a loop is the result of one of its steps. -/
theorem mem_of_mapM_eq_ok {f : α → Except ε β} {xs : List α} {ys : List β} (h : xs.mapM f = .ok ys)
    {y : β} (hy : y ∈ ys) : ∃ x ∈ xs, f x = .ok y := by
  induction xs generalizing ys with
  | nil =>
    cases h
    exact absurd hy List.not_mem_nil
  | cons x xs ih =>
    rw [List.mapM_cons] at h
    obtain ⟨z, hz, h⟩ := bind_eq_ok.mp h
    obtain ⟨zs, hzs, h⟩ := bind_eq_ok.mp h
    cases h
    rcases List.mem_cons.mp hy with rfl | hy
    · exact ⟨x, List.mem_cons_self .., hz⟩
    · obtain ⟨w, hw, hfw⟩ := ih hzs hy
      exact ⟨w, List.mem_cons_of_mem _ hw, hfw⟩

/-- Every step of a loop has a result. -/
theorem exists_of_mapM_eq_ok {f : α → Except ε β} {xs : List α} {ys : List β} (h : xs.mapM f = .ok ys)
    {x : α} (hx : x ∈ xs) : ∃ y ∈ ys, f x = .ok y := by
  induction xs generalizing ys with
  | nil => cases hx
  | cons x' xs ih =>
    rw [List.mapM_cons] at h
    obtain ⟨z, hz, h⟩ := bind_eq_ok.mp h
    obtain ⟨zs, hzs, h⟩ := bind_eq_ok.mp h
    cases h
    rcases List.mem_cons.mp hx with rfl | hx
    · exact ⟨z, List.mem_cons_self, hz⟩
    · obtain ⟨y, hy, hfy⟩ := ih hzs hx
      exact ⟨y, List.mem_cons_of_mem _ hy, hfy⟩

/-- A column that every step of a loop keeps. -/
theorem map_mapM_eq_ok {γ : Type} {f : α → Except ε β} (key : α → γ) (key' : β → γ)
    (hf : ∀ x y, f x = .ok y → key' y = key x) {xs : List α} {ys : List β} (h : xs.mapM f = .ok ys) :
    ys.map key' = xs.map key := by
  induction xs generalizing ys with
  | nil =>
    cases h
    rfl
  | cons x xs ih =>
    rw [List.mapM_cons] at h
    obtain ⟨y, hy, h⟩ := bind_eq_ok.mp h
    obtain ⟨ys, hys, h⟩ := bind_eq_ok.mp h
    cases h
    rw [List.map_cons, List.map_cons, hf x y hy, ih hys]

/-- The loop over a list in another order returns the same results in another order. -/
theorem exists_mapM_of_perm {f : α → Except ε β} {xs xs' : List α} (hp : xs.Perm xs') {ys : List β}
    (h : xs.mapM f = .ok ys) : ∃ ys', xs'.mapM f = .ok ys' ∧ ys.Perm ys' := by
  induction hp generalizing ys with
  | nil => exact ⟨ys, h, .refl ys⟩
  | cons x hp ih =>
    rw [List.mapM_cons] at h
    obtain ⟨y, hy, h⟩ := bind_eq_ok.mp h
    obtain ⟨rest, hrest, h⟩ := bind_eq_ok.mp h
    cases h
    obtain ⟨rest', hrest', hperm⟩ := ih hrest
    refine ⟨y :: rest', ?_, hperm.cons y⟩
    rw [List.mapM_cons, hy, ok_bind, hrest', ok_bind, pure_eq_ok]
  | swap x y l =>
    rw [List.mapM_cons, List.mapM_cons] at h
    obtain ⟨b, hb, h⟩ := bind_eq_ok.mp h
    obtain ⟨rest, hrest, h⟩ := bind_eq_ok.mp h
    cases h
    obtain ⟨a, ha, hrest⟩ := bind_eq_ok.mp hrest
    obtain ⟨rest, hl, hrest⟩ := bind_eq_ok.mp hrest
    cases hrest
    refine ⟨a :: b :: rest, ?_, .swap a b rest⟩
    rw [List.mapM_cons, List.mapM_cons, ha, ok_bind, hb, ok_bind, hl]
    rfl
  | trans _ _ ih ih' =>
    obtain ⟨ys', hys', hperm⟩ := ih h
    obtain ⟨ys'', hys'', hperm'⟩ := ih' hys'
    exact ⟨ys'', hys'', hperm.trans hperm'⟩

theorem exists_mapM_of_forall {f : α → Except ε β} {P : β → Prop} {xs : List α}
    (h : ∀ x ∈ xs, ∃ y, P y ∧ f x = .ok y) : ∃ ys, xs.mapM f = .ok ys ∧ ∀ y ∈ ys, P y := by
  induction xs with
  | nil => exact ⟨[], rfl, fun _ hy => absurd hy List.not_mem_nil⟩
  | cons x xs ih =>
    rw [List.forall_mem_cons] at h
    obtain ⟨y, hy, hfy⟩ := h.1
    obtain ⟨ys, hys, hall⟩ := ih h.2
    refine ⟨y :: ys, ?_, List.forall_mem_cons.mpr ⟨hy, hall⟩⟩
    rw [List.mapM_cons, hfy, ok_bind, hys]
    rfl

theorem mapM_eq_ok_map {f : α → Except ε β} {g : α → β} {xs : List α}
    (h : ∀ x ∈ xs, f x = .ok (g x)) : xs.mapM f = .ok (xs.map g) := by
  induction xs with
  | nil => rfl
  | cons x xs ih =>
    rw [List.forall_mem_cons] at h
    rw [List.mapM_cons, h.1, ok_bind, ih h.2]
    rfl

theorem mapM_eq_ok_self {f : α → Except ε α} {xs : List α} (h : ∀ x ∈ xs, f x = .ok x) :
    xs.mapM f = .ok xs := by
  have := mapM_eq_ok_map (g := id) h
  rwa [List.map_id] at this

theorem foldlM_cons_eq_ok {f : σ → α → Except ε σ} {s s' : σ} {x : α} {xs : List α} :
    (x :: xs).foldlM f s = .ok s' ↔ ∃ t, f s x = .ok t ∧ xs.foldlM f t = .ok s' := by
  rw [List.foldlM_cons, bind_eq_ok]

theorem foldlM_append_eq_ok {f : σ → α → Except ε σ} {s s' : σ} {xs ys : List α} :
    (xs ++ ys).foldlM f s = .ok s' ↔ ∃ t, xs.foldlM f s = .ok t ∧ ys.foldlM f t = .ok s' := by
  rw [List.foldlM_append, bind_eq_ok]

/-- What every returning step keeps, a returning loop keeps. -/
theorem foldlM_invariant {f : σ → α → Except ε σ} (P : σ → Prop)
    (hstep : ∀ s x s', P s → f s x = .ok s' → P s') :
    ∀ (xs : List α) (s s' : σ), P s → xs.foldlM f s = .ok s' → P s' := by
  intro xs
  induction xs with
  | nil =>
    intro s s' hs h
    cases h
    exact hs
  | cons x xs ih =>
    intro s s' hs h
    obtain ⟨t, hx, hxs⟩ := foldlM_cons_eq_ok.mp h
    exact ih t s' (hstep s x t hs hx) hxs

end WeatherBot.Common

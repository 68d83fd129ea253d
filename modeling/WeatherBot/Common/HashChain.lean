import Mathlib.Data.List.Induction
import Mathlib.Data.List.TakeDrop

/-!
# Hash chains

A chain of bodies is hashed from a genesis value: `bodies.foldl link genesis`.
`SoundLink` says that `link` has no collisions on the bodies at hand and never
returns to the genesis value.

* `SoundLink.chain_inj`: **equal chain hashes, equal chains**, of whatever lengths.
-/

namespace WeatherBot.Common

variable {H B : Type}

/-- A link function without collisions, on hashes in `P` and bodies in `Q`. -/
structure SoundLink (link : H → B → H) (genesis : H) (P : H → Prop) (Q : B → Prop) : Prop where
  mem_genesis : P genesis
  mem_link : ∀ {p b}, P p → Q b → P (link p b)
  inj : ∀ {p p' b b'}, P p → P p' → Q b → Q b' → link p b = link p' b' → p = p' ∧ b = b'
  ne_genesis : ∀ {p b}, P p → Q b → link p b ≠ genesis

namespace SoundLink

variable {link : H → B → H} {genesis : H} {P : H → Prop} {Q : B → Prop}
  (h : SoundLink link genesis P Q)

include h

/-- Every hash of a chain is in `P`. -/
theorem foldl_mem {bodies : List B} (hb : ∀ b ∈ bodies, Q b) : P (bodies.foldl link genesis) := by
  induction bodies using List.reverseRecOn with
  | nil => exact h.mem_genesis
  | append_singleton bodies b ih =>
    rw [List.foldl_append]
    refine h.mem_link (ih ?_) (hb b ?_)
    · exact fun c hc => hb c (List.mem_append_left _ hc)
    · exact List.mem_append_right _ (List.mem_singleton_self b)

/-- **The hash of a chain determines the chain.** The induction goes from the tail: equal hashes
have equal last bodies and equal predecessors. -/
theorem chain_inj {bodies bodies' : List B} (hb : ∀ b ∈ bodies, Q b) (hb' : ∀ b ∈ bodies', Q b)
    (heq : bodies.foldl link genesis = bodies'.foldl link genesis) : bodies = bodies' := by
  induction bodies using List.reverseRecOn generalizing bodies' with
  | nil =>
    induction bodies' using List.reverseRecOn with
    | nil => rfl
    | append_singleton rest b _ =>
      rw [List.forall_mem_append, List.forall_mem_singleton] at hb'
      rw [List.foldl_append] at heq
      exact absurd heq.symm (h.ne_genesis (h.foldl_mem hb'.1) hb'.2)
  | append_singleton init b ih =>
    rw [List.forall_mem_append, List.forall_mem_singleton] at hb
    rw [List.foldl_append] at heq
    induction bodies' using List.reverseRecOn with
    | nil => exact absurd heq (h.ne_genesis (h.foldl_mem hb.1) hb.2)
    | append_singleton init' b' _ =>
      rw [List.forall_mem_append, List.forall_mem_singleton] at hb'
      rw [List.foldl_append] at heq
      obtain ⟨hinit, hlast⟩ :=
        h.inj (h.foldl_mem hb.1) (h.foldl_mem hb'.1) hb.2 hb'.2 heq
      rw [ih hb.1 hb'.1 hinit, hlast]

end SoundLink

end WeatherBot.Common

import Mathlib.Data.List.Basic
import Mathlib.Data.List.Induction

/-!
# Sequences up to the order of independent steps

Two sequences are reorderings of each other when one arises from the other by
swapping adjacent independent steps and by replacing steps with interchangeable
ones. When every step acts on each location by an effect that depends on this
location alone, a location only sees its own history. Reordering steps that
never affect a common location keeps every history, and with it every content.
-/

namespace MeshPresence.Reorderings

variable {α κ ε σ ν : Type*} {Same Independent : α → α → Prop}

/-- Sequences that differ by swaps of adjacent independent steps, and by steps that
are interchangeable. -/
inductive Reordered (Same Independent : α → α → Prop) : List α → List α → Prop
  /-- The empty sequence. -/
  | nil : Reordered Same Independent [] []
  /-- Interchangeable first steps. -/
  | cons {a b : α} {l l' : List α} (h : Same a b) (hl : Reordered Same Independent l l') :
      Reordered Same Independent (a :: l) (b :: l')
  /-- Independent first steps in either order. -/
  | swap {a b : α} {l l' : List α} (h : Independent a b) (hl : Reordered Same Independent l l') :
      Reordered Same Independent (a :: b :: l) (b :: a :: l')
  /-- Reorderings compose. -/
  | trans {l l' l'' : List α} (h : Reordered Same Independent l l')
      (h' : Reordered Same Independent l' l'') : Reordered Same Independent l l''

/-- Both sequences consist of steps that the two relations allow. -/
theorem Reordered.forall_mem {p : α → Prop} (hsame : ∀ a b, Same a b → p a ∧ p b)
    (hindependent : ∀ a b, Independent a b → p a ∧ p b) {l l' : List α}
    (h : Reordered Same Independent l l') : (∀ a ∈ l, p a) ∧ ∀ a ∈ l', p a := by
  induction h with
  | nil => exact ⟨fun _ ha => absurd ha List.not_mem_nil,fun _ ha => absurd ha List.not_mem_nil⟩
  | cons h _ ih =>
    obtain ⟨ha,hb⟩ := hsame _ _ h
    exact ⟨List.forall_mem_cons.mpr ⟨ha,ih.1⟩,List.forall_mem_cons.mpr ⟨hb,ih.2⟩⟩
  | swap h _ ih =>
    obtain ⟨ha,hb⟩ := hindependent _ _ h
    exact ⟨List.forall_mem_cons.mpr ⟨ha,List.forall_mem_cons.mpr ⟨hb,ih.1⟩⟩,
      List.forall_mem_cons.mpr ⟨hb,List.forall_mem_cons.mpr ⟨ha,ih.2⟩⟩⟩
  | trans _ _ ih ih' => exact ⟨ih.1,ih'.2⟩

/-- The history of a location: the effects that the steps have on it. -/
def history (effect : κ → α → Option ε) (k : κ) (steps : List α) : List ε :=
  steps.filterMap (effect k)

/-- Reordering keeps the history of a location that no two independent steps affect. -/
theorem Reordered.history_eq {effect : κ → α → Option ε} {k : κ}
    (hsame : ∀ a b, Same a b → effect k a=effect k b)
    (hindependent : ∀ a b, Independent a b → effect k a=none ∨ effect k b=none) {l l' : List α}
    (h : Reordered Same Independent l l') : history effect k l=history effect k l' := by
  unfold history
  induction h with
  | nil => rfl
  | cons h _ ih => rw [List.filterMap_cons,List.filterMap_cons,hsame _ _ h,ih]
  | swap h _ ih =>
    rcases hindependent _ _ h with hnone | hnone
    · simp only [List.filterMap_cons,hnone,ih]
    · simp only [List.filterMap_cons,hnone,ih]
  | trans _ _ ih ih' => exact ih.trans ih'

/-- In states with an invariant, the allowed steps act on every location by their
effect on it, and leave it alone when they have none. -/
structure ActsLocally (Inv : σ → Prop) (Allowed : α → Prop) (lookup : σ → κ → ν)
    (step : σ → α → σ) (effect : κ → α → Option ε) (apply : ν → ε → ν) : Prop where
  /-- Steps keep the invariant. -/
  keeps : ∀ s a, Inv s → Inv (step s a)
  /-- The content of a location after a step. -/
  acts : ∀ s a k, Inv s → Allowed a →
    lookup (step s a) k=(effect k a).elim (lookup s k) (apply (lookup s k))

/-- The content of a location after a run is its history, applied to the content before. -/
theorem ActsLocally.run {Inv : σ → Prop} {Allowed : α → Prop} {lookup : σ → κ → ν}
    {step : σ → α → σ} {effect : κ → α → Option ε} {apply : ν → ε → ν}
    (h : ActsLocally Inv Allowed lookup step effect apply) {s : σ} (hs : Inv s) {steps : List α}
    (hsteps : ∀ a ∈ steps, Allowed a) (k : κ) :
    lookup (steps.foldl step s) k=(history effect k steps).foldl apply (lookup s k) := by
  induction steps generalizing s with
  | nil => rfl
  | cons a steps ih =>
    obtain ⟨ha,hrest⟩ := List.forall_mem_cons.mp hsteps
    have hstep := h.acts s a k hs ha
    have hlater := ih (h.keeps s a hs) hrest
    rw [List.foldl_cons,hlater,hstep,history,history,List.filterMap_cons]
    cases effect k a with
    | none => rfl
    | some e => rfl

/-- The effects since the last one that overwrites the content. -/
def sinceOverwrite (overwrites : ε → Bool) (effects : List ε) : List ε :=
  effects.foldl (fun kept e => if overwrites e then [e] else kept ++ [e]) []

/-- Effects before one that overwrites the content do not count. -/
theorem foldl_sinceOverwrite {overwrites : ε → Bool} {apply : ν → ε → ν}
    (h : ∀ e, overwrites e=true → ∀ content other, apply content e=apply other e)
    (effects : List ε) (content : ν) :
    (sinceOverwrite overwrites effects).foldl apply content=effects.foldl apply content := by
  induction effects using List.reverseRecOn with
  | nil => rfl
  | append_singleton effects e ih =>
    rw [sinceOverwrite,List.foldl_concat,List.foldl_concat]
    split
    · next he => exact h e he _ _
    · rw [List.foldl_concat]
      exact congrArg (apply · e) ih

end MeshPresence.Reorderings

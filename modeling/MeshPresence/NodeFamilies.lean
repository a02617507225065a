import Mathlib.Logic.Function.Basic
import Mathlib.Data.Option.Basic

/-!
# Families of nodes that run one step function

Every place of a family holds a node or nothing. A node may be placed, may take a step
of its own, and may be taken away; the other places do not change. What holds of every
node when it is placed and is kept by every step holds of all live nodes.
-/

namespace MeshPresence.NodeFamilies

variable {ι σ : Type*}

section Places

variable [DecidableEq ι]

/-- Put a node at a place, or clear the place. -/
def place (nodes : ι → Option σ) (i : ι) (s : Option σ) : ι → Option σ := Function.update nodes i s

/-- The place holds what was put there. -/
@[simp] theorem place_self (nodes : ι → Option σ) (i : ι) (s : Option σ) : place nodes i s i=s := by
  rw [place,Function.update_self]

/-- Other places do not change. -/
theorem place_ne (nodes : ι → Option σ) {i j : ι} (s : Option σ) (h : j ≠ i) :
    place nodes i s j=nodes j := by
  rw [place,Function.update_of_ne h]

/-- A place holds what was just put there or what it held before. -/
theorem place_cases {nodes : ι → Option σ} {i j : ι} {s : Option σ} {t : σ}
    (h : place nodes i s j=some t) : j=i ∧ s=some t ∨ j ≠ i ∧ nodes j=some t := by
  by_cases hj : j=i
  · subst hj
    rw [place_self] at h
    exact Or.inl ⟨rfl,h⟩
  · rw [place_ne nodes s hj] at h
    exact Or.inr ⟨hj,h⟩

end Places

/-- All live nodes satisfy a condition. -/
def Live (P : ι → σ → Prop) (nodes : ι → Option σ) : Prop := ∀ i s, nodes i=some s → P i s

/-- Without nodes there is nothing to satisfy. -/
theorem Live.none (P : ι → σ → Prop) : Live P fun _ => Option.none := by
  intro i s h
  cases h

variable [DecidableEq ι] {P : ι → σ → Prop} {nodes : ι → Option σ}

/-- A node that satisfies the condition is placed. -/
theorem Live.place (h : Live P nodes) {i : ι} {s : σ} (hs : P i s) :
    Live P (place nodes i (some s)) := by
  intro j t ht
  rcases place_cases ht with ⟨rfl,hst⟩|⟨-,ht⟩
  · cases hst
    exact hs
  · exact h j t ht

/-- A node is taken away. -/
theorem Live.clear (h : Live P nodes) (i : ι) :
    Live P (NodeFamilies.place nodes i Option.none) := by
  intro j t ht
  rcases place_cases ht with ⟨-,hn⟩|⟨-,ht⟩
  · cases hn
  · exact h j t ht

end MeshPresence.NodeFamilies

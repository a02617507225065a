import MeshPresence.FiniteMaps

/-!
# First occurrences of a class

A container that identifies entries by a coarser key than their own keeps the first
entry of every class and drops the later ones. In a listing that ascends by a strict
order, an element is kept exactly when no smaller element is in its class. A map that
is rebuilt from what was kept of its listing has lost exactly the keys with a smaller
key of the same class.
-/

namespace MeshPresence.FirstOccurrences

open FiniteMaps

section Lists

variable {α β γ : Type*} [DecidableEq γ] (f : α → γ)

/-- Keep the first element of every class. -/
def keepFirst : List α → List α
  | [] => []
  | a :: l => a :: (keepFirst l).filter fun b => f b ≠ f a

/-- Keeping first elements drops elements only. -/
theorem keepFirst_sublist (l : List α) : (keepFirst f l).Sublist l := by
  induction l with
  | nil => exact List.Sublist.refl _
  | cons a l ih => exact (List.filter_sublist.trans ih).cons_cons a

/-- Renaming the elements of a list commutes with keeping first elements. -/
theorem keepFirst_map (g : β → α) (l : List β) :
    keepFirst f (l.map g)=(keepFirst (fun b => f (g b)) l).map g := by
  induction l with
  | nil => rfl
  | cons b l ih =>
    rw [List.map_cons,keepFirst,keepFirst,List.map_cons,ih,List.filter_map]
    rfl

/-- In an ascending list an element is kept when no smaller one is in its class. -/
theorem mem_keepFirst {r : α → α → Prop} (hasymm : ∀ a b, r a b → ¬r b a) {l : List α}
    (hl : l.Pairwise r) {x : α} :
    x ∈ keepFirst f l ↔ x ∈ l ∧ ∀ y ∈ l, r y x → f y ≠ f x := by
  induction l with
  | nil => simp only [keepFirst,List.not_mem_nil,false_and]
  | cons a l ih =>
    obtain ⟨hhead,htail⟩ := List.pairwise_cons.mp hl
    rw [keepFirst,List.mem_cons,List.mem_filter,ih htail,decide_eq_true_eq,List.mem_cons]
    constructor
    · rintro (rfl|⟨⟨hx,hfirst⟩,hclass⟩)
      · refine ⟨Or.inl rfl,fun y hy hr => ?_⟩
        rcases List.mem_cons.mp hy with rfl|hy
        · exact absurd hr (hasymm _ _ hr)
        · exact absurd hr (hasymm _ _ (hhead y hy))
      · refine ⟨Or.inr hx,fun y hy hr => ?_⟩
        rcases List.mem_cons.mp hy with rfl|hy
        · exact Ne.symm hclass
        · exact hfirst y hy hr
    · rintro ⟨rfl|hx,hfirst⟩
      · exact Or.inl rfl
      · have hclass : f a ≠ f x := hfirst a List.mem_cons_self (hhead x hx)
        exact Or.inr ⟨⟨hx,fun y hy => hfirst y (List.mem_cons_of_mem a hy)⟩,Ne.symm hclass⟩

end Lists

section Maps

variable {κ ν γ : Type*} [Ord κ] [Std.TransOrd κ] [Std.LawfulEqOrd κ] [DecidableEq γ]

/-- The map that is rebuilt from the first entries of every class of keys. -/
def rebuildFirst (g : κ → γ) (m : Std.ExtTreeMap κ ν) : Std.ExtTreeMap κ ν :=
  Std.ExtTreeMap.ofList (keepFirst (fun entry => g entry.1) m.toList)

/-- An entry is kept when no smaller key is in the class of its key. -/
theorem mem_keepFirst_toList (g : κ → γ) {m : Std.ExtTreeMap κ ν} {k : κ} {v : ν} :
    (k,v) ∈ keepFirst (fun entry => g entry.1) m.toList ↔
      m[k]?=some v ∧ ∀ k' ∈ m, compare k' k=.lt → g k' ≠ g k := by
  have hasymm : ∀ a b : κ × ν, compare a.1 b.1=.lt → ¬compare b.1 a.1=.lt := by
    intro a b hab hba
    have hgt := Std.OrientedCmp.gt_of_lt hba
    rw [hab] at hgt
    cases hgt
  rw [mem_keepFirst _ hasymm Std.ExtTreeMap.ordered_keys_toList,
    Std.ExtTreeMap.mem_toList_iff_getElem?_eq_some]
  refine and_congr_right fun _ => ⟨fun h k' hk' hlt => ?_,fun h entry he hlt => ?_⟩
  · obtain ⟨v',hv'⟩ := Option.isSome_iff_exists.mp (Std.ExtTreeMap.mem_iff_isSome_getElem?.mp hk')
    exact h (k',v') (Std.ExtTreeMap.mem_toList_iff_getElem?_eq_some.mpr hv') hlt
  · have hvalue : m[entry.1]?=some entry.2 :=
      Std.ExtTreeMap.mem_toList_iff_getElem?_eq_some.mp he
    exact h entry.1 (Std.ExtTreeMap.mem_iff_isSome_getElem?.mpr (hvalue ▸ rfl)) hlt

/-- The rebuilt map stores what was kept. -/
theorem getElem?_rebuildFirst (g : κ → γ) {m : Std.ExtTreeMap κ ν} {k : κ} {v : ν} :
    (rebuildFirst g m)[k]?=some v ↔ m[k]?=some v ∧ ∀ k' ∈ m, compare k' k=.lt → g k' ≠ g k := by
  have hdistinct := Std.ExtTreeMap.distinct_keys_toList (t:=m)
  rw [rebuildFirst,getElem?_ofList_eq_some (hdistinct.sublist (keepFirst_sublist _ _)),
    mem_keepFirst_toList]

/-- A key without a smaller key in its class keeps its value. -/
theorem getElem?_rebuildFirst_of_first (g : κ → γ) {m : Std.ExtTreeMap κ ν} {k : κ}
    (h : ∀ k' ∈ m, compare k' k=.lt → g k' ≠ g k) : (rebuildFirst g m)[k]?=m[k]? := by
  ext v
  rw [getElem?_rebuildFirst]
  exact and_iff_left h

/-- A key with a smaller key in its class is lost. -/
theorem getElem?_rebuildFirst_of_later (g : κ → γ) {m : Std.ExtTreeMap κ ν} {k k' : κ}
    (hk' : k' ∈ m) (hlt : compare k' k=.lt) (hclass : g k'=g k) : (rebuildFirst g m)[k]?=none := by
  rw [Option.eq_none_iff_forall_ne_some]
  intro v hv
  exact (getElem?_rebuildFirst g).mp hv |>.2 k' hk' hlt hclass

/-- Nothing is lost when every class has one key. -/
theorem rebuildFirst_eq_self (g : κ → γ) {m : Std.ExtTreeMap κ ν}
    (h : ∀ k ∈ m, ∀ k' ∈ m, g k=g k' → k=k') : rebuildFirst g m=m := by
  apply Std.ExtTreeMap.ext_getElem?
  intro k
  ext v
  rw [getElem?_rebuildFirst]
  refine and_iff_left_of_imp fun hv k' hk' hlt hclass => ?_
  rw [h k' hk' k (Std.ExtTreeMap.mem_iff_isSome_getElem?.mpr (hv ▸ rfl)) hclass,
    Std.LawfulEqOrd.compare_eq_iff_eq.mpr rfl] at hlt
  cases hlt

end Maps

end MeshPresence.FirstOccurrences

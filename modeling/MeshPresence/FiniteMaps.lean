import Mathlib.Data.List.Sort

/-!
# Finite maps and unspecified iteration orders

Finite maps are the extensional tree maps of the standard library: equality is
equality of lookups, and the canonical listing is ascending in the key. The
lookup laws are restated with equality of keys instead of the comparator. A
container that does not fix its iteration order is a finite map together with
a choice of one permutation of its listing at every traversal.
-/

namespace MeshPresence.FiniteMaps

variable {κ ν : Type*} [Ord κ] [Std.TransOrd κ] [Std.LawfulEqOrd κ]

/-- Lookup after an insertion, by equality of keys. -/
theorem getElem?_insert [DecidableEq κ] (m : Std.ExtTreeMap κ ν) (k a : κ) (v : ν) :
    (m.insert k v)[a]?=if k=a then some v else m[a]? := by
  simp only [Std.ExtTreeMap.getElem?_insert,Std.LawfulEqOrd.compare_eq_iff_eq]

/-- Lookup after a removal, by equality of keys. -/
theorem getElem?_erase [DecidableEq κ] (m : Std.ExtTreeMap κ ν) (k a : κ) :
    (m.erase k)[a]?=if k=a then none else m[a]? := by
  simp only [Std.ExtTreeMap.getElem?_erase,Std.LawfulEqOrd.compare_eq_iff_eq]

/-- An insertion leaves every other key alone. -/
theorem getElem?_insert_ne (m : Std.ExtTreeMap κ ν) {k a : κ} (v : ν) (h : k ≠ a) :
    (m.insert k v)[a]?=m[a]? := by
  classical
  rw [getElem?_insert,if_neg h]

/-- A removal leaves every other key alone. -/
theorem getElem?_erase_ne (m : Std.ExtTreeMap κ ν) {k a : κ} (h : k ≠ a) :
    (m.erase k)[a]?=m[a]? := by
  classical
  rw [getElem?_erase,if_neg h]

/-- Inserting what a map stores already leaves it as it is. -/
theorem insert_eq_self {m : Std.ExtTreeMap κ ν} {k : κ} {v : ν} (h : m[k]?=some v) :
    m.insert k v=m := by
  classical
  apply Std.ExtTreeMap.ext_getElem?
  intro a
  rw [getElem?_insert]
  split
  · next he => rw [←he,h]
  · rfl

/-- Erasing a key that a map does not store leaves it as it is. -/
theorem erase_eq_self {m : Std.ExtTreeMap κ ν} {k : κ} (h : m[k]?=none) : m.erase k=m := by
  classical
  apply Std.ExtTreeMap.ext_getElem?
  intro a
  rw [getElem?_erase]
  split
  · next he => rw [←he,h]
  · rfl

/-- What is stored after a removal was stored before it. -/
theorem getElem?_of_erase {m : Std.ExtTreeMap κ ν} {k a : κ} {v : ν} (h : (m.erase k)[a]?=some v) :
    m[a]?=some v := by
  classical
  rw [getElem?_erase] at h
  split at h
  · cases h
  · exact h

/-- A map that is built from a list with distinct keys stores exactly the listed entries. -/
theorem getElem?_ofList_eq_some {l : List (κ × ν)}
    (hl : l.Pairwise fun a b => ¬compare a.1 b.1=.eq) {k : κ} {v : ν} :
    (Std.ExtTreeMap.ofList l)[k]?=some v ↔ (k,v) ∈ l := by
  classical
  refine ⟨fun h => ?_,Std.ExtTreeMap.getElem?_ofList_of_mem Std.ReflCmp.compare_self hl⟩
  by_cases hk : k ∈ l.map Prod.fst
  · obtain ⟨⟨k',v'⟩,hm,rfl⟩ := List.mem_map.mp hk
    have hself : compare k' k'=.eq := Std.ReflCmp.compare_self
    have hv := Std.ExtTreeMap.getElem?_ofList_of_mem hself hl hm
    rw [h] at hv
    cases hv
    exact hm
  · have habsent : (l.map Prod.fst).contains k=false := by
      rwa [List.contains_eq_mem,decide_eq_false_iff_not]
    have hnone : (Std.ExtTreeMap.ofList l)[k]?=none :=
      Std.ExtTreeMap.getElem?_ofList_of_contains_eq_false habsent
    cases hnone.symm.trans h

/-- Rebuilding a map from its canonical listing gives the map back. -/
theorem ofList_toList (m : Std.ExtTreeMap κ ν) : Std.ExtTreeMap.ofList m.toList=m := by
  apply Std.ExtTreeMap.ext_getElem?
  intro k
  ext v
  rw [getElem?_ofList_eq_some Std.ExtTreeMap.distinct_keys_toList,
    Std.ExtTreeMap.mem_toList_iff_getElem?_eq_some]

/-- The parts of two listings under selected keys agree exactly when the maps
agree on those keys. -/
theorem filter_toList_eq_iff {m m' : Std.ExtTreeMap κ ν} {p : κ → Bool} :
    (m.toList.filter fun entry => p entry.1)=(m'.toList.filter fun entry => p entry.1) ↔
      ∀ k, p k=true → m[k]?=m'[k]? := by
  rw [←Std.ExtTreeMap.toList_filter (t:=m) (f:=fun k _ => p k),
    ←Std.ExtTreeMap.toList_filter (t:=m') (f:=fun k _ => p k),Std.ExtTreeMap.toList_inj]
  have hfilter : ∀ (m : Std.ExtTreeMap κ ν) (k : κ),
      (m.filter fun k _ => p k)[k]?=if p k then m[k]? else none := by
    intro m k
    rw [Std.ExtTreeMap.getElem?_filter']
    cases m[k]? <;> cases p k <;> simp
  constructor
  · intro h k hk
    simpa only [hfilter,hk,if_true] using congrArg (fun m => m[k]?) h
  · intro h
    apply Std.ExtTreeMap.ext_getElem?
    intro k
    rw [hfilter,hfilter]
    split
    · next hk => exact h k hk
    · rfl

/-- The orders in which an unordered container yields its entries: one listing
of every content, with no relation between the listings of two contents. -/
structure Iteration (κ ν : Type*) [Ord κ] [Std.TransOrd κ] where
  /-- Entries in the order of this traversal. -/
  entries : Std.ExtTreeMap κ ν → List (κ × ν)
  /-- Every entry is yielded exactly once. -/
  perm : ∀ m, (entries m).Perm m.toList

namespace Iteration

/-- Traversal in ascending order of the keys. -/
def ascending : Iteration κ ν := ⟨fun m => m.toList,fun _ => List.Perm.refl _⟩

/-- Traversal that visits one key first and the others in ascending order. -/
def startingWith [DecidableEq κ] (k : κ) : Iteration κ ν where
  entries m := (m.toList.filter fun entry => entry.1=k) ++
    m.toList.filter fun entry => !decide (entry.1=k)
  perm m := List.filter_append_perm _ m.toList

/-- A traversal that starts with a matching key finds it. -/
theorem find_startingWith [DecidableEq κ] {m : Std.ExtTreeMap κ ν} {p : κ × ν → Bool} {k : κ}
    {v : ν} (h : m[k]?=some v) (hp : p (k,v)=true) :
    ((startingWith k).entries m).find? p=some (k,v) := by
  have hmem : (k,v) ∈ m.toList.filter fun entry => entry.1=k :=
    List.mem_filter.mpr ⟨Std.ExtTreeMap.mem_toList_iff_getElem?_eq_some.mpr h,decide_eq_true rfl⟩
  have hfound := List.find?_isSome.mpr ⟨(k,v),hmem,hp⟩
  obtain ⟨entry,he⟩ := Option.isSome_iff_exists.mp hfound
  obtain ⟨hlist,hkey⟩ := List.mem_filter.mp (List.mem_of_find?_eq_some he)
  have hvalue := Std.ExtTreeMap.mem_toList_iff_getElem?_eq_some.mp hlist
  rw [of_decide_eq_true hkey,h] at hvalue
  have hentry : entry=(k,v) :=
    Prod.ext (of_decide_eq_true hkey) (Option.some.inj hvalue).symm
  rw [startingWith,List.find?_append,he,Option.some_or,hentry]

variable (order : Iteration κ ν)

/-- A traversal yields exactly the stored entries. -/
@[simp] theorem mem_entries {m : Std.ExtTreeMap κ ν} {k : κ} {v : ν} :
    (k,v) ∈ order.entries m ↔ m[k]?=some v := by
  rw [(order.perm m).mem_iff,Std.ExtTreeMap.mem_toList_iff_getElem?_eq_some]

omit [Std.LawfulEqOrd κ] in
/-- A traversal yields no key twice. -/
theorem nodup_keys (m : Std.ExtTreeMap κ ν) : ((order.entries m).map Prod.fst).Nodup := by
  rw [((order.perm m).map Prod.fst).nodup_iff,Std.ExtTreeMap.map_fst_toList_eq_keys]
  exact Std.ExtTreeMap.nodup_keys

/-- The first match of a traversal is a stored entry that matches. -/
theorem find_some {m : Std.ExtTreeMap κ ν} {p : κ × ν → Bool} {k : κ} {v : ν}
    (h : (order.entries m).find? p=some (k,v)) : m[k]?=some v ∧ p (k,v)=true :=
  ⟨order.mem_entries.mp (List.mem_of_find?_eq_some h),List.find?_some h⟩

/-- A traversal without a match passed over every stored entry. -/
theorem find_none {m : Std.ExtTreeMap κ ν} {p : κ × ν → Bool}
    (h : (order.entries m).find? p=none) {k : κ} {v : ν} (hm : m[k]?=some v) : p (k,v)=false := by
  have hp := List.find?_eq_none.mp h (k,v) (order.mem_entries.mpr hm)
  exact Bool.eq_false_iff.mpr hp

end Iteration

end MeshPresence.FiniteMaps

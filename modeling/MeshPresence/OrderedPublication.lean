import Mathlib.Data.Set.Insert
import Mathlib.Data.List.Basic

/-!
# Publication of numbered values in order

Values are numbered when they are taken and published later, by several parties.
When every publication is that of an oldest waiting value, the published value is
the newest one taken as soon as nothing waits. Parties keep their waiting work in
the slots of a table; replacing one slot changes the work of the table by the work
of that slot.
-/

namespace MeshPresence.OrderedPublication

variable {ν : Type*}

/-- Numbers below `taken` were given out, the newest to the value `latest`. Either
the newest value still waits, or it is published and nothing waits. -/
structure Ordered (taken : ℕ) (latest : ν) (waiting : Set (ℕ × ν)) (published : Option ν) : Prop where
  /-- Waiting values have numbers that were given out. -/
  numbered : ∀ p ∈ waiting, p.1<taken
  /-- The newest number stands for the newest value. -/
  newest : ∀ p ∈ waiting, p.1+1=taken → p.2=latest
  /-- The newest value waits or is published last. -/
  current : (∃ p ∈ waiting, p.1+1=taken) ∨ (published=some latest ∧ waiting=∅)

variable {taken : ℕ} {latest : ν} {waiting waiting' : Set (ℕ × ν)} {published : Option ν}

/-- The first value waits. -/
theorem Ordered.start (v : ν) (published : Option ν) : Ordered 1 v {(0,v)} published where
  numbered := fun p hp => by
    rw [Set.mem_singleton_iff.mp hp]
    exact Nat.zero_lt_one
  newest := fun p hp _ => by rw [Set.mem_singleton_iff.mp hp]
  current := Or.inl ⟨(0,v),Set.mem_singleton _,rfl⟩

/-- Taking a value gives it the next number. -/
theorem Ordered.take (h : Ordered taken latest waiting published) (v : ν) :
    Ordered (taken+1) v (insert (taken,v) waiting) published where
  numbered := fun p hp => by
    rcases Set.mem_insert_iff.mp hp with rfl|hp
    · exact Nat.lt_succ_self taken
    · exact Nat.lt_succ_of_lt (h.numbered p hp)
  newest := fun p hp hn => by
    rcases Set.mem_insert_iff.mp hp with rfl|hp
    · rfl
    · exact absurd (h.numbered p hp) (by omega)
  current := Or.inl ⟨(taken,v),Set.mem_insert _ _,rfl⟩

/-- Publishing an oldest waiting value, wherever else it waits. -/
theorem Ordered.publish (h : Ordered taken latest waiting published) {p : ℕ × ν}
    (hp : p ∈ waiting) (hfirst : ∀ q ∈ waiting, p.1≤q.1) (honly : ∀ q ∈ waiting', q ∈ waiting)
    (hkept : ∀ q ∈ waiting, q=p ∨ q ∈ waiting') : Ordered taken latest waiting' (some p.2) where
  numbered := fun q hq => h.numbered q (honly q hq)
  newest := fun q hq => h.newest q (honly q hq)
  current := by
    by_cases hn : p.1+1=taken
    · rcases Set.eq_empty_or_nonempty waiting' with he|⟨q,hq⟩
      · exact Or.inr ⟨by rw [h.newest p hp hn],he⟩
      · have hlow := hfirst q (honly q hq)
        have hhigh := h.numbered q (honly q hq)
        exact Or.inl ⟨q,hq,by omega⟩
    · rcases h.current with ⟨q,hq,hqn⟩|⟨-,he⟩
      · rcases hkept q hq with rfl|hq'
        · exact absurd hqn hn
        · exact Or.inl ⟨q,hq',hqn⟩
      · rw [he] at hp
        exact absurd hp (Set.notMem_empty p)

/-- When nothing waits the newest value is published. -/
theorem Ordered.settled (h : Ordered taken latest waiting published) (he : waiting=∅) :
    published=some latest := by
  rcases h.current with ⟨p,hp,-⟩|⟨hpublished,-⟩
  · rw [he] at hp
    exact absurd hp (Set.notMem_empty p)
  · exact hpublished

section Slots

variable {α β : Type*} {work : α → Option β} {slots : List α} {i : ℕ} {old new : α} {b : β}

/-- After a replacement the table holds old work or the work of the new slot. -/
theorem work_of_mem_set (h : b ∈ (slots.set i new).filterMap work) :
    b ∈ slots.filterMap work ∨ work new=some b := by
  obtain ⟨a,ha,hb⟩ := List.mem_filterMap.mp h
  rcases List.mem_or_eq_of_mem_set ha with ha|rfl
  · exact Or.inl (List.mem_filterMap.mpr ⟨a,ha,hb⟩)
  · exact Or.inr hb

/-- A replacement loses no work but that of the old slot. -/
theorem work_mem_set_of_mem (hold : slots[i]?=some old) (h : b ∈ slots.filterMap work) :
    work old=some b ∨ b ∈ (slots.set i new).filterMap work := by
  obtain ⟨a,ha,hb⟩ := List.mem_filterMap.mp h
  obtain ⟨j,hj⟩ := List.mem_iff_getElem?.mp ha
  by_cases he : i=j
  · subst he
    rw [hold] at hj
    exact Or.inl (Option.some.inj hj ▸ hb)
  · refine Or.inr (List.mem_filterMap.mpr ⟨a,List.mem_iff_getElem?.mpr ⟨j,?_⟩,hb⟩)
    rw [List.getElem?_set_ne he,hj]

/-- A replacement adds the work of the new slot. -/
theorem work_mem_set_new (hold : slots[i]?=some old) (h : work new=some b) :
    b ∈ (slots.set i new).filterMap work := by
  obtain ⟨hlt,-⟩ := List.getElem?_eq_some_iff.mp hold
  exact List.mem_filterMap.mpr ⟨new,List.mem_iff_getElem?.mpr ⟨i,List.getElem?_set_self hlt⟩,h⟩

/-- The work of a slot is work of the table. -/
theorem work_mem (hold : slots[i]?=some old) (h : work old=some b) : b ∈ slots.filterMap work :=
  List.mem_filterMap.mpr ⟨old,List.mem_of_getElem? hold,h⟩

end Slots

end MeshPresence.OrderedPublication

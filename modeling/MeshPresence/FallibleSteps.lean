import Mathlib.Data.List.Forall2

/-!
# Inversion of fallible computations

A computation in the error monad succeeds exactly when each of its steps does.
The rules take a successful sequence apart: binds, early rejections, folds
and traversals of a list. The converse rules put one together.
-/

namespace MeshPresence.FallibleSteps

variable {ε α β γ : Type}

/-- A successful sequence succeeded at its first step. -/
theorem bind_ok {x : Except ε α} {f : α → Except ε β} {r : β} (h : (x >>= f)=.ok r) :
    ∃ a, x=.ok a ∧ f a=.ok r := by
  cases x with
  | error e => cases h
  | ok a => exact ⟨a,rfl,h⟩

/-- A computation with a result succeeds with it. -/
theorem ok_of_toOption {x : Except ε α} {a : α} (h : x.toOption=some a) : x=.ok a := by
  cases x with
  | error e => cases h
  | ok b =>
    cases h
    rfl

/-- A successful first step hands its result on. -/
@[simp] theorem ok_bind (a : α) (f : α → Except ε β) : (Except.ok a >>= f)=f a := rfl

/-- A failed first step fails the sequence. -/
@[simp] theorem error_bind (e : ε) (f : α → Except ε β) : (Except.error e >>= f)=.error e := rfl

/-- A computation that passed an early rejection did not meet its condition. -/
theorem reject_ok {c : Prop} [Decidable c] {e : ε} {f : α → Except ε β} {x : Except ε β} {r : β}
    (h : (if c then (throw e >>= f) else x)=.ok r) : ¬c ∧ x=.ok r := by
  by_cases hc : c
  · rw [if_pos hc] at h
    cases h
  · rw [if_neg hc] at h
    exact ⟨hc,h⟩

/-- Rewriting the error of a computation keeps its success. -/
theorem mapError_ok {δ : Type} {x : Except ε α} {f : ε → δ} {r : α} (h : x.mapError f=.ok r) :
    x=.ok r := by
  cases x with
  | error e => cases h
  | ok a =>
    cases h
    rfl

/-- What every successful step of a fold keeps, a successful fold keeps. -/
theorem foldlM_ok {f : β → α → Except ε β} {P : β → Prop}
    (hstep : ∀ {s a t}, P s → f s a=.ok t → P t) {l : List α} {s t : β} (hs : P s)
    (h : l.foldlM f s=.ok t) : P t := by
  induction l generalizing s with
  | nil =>
    cases h
    exact hs
  | cons a l ih =>
    rw [List.foldlM_cons] at h
    obtain ⟨u,hu,h⟩ := bind_ok h
    exact ih (hstep hs hu) h

/-- A successful traversal succeeded at every element. -/
theorem mapM_ok {f : α → Except ε β} {l : List α} {r : List β} (h : l.mapM f=.ok r) :
    List.Forall₂ (fun a b => f a=.ok b) l r := by
  induction l generalizing r with
  | nil =>
    rw [List.mapM_nil] at h
    cases h
    exact List.Forall₂.nil
  | cons a l ih =>
    rw [List.mapM_cons] at h
    obtain ⟨b,hb,h⟩ := bind_ok h
    obtain ⟨rest,hrest,h⟩ := bind_ok h
    cases h
    exact List.Forall₂.cons hb (ih hrest)

/-- A traversal that succeeds at every element succeeds. -/
theorem mapM_of_forall₂ {f : α → Except ε β} {l : List α} {r : List β}
    (h : List.Forall₂ (fun a b => f a=.ok b) l r) : l.mapM f=.ok r := by
  induction h with
  | nil => rfl
  | cons ha _ ih =>
    rw [List.mapM_cons,ha,ih]
    rfl

/-- A computation with one result that succeeds under a condition fails otherwise. -/
theorem fails_or_succeeds {x : Except ε α} {good : Prop} {a : α}
    (h : ∀ {r}, x=.ok r ↔ good ∧ r=a) : (¬good ∧ ∃ e, x=.error e) ∨ (good ∧ x=.ok a) := by
  by_cases hgood : good
  · exact Or.inr ⟨hgood,h.mpr ⟨hgood,rfl⟩⟩
  · cases hx : x with
    | ok r => exact absurd (h.mp hx).1 hgood
    | error e => exact Or.inl ⟨hgood,e,rfl⟩

/-- A traversal of elements that each have a result has a result. -/
theorem exists_mapM_ok {f : α → Except ε β} {l : List α} (h : ∀ a ∈ l, ∃ b, f a=.ok b) :
    ∃ r, l.mapM f=.ok r := by
  induction l with
  | nil => exact ⟨[],rfl⟩
  | cons a l ih =>
    obtain ⟨b,hb⟩ := h a List.mem_cons_self
    obtain ⟨r,hr⟩ := ih fun c hc => h c (List.mem_cons_of_mem a hc)
    exact ⟨b :: r,mapM_of_forall₂ (List.Forall₂.cons hb (mapM_ok hr))⟩

/-- The results of a traversal come from its elements. -/
theorem exists_of_mem_mapM {f : α → Except ε β} {l : List α} {r : List β} (h : l.mapM f=.ok r)
    {b : β} (hb : b ∈ r) : ∃ a ∈ l, f a=.ok b := by
  induction mapM_ok h with
  | nil => cases hb
  | cons ha hrest ih =>
    rcases List.mem_cons.mp hb with rfl|hb
    · exact ⟨_,List.mem_cons_self,ha⟩
    · obtain ⟨a,hm,he⟩ := ih (mapM_of_forall₂ hrest) hb
      exact ⟨a,List.mem_cons_of_mem _ hm,he⟩

/-- Every element of a successful traversal has its result. -/
theorem exists_mem_of_mapM {f : α → Except ε β} {l : List α} {r : List β} (h : l.mapM f=.ok r)
    {a : α} (ha : a ∈ l) : ∃ b ∈ r, f a=.ok b := by
  induction mapM_ok h with
  | nil => cases ha
  | cons hb hrest ih =>
    rcases List.mem_cons.mp ha with rfl|ha
    · exact ⟨_,List.mem_cons_self,hb⟩
    · obtain ⟨b,hm,he⟩ := ih (mapM_of_forall₂ hrest) ha
      exact ⟨b,List.mem_cons_of_mem _ hm,he⟩

/-- A traversal whose function inverts a map undoes the map. -/
theorem mapM_map_ok {f : β → Except ε α} {g : α → β} (h : ∀ a, f (g a)=.ok a) (l : List α) :
    (l.map g).mapM f=.ok l := by
  apply mapM_of_forall₂
  rw [List.forall₂_map_left_iff]
  exact List.forall₂_same.mpr fun a _ => h a

section Stateful

variable {σ : Type}

/-- The state that a stateful computation leaves behind, also when it fails. -/
def leftBy : EStateM.Result ε σ α → σ
  | .ok _ s => s
  | .error _ s => s

/-- A stateful sequence goes on where its first step succeeded. -/
theorem run_bind_ok {x : EStateM ε σ α} {f : α → EStateM ε σ β} {s t : σ} {a : α}
    (h : x.run s=.ok a t) : (x >>= f).run s=(f a).run t := by
  simp only [EStateM.run] at h
  simp only [bind,EStateM.bind,EStateM.run,h]

/-- A stateful sequence ends where its first step failed. -/
theorem run_bind_error {x : EStateM ε σ α} {f : α → EStateM ε σ β} {s t : σ} {e : ε}
    (h : x.run s=.error e t) : (x >>= f).run s=.error e t := by
  simp only [EStateM.run] at h
  simp only [bind,EStateM.bind,EStateM.run,h]

end Stateful

end MeshPresence.FallibleSteps

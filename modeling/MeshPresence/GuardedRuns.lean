import Mathlib.Logic.Basic
import Mathlib.Data.List.Basic

/-!
# Runs of a step function under a condition on every step

A step function may refuse an action. A schedule is executed action by action
and fails at the first refusal. A guard is a condition on the state before a
step and the action taken there; a schedule is guarded when each of its steps
meets the guard. What every step preserves, a whole schedule preserves.
-/

namespace MeshPresence.GuardedRuns

variable {σ α : Type*}

/-- Execute a schedule from a state; a refused action refuses the schedule. -/
def exec (step : σ → α → Option σ) (s : σ) : List α → Option σ
  | [] => some s
  | a :: rest =>
    match step s a with
    | some t => exec step t rest
    | none => none

/-- Every step the schedule takes meets the guard in the state before it. -/
def Guarded (step : σ → α → Option σ) (guard : σ → α → Prop) (s : σ) : List α → Prop
  | [] => True
  | a :: rest => guard s a ∧
    match step s a with
    | some t => Guarded step guard t rest
    | none => True

/-- A decidable guard is decided by executing the schedule. -/
instance Guarded.decide (step : σ → α → Option σ) (guard : σ → α → Prop)
    [∀ s a, Decidable (guard s a)] : ∀ (s : σ) (acts : List α),
    Decidable (Guarded step guard s acts)
  | _, [] => isTrue trivial
  | s, a :: rest =>
    @instDecidableAnd (guard s a) _ inferInstance
      (match step s a with
      | some t => Guarded.decide step guard t rest
      | none => isTrue trivial)

variable {step : σ → α → Option σ} {guard : σ → α → Prop}

/-- The first action of an executed schedule was accepted. -/
theorem exec_cons {s t : σ} {a : α} {rest : List α} (h : exec step s (a :: rest)=some t) :
    ∃ u, step s a=some u ∧ exec step u rest=some t := by
  cases hs : step s a with
  | some u => exact ⟨u,rfl,by simpa only [exec,hs] using h⟩
  | none => simp only [exec,hs,reduceCtorEq] at h

/-- The first step of a guarded schedule meets the guard, and so do the others. -/
theorem Guarded.cons {s t : σ} {a : α} {rest : List α} (h : Guarded step guard s (a :: rest))
    (hs : step s a=some t) : guard s a ∧ Guarded step guard t rest := by
  simpa only [Guarded,hs] using h

/-- What every guarded step preserves holds after every guarded schedule. -/
theorem invariant_of_guarded (Inv : σ → Prop)
    (hstep : ∀ s a t, Inv s → guard s a → step s a=some t → Inv t) {s t : σ} {acts : List α}
    (hg : Guarded step guard s acts) (h : exec step s acts=some t) (hs : Inv s) : Inv t := by
  induction acts generalizing s with
  | nil =>
    cases h
    exact hs
  | cons a rest ih =>
    obtain ⟨u,hu,hrest⟩ := exec_cons h
    obtain ⟨ha,hgr⟩ := hg.cons hu
    exact ih hgr hrest (hstep s a u hs ha hu)

/-- What every step preserves holds after every schedule. -/
theorem invariant_of_exec (Inv : σ → Prop) (hstep : ∀ s a t, Inv s → step s a=some t → Inv t)
    {s t : σ} {acts : List α} (h : exec step s acts=some t) (hs : Inv s) : Inv t := by
  induction acts generalizing s with
  | nil =>
    cases h
    exact hs
  | cons a rest ih =>
    obtain ⟨u,hu,hrest⟩ := exec_cons h
    exact ih hrest (hstep s a u hs hu)

end MeshPresence.GuardedRuns

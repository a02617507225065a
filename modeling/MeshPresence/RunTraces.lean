import MeshPresence.GuardedRuns

/-!
# What the steps of a run give off

Every step of a system gives off outputs, which depend on the state before it and on the
action. The outputs of a run are those of its steps in order. A second system that follows
every step by consuming its outputs follows every run by consuming the outputs of the run.
-/

namespace MeshPresence.RunTraces

open GuardedRuns

variable {σ α β τ : Type*} {step : σ → α → Option σ} {emit : σ → α → List β}

/-- The outputs of a schedule, up to the first action that is refused. -/
def trace (step : σ → α → Option σ) (emit : σ → α → List β) (s : σ) : List α → List β
  | [] => []
  | a :: rest => emit s a ++
    match step s a with
    | some t => trace step emit t rest
    | none => []

/-- A schedule in two parts. -/
theorem exec_append_eq (step : σ → α → Option σ) (s : σ) (first rest : List α) :
    exec step s (first ++ rest)=(exec step s first).bind fun t => exec step t rest := by
  induction first generalizing s with
  | nil => rfl
  | cons a first ih =>
    rw [List.cons_append,exec,exec]
    cases step s a with
    | none => rfl
    | some u => exact ih u

/-- A schedule that goes on. -/
theorem exec_append {s t u : σ} {acts more : List α} (h : exec step s acts=some t)
    (hmore : exec step t more=some u) : exec step s (acts ++ more)=some u := by
  rw [exec_append_eq,h]
  exact hmore

/-- A schedule of one action. -/
theorem exec_singleton {s t : σ} {a : α} (h : step s a=some t) : exec step s [a]=some t := by
  rw [exec,h]
  rfl

/-- The outputs of a schedule that goes on. -/
theorem trace_append {s t : σ} {acts : List α} (h : exec step s acts=some t) (more : List α) :
    trace step emit s (acts ++ more)=trace step emit s acts ++ trace step emit t more := by
  induction acts generalizing s with
  | nil =>
    cases h
    rfl
  | cons a rest ih =>
    obtain ⟨v,hv,hrest⟩ := exec_cons h
    simp only [List.cons_append,trace,hv,ih hrest,List.append_assoc]

/-- A system that follows every step from states in an invariant follows every run. -/
theorem follows_exec (Inv : σ → Prop) (hinv : ∀ s a t, Inv s → step s a=some t → Inv t)
    {view : σ → τ} {follow : τ → β → τ}
    (h : ∀ s a t, Inv s → step s a=some t → view t=(emit s a).foldl follow (view s)) {s t : σ}
    {acts : List α} (hrun : exec step s acts=some t) (hs : Inv s) :
    view t=(trace step emit s acts).foldl follow (view s) := by
  induction acts generalizing s with
  | nil =>
    cases hrun
    rfl
  | cons a rest ih =>
    obtain ⟨u,hu,hrest⟩ := exec_cons hrun
    rw [ih hrest (hinv s a u hs hu),h s a u hs hu]
    simp only [trace,hu,List.foldl_append]

end MeshPresence.RunTraces

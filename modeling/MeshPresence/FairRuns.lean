import Mathlib.Order.Filter.AtTopBot.Basic
import MeshPresence.RunTraces

/-!
# Runs without end

A run without end takes an action at every time, or rests. A kind of action, which may depend on
the state, is treated with justice when it is taken again and again if it is possible from some
time on, and with compassion when it is taken again and again if it is possible again and again.
What a run leads to is proved from the steps of the system, from the kind of action that helps,
and from a rank that the help lowers.
-/

namespace MeshPresence.FairRuns

open Filter GuardedRuns RunTraces

variable {σ α : Type*}

/-- A run without end of a step function. -/
structure InfiniteRun (step : σ → α → Option σ) where
  /-- The state at a time. -/
  state : ℕ → σ
  /-- The action that is taken at a time. -/
  action : ℕ → Option α
  /-- An action is a step. -/
  acts : ∀ n a, action n=some a → step (state n) a=some (state (n+1))
  /-- Without an action the state stays. -/
  rests : ∀ n, action n=none → state (n+1)=state n

/-- An action of a kind is possible. -/
def Enabled (step : σ → α → Option σ) (kind : σ → α → Prop) (s : σ) : Prop :=
  ∃ a t, kind s a ∧ step s a=some t

variable {step : σ → α → Option σ} {kind : σ → α → Prop} {P Q R : σ → Prop}

/-- An action of a kind that is not refused is possible. -/
theorem Enabled.of_isSome {s : σ} {a : α} (hkind : kind s a) (h : (step s a).isSome=true) :
    Enabled step kind s := by
  obtain ⟨t,ht⟩ := Option.isSome_iff_exists.mp h
  exact ⟨a,t,hkind,ht⟩

/-- An action of a kind is taken at a time. -/
def InfiniteRun.Takes (ρ : InfiniteRun step) (kind : σ → α → Prop) (n : ℕ) : Prop :=
  ∃ a, ρ.action n=some a ∧ kind (ρ.state n) a

/-- What is possible from some time on is done again and again. -/
def InfiniteRun.Just (ρ : InfiniteRun step) (kind : σ → α → Prop) : Prop :=
  (∀ᶠ n in atTop, Enabled step kind (ρ.state n)) → ∃ᶠ n in atTop, ρ.Takes kind n

/-- What is possible again and again is done again and again. -/
def InfiniteRun.Compassionate (ρ : InfiniteRun step) (kind : σ → α → Prop) : Prop :=
  (∃ᶠ n in atTop, Enabled step kind (ρ.state n)) → ∃ᶠ n in atTop, ρ.Takes kind n

/-- Whenever one condition holds, the other one holds then or later. -/
def InfiniteRun.LeadsTo (ρ : InfiniteRun step) (P Q : σ → Prop) : Prop :=
  ∀ n, P (ρ.state n) → ∃ k, n ≤ k ∧ Q (ρ.state k)

section Safety

variable {ρ : InfiniteRun step}

/-- What every step keeps or gives up for something else is kept over one time. -/
theorem InfiniteRun.keeps_or (ρ : InfiniteRun step) {n : ℕ}
    (hstep : ∀ a t, step (ρ.state n) a=some t → P t ∨ Q t) (h : P (ρ.state n)) :
    P (ρ.state (n+1)) ∨ Q (ρ.state (n+1)) := by
  cases haction : ρ.action n with
  | none =>
    rw [ρ.rests n haction]
    exact Or.inl h
  | some a => exact hstep a _ (ρ.acts n a haction)

/-- What every step keeps, unless it reaches something that is never reached, is kept. -/
theorem InfiniteRun.stays_unless (ρ : InfiniteRun step)
    (hstep : ∀ s a t, P s → ¬Q s → step s a=some t → P t ∨ Q t) {n : ℕ} (h : P (ρ.state n))
    (hnever : ∀ k, n ≤ k → ¬Q (ρ.state k)) {k : ℕ} (hk : n ≤ k) : P (ρ.state k) := by
  induction k, hk using Nat.le_induction with
  | base => exact h
  | succ k hk ih =>
    refine (ρ.keeps_or (fun a t => hstep _ a t ih (hnever k hk)) ih).resolve_right ?_
    exact hnever (k+1) (hk.trans k.le_succ)

/-- What every step that meets a guard keeps is kept when all steps of the run meet the guard. -/
theorem InfiniteRun.stays_guarded (ρ : InfiniteRun step) {guard : σ → α → Prop}
    (hguard : ∀ n a, ρ.action n=some a → guard (ρ.state n) a)
    (hstep : ∀ s a t, P s → guard s a → step s a=some t → P t) {n : ℕ} (h : P (ρ.state n)) {k : ℕ}
    (hk : n ≤ k) : P (ρ.state k) := by
  induction k, hk using Nat.le_induction with
  | base => exact h
  | succ k _ ih =>
    cases haction : ρ.action k with
    | none =>
      rw [ρ.rests k haction]
      exact ih
    | some a => exact hstep _ a _ ih (hguard k a haction) (ρ.acts k a haction)

/-- What every step keeps is kept. -/
theorem InfiniteRun.stays (ρ : InfiniteRun step)
    (hstep : ∀ s a t, P s → step s a=some t → P t) {n : ℕ} (h : P (ρ.state n)) {k : ℕ}
    (hk : n ≤ k) : P (ρ.state k) :=
  ρ.stays_unless (Q := fun _ => False) (fun s a t hs _ ht => Or.inl (hstep s a t hs ht)) h
    (fun _ _ => id) hk

/-- What holds at first and is kept by every step always holds. -/
theorem InfiniteRun.always (ρ : InfiniteRun step)
    (hstep : ∀ s a t, P s → step s a=some t → P t) (h : P (ρ.state 0)) (n : ℕ) : P (ρ.state n) :=
  ρ.stays hstep h n.zero_le

end Safety

section Progress

variable {ρ : InfiniteRun step}

/-- Compassion is more than justice. -/
theorem InfiniteRun.Compassionate.just (h : ρ.Compassionate kind) : ρ.Just kind := fun henabled =>
  h henabled.frequently

/-- Leading on. -/
theorem InfiniteRun.LeadsTo.trans (h : ρ.LeadsTo P Q) (h' : ρ.LeadsTo Q R) : ρ.LeadsTo P R := by
  intro n hn
  obtain ⟨k,hk,hq⟩ := h n hn
  obtain ⟨l,hl,hr⟩ := h' k hq
  exact ⟨l,hk.trans hl,hr⟩

/-- From a condition that every step keeps, two goals are reached together when the steps also
keep one of them. -/
theorem InfiniteRun.LeadsTo.and (hP : ∀ s a t, P s → step s a=some t → P t) (hq : ρ.LeadsTo P Q)
    (hQ : ∀ s a t, P s → Q s → step s a=some t → Q t) (hr : ρ.LeadsTo P R) :
    ρ.LeadsTo P fun s => Q s ∧ R s := by
  intro n hn
  obtain ⟨k,hk,hqk⟩ := hq n hn
  have hpk := ρ.stays hP hn hk
  obtain ⟨l,hl,hrl⟩ := hr k hpk
  have hboth := ρ.stays (P := fun s => P s ∧ Q s)
    (fun s a t h ht => ⟨hP s a t h.1 ht,hQ s a t h.1 h.2 ht⟩) ⟨hpk,hqk⟩ hl
  exact ⟨l,hk.trans hl,hboth.2,hrl⟩

/-- What is reached and kept by every step holds from some time on. -/
theorem InfiniteRun.LeadsTo.eventually (h : ρ.LeadsTo P Q)
    (hstep : ∀ s a t, Q s → step s a=some t → Q t) {n : ℕ} (hn : P (ρ.state n)) :
    ∀ᶠ k in atTop, Q (ρ.state k) := by
  obtain ⟨k,-,hq⟩ := h n hn
  exact eventually_atTop.mpr ⟨k,fun l hl => ρ.stays hstep hq hl⟩

/-- A kind of action that reaches the goal, and that is taken if the goal is never reached. -/
theorem leadsTo_of_takes (hstep : ∀ s a t, P s → ¬Q s → step s a=some t → P t ∨ Q t)
    (heffect : ∀ s a t, P s → ¬Q s → kind s a → step s a=some t → Q t)
    (htakes : ∀ n, (∀ k, n ≤ k → P (ρ.state k) ∧ ¬Q (ρ.state k)) → ∃ᶠ k in atTop, ρ.Takes kind k) :
    ρ.LeadsTo P Q := by
  intro n hn
  by_contra hnever
  have hno : ∀ k, n ≤ k → ¬Q (ρ.state k) := fun k hk hq => hnever ⟨k,hk,hq⟩
  have hkept : ∀ k, n ≤ k → P (ρ.state k) := fun k hk => ρ.stays_unless hstep hn hno hk
  obtain ⟨k,hk,a,haction,hkind⟩ :=
    frequently_atTop.mp (htakes n fun k hk => ⟨hkept k hk,hno k hk⟩) n
  exact hno (k+1) (hk.trans k.le_succ)
    (heffect _ a _ (hkept k hk) (hno k hk) hkind (ρ.acts k a haction))

/-- A just kind of action that is possible until the goal is reached, and reaches it. -/
theorem InfiniteRun.Just.leadsTo (h : ρ.Just kind)
    (hstep : ∀ s a t, P s → ¬Q s → step s a=some t → P t ∨ Q t)
    (henabled : ∀ s, P s → ¬Q s → Enabled step kind s)
    (heffect : ∀ s a t, P s → ¬Q s → kind s a → step s a=some t → Q t) : ρ.LeadsTo P Q := by
  refine leadsTo_of_takes hstep heffect fun n hn => h (eventually_atTop.mpr ⟨n,fun k hk => ?_⟩)
  exact henabled _ (hn k hk).1 (hn k hk).2

/-- A compassionate kind of action that becomes possible until the goal is reached, and reaches
it. -/
theorem InfiniteRun.Compassionate.leadsTo (h : ρ.Compassionate kind)
    (hstep : ∀ s a t, P s → ¬Q s → step s a=some t → P t ∨ Q t)
    (henabled : ρ.LeadsTo P fun s => Q s ∨ Enabled step kind s)
    (heffect : ∀ s a t, P s → ¬Q s → kind s a → step s a=some t → Q t) : ρ.LeadsTo P Q := by
  refine leadsTo_of_takes hstep heffect fun n hn => h (frequently_atTop.mpr fun k => ?_)
  obtain ⟨l,hl,hreached⟩ := henabled (max n k) (hn _ (le_max_left n k)).1
  have hlater : n ≤ l := (le_max_left n k).trans hl
  exact ⟨l,(le_max_right n k).trans hl,hreached.resolve_left (hn l hlater).2⟩

/-- A rank that goes down until the goal is reached. -/
theorem leadsTo_of_rank (rank : σ → ℕ) (h : ∀ bound,
      ρ.LeadsTo (fun s => P s ∧ rank s=bound) fun s => Q s ∨ P s ∧ rank s<bound) :
    ρ.LeadsTo P Q := by
  have hbelow : ∀ bound, ρ.LeadsTo (fun s => P s ∧ rank s=bound) Q := by
    intro bound
    induction bound using Nat.strong_induction_on with
    | _ bound ih =>
      intro n hn
      obtain ⟨k,hk,hq|⟨hp,hless⟩⟩ := h bound n hn
      · exact ⟨k,hk,hq⟩
      · obtain ⟨l,hl,hq⟩ := ih _ hless k ⟨hp,rfl⟩
        exact ⟨l,hk.trans hl,hq⟩
  exact fun n hn => hbelow _ n ⟨hn,rfl⟩

/-- A just kind of action that lowers a rank, which no other action raises, as long as the
goal is not reached. -/
theorem InfiniteRun.Just.leadsTo_rank (h : ρ.Just kind) (rank : σ → ℕ)
    (hstep : ∀ s a t, P s → ¬Q s → step s a=some t → P t ∧ rank t ≤ rank s ∨ Q t)
    (henabled : ∀ s, P s → ¬Q s → Enabled step kind s)
    (heffect : ∀ s a t, P s → ¬Q s → kind s a → step s a=some t →
      P t ∧ rank t<rank s ∨ Q t) : ρ.LeadsTo P Q := by
  refine leadsTo_of_rank rank fun bound => h.leadsTo (fun s a t hs hq ht => ?_)
    (fun s hs hq => henabled s hs.1 (not_or.mp hq).1) fun s a t hs hq hkind ht => ?_
  · obtain ⟨hp,rfl⟩ := hs
    rcases hstep s a t hp (not_or.mp hq).1 ht with ⟨hpt,hle⟩|hqt
    · exact hle.eq_or_lt.imp (fun he => ⟨hpt,he⟩) fun hlt => Or.inr ⟨hpt,hlt⟩
    · exact Or.inr (Or.inl hqt)
  · obtain ⟨hp,rfl⟩ := hs
    exact (heffect s a t hp (not_or.mp hq).1 hkind ht).symm

end Progress

section Schedules

variable {guard : σ → α → Prop} {s t : σ} {acts : List α}

/-- A schedule up to its next action. -/
theorem exec_take_succ (step : σ → α → Option σ) (s : σ) {n : ℕ} (h : n<acts.length) :
    exec step s (acts.take (n+1))=(exec step s (acts.take n)).bind fun t => step t acts[n] := by
  rw [List.take_succ_eq_append_getElem h,exec_append_eq]
  congr 1
  funext u
  rw [exec]
  cases step u acts[n] <;> rfl

/-- A schedule that can be executed can be executed up to every action. -/
theorem exec_take (h : exec step s acts=some t) (n : ℕ) :
    ∃ u, exec step s (acts.take n)=some u := by
  have hsplit := exec_append_eq step s (acts.take n) (acts.drop n)
  rw [List.take_append_drop,h] at hsplit
  obtain ⟨u,hu,-⟩ := Option.bind_eq_some_iff.mp hsplit.symm
  exact ⟨u,hu⟩

/-- A schedule and then, without end, rest or actions that change nothing. -/
def InfiniteRun.lasso (hrun : exec step s acts=some t) (loop : ℕ → Option α)
    (hloop : ∀ n a, loop n=some a → step t a=some t) : InfiniteRun step where
  state := fun n => (exec step s (acts.take n)).getD t
  action := fun n => if n<acts.length then acts[n]? else loop n
  acts := by
    intro n a ha
    obtain ⟨u,hu⟩ := exec_take hrun n
    obtain ⟨v,hv⟩ := exec_take hrun (n+1)
    split at ha
    · next hn =>
      rw [List.getElem?_eq_getElem hn,Option.some.injEq] at ha
      have hnext := exec_take_succ step s hn
      rw [hu,hv,ha,Option.bind_some] at hnext
      rw [hu,hv]
      exact hnext.symm
    · next hn =>
      have hle := Nat.le_of_not_lt hn
      rw [List.take_of_length_le hle,List.take_of_length_le (Nat.le_succ_of_le hle),hrun]
      exact hloop n a ha
  rests := by
    intro n ha
    split at ha
    · next hn =>
      rw [List.getElem?_eq_getElem hn] at ha
      cases ha
    · next hn =>
      have hle := Nat.le_of_not_lt hn
      rw [List.take_of_length_le hle,List.take_of_length_le (Nat.le_succ_of_le hle)]

variable {hrun : exec step s acts=some t} {loop : ℕ → Option α}
  {hloop : ∀ n a, loop n=some a → step t a=some t}

/-- After its schedule a lasso stays where it is. -/
theorem lasso_state {n : ℕ} (h : acts.length ≤ n) :
    (InfiniteRun.lasso hrun loop hloop).state n=t := by
  have hstate : (InfiniteRun.lasso hrun loop hloop).state n=
      (exec step s (acts.take n)).getD t := rfl
  rw [hstate,List.take_of_length_le h,hrun,Option.getD_some]

/-- After its schedule a lasso takes the actions of its loop. -/
theorem lasso_action {n : ℕ} (h : acts.length ≤ n) :
    (InfiniteRun.lasso hrun loop hloop).action n=loop n :=
  if_neg h.not_gt

/-- A kind of action that a loop takes again and again, if it is possible there, is treated with
compassion. -/
theorem lasso_compassionate
    (h : Enabled step kind t → ∃ᶠ n in atTop, ∃ a, loop n=some a ∧ kind t a) :
    (InfiniteRun.lasso hrun loop hloop).Compassionate kind := by
  intro henabled
  obtain ⟨n,hn,hkind⟩ := frequently_atTop.mp henabled acts.length
  rw [lasso_state hn] at hkind
  have hlong : ∀ᶠ n in atTop, acts.length ≤ n := eventually_ge_atTop acts.length
  refine ((h hkind).and_eventually hlong).mono fun n hn => ?_
  obtain ⟨⟨a,ha,hkind⟩,hle⟩ := hn
  exact ⟨a,(lasso_action hle).trans ha,by rw [lasso_state hle]; exact hkind⟩

end Schedules

end MeshPresence.FairRuns

import Mathlib.Computability.Language
import Mathlib.Logic.Function.Basic
import Mathlib.Order.CompletePartialOrder

/-!
# Journals of changes to a keyed store

A store assigns a value to some of its keys. A change reports that a key
joined with a value, was updated from one value to another, or left with its
last value. A journal is a log in which every change is legal where it happens:
joining keys are absent and the reported earlier values are the stored ones.
Replaying a journal reproduces the store, and the kinds of the changes of one
key form complete lifecycles followed by at most one open lifecycle.
-/

namespace MeshPresence.ChangeJournal

open scoped Computability

/-- One reported change of a keyed store. -/
inductive Change (κ ν : Type*) where
  /-- An absent key received its first value. -/
  | joined (key : κ) (value : ν)
  /-- A stored value was replaced. -/
  | updated (key : κ) (previous current : ν)
  /-- A stored key was removed together with its last value. -/
  | left (key : κ) (value : ν)

/-- The three kinds of changes. -/
inductive Kind where
  /-- A key joined. -/
  | joined
  /-- A key was updated. -/
  | updated
  /-- A key left. -/
  | left
  deriving DecidableEq

variable {κ ν : Type*}

/-- The key a change is about. -/
def Change.key : Change κ ν → κ
  | .joined k _ => k
  | .updated k _ _ => k
  | .left k _ => k

/-- The kind of a change. -/
def Change.kind : Change κ ν → Kind
  | .joined _ _ => .joined
  | .updated _ _ _ => .updated
  | .left _ _ => .left

variable [DecidableEq κ]

/-- The store after a change. -/
def Change.apply (m : κ → Option ν) : Change κ ν → κ → Option ν
  | .joined k v => Function.update m k (some v)
  | .updated k _ v => Function.update m k (some v)
  | .left k _ => Function.update m k none

omit [DecidableEq κ] in
/-- The report of a change agrees with the store it happens in. -/
def Change.Legal (m : κ → Option ν) : Change κ ν → Prop
  | .joined k _ => m k=none
  | .updated k previous _ => m k=some previous
  | .left k value => m k=some value

/-- The store after a whole log. -/
def replay (m : κ → Option ν) (log : List (Change κ ν)) : κ → Option ν := log.foldl Change.apply m

/-- Every change of the log is legal where it happens, and the log leads from
the first store to the second. -/
def Journal (m : κ → Option ν) : List (Change κ ν) → (κ → Option ν) → Prop
  | [],m' => m'=m
  | c :: log,m' => c.Legal m ∧ Journal (c.apply m) log m'

/-- An empty journal keeps the store. -/
theorem Journal.refl (m : κ → Option ν) : Journal m [] m := rfl

/-- A legal change is a journal of its own. -/
theorem Journal.single {m : κ → Option ν} {c : Change κ ν} (h : c.Legal m) :
    Journal m [c] (c.apply m) := ⟨h,rfl⟩

/-- Journals compose. -/
theorem Journal.trans {m₁ m₂ m₃ : κ → Option ν} {first second : List (Change κ ν)}
    (h₁ : Journal m₁ first m₂) (h₂ : Journal m₂ second m₃) : Journal m₁ (first ++ second) m₃ := by
  induction first generalizing m₁ with
  | nil =>
    cases h₁
    exact h₂
  | cons c first ih => exact ⟨h₁.1,ih h₁.2⟩

/-- Replaying a journal reproduces the store it leads to. -/
theorem Journal.replay_eq {m m' : κ → Option ν} {log : List (Change κ ν)} (h : Journal m log m') :
    replay m log=m' := by
  induction log generalizing m with
  | nil => exact h.symm
  | cons c log ih => exact ih h.2

/-- A journal goes on from the store that its first part leads to. -/
theorem Journal.behind {m m' : κ → Option ν} {first second : List (Change κ ν)}
    (h : Journal m (first ++ second) m') : Journal (replay m first) second m' := by
  induction first generalizing m with
  | nil => exact h
  | cons c first ih => exact ih h.2

/-- A change of another key leaves the value of this key alone. -/
theorem Change.apply_other {m : κ → Option ν} {c : Change κ ν} {k : κ} (h : c.key ≠ k) :
    c.apply m k=m k := by
  cases c <;> exact Function.update_of_ne (Ne.symm h) _ _

/-- Replaying two logs in turn is replaying them as one. -/
theorem replay_append (m : κ → Option ν) (first second : List (Change κ ν)) :
    replay m (first ++ second)=replay (replay m first) second := List.foldl_append

/-- What a change does to one key depends on the value of that key only. -/
theorem Change.apply_congr {m m' : κ → Option ν} {k : κ} (c : Change κ ν) (h : m k=m' k) :
    c.apply m k=c.apply m' k := by
  cases c <;> simp only [Change.apply,Function.update_apply,h]

/-- A change sets its own key to the same value in every store. -/
theorem Change.apply_key (m m' : κ → Option ν) (c : Change κ ν) :
    c.apply m c.key=c.apply m' c.key := by
  cases c <;> simp only [Change.apply,Change.key,Function.update_self]

/-- What a log does to one key depends on the value of that key only. -/
theorem replay_congr {m m' : κ → Option ν} {k : κ} (log : List (Change κ ν)) (h : m k=m' k) :
    replay m log k=replay m' log k := by
  induction log generalizing m m' with
  | nil => exact h
  | cons c log ih => exact ih (c.apply_congr h)

/-- A log without a change of a key leaves its value alone. -/
theorem replay_untouched {m : κ → Option ν} {k : κ} {log : List (Change κ ν)}
    (h : ∀ c ∈ log, c.key ≠ k) : replay m log k=m k := by
  induction log generalizing m with
  | nil => rfl
  | cons c log ih =>
    have hc : c.key ≠ k := h c List.mem_cons_self
    have hrest : replay (c.apply m) log k=c.apply m k :=
      ih fun d hd => h d (List.mem_cons_of_mem c hd)
    exact hrest.trans (Change.apply_other hc)

/-- A log with a change of a key sets it to the same value in every store. -/
theorem replay_touched (m m' : κ → Option ν) {k : κ} {log : List (Change κ ν)}
    (h : ∃ c ∈ log, c.key=k) : replay m log k=replay m' log k := by
  induction log generalizing m m' with
  | nil =>
    obtain ⟨c,hc,-⟩ := h
    exact absurd hc List.not_mem_nil
  | cons c log ih =>
    by_cases hrest : ∃ d ∈ log, d.key=k
    · exact ih (c.apply m) (c.apply m') hrest
    · obtain ⟨d,hd,hkey⟩ := h
      have hcd : d=c :=
        (List.mem_cons.mp hd).resolve_right fun hd => hrest ⟨d,hd,hkey⟩
      have hkc : c.key=k := hcd ▸ hkey
      have hsame := c.apply_key m m'
      rw [hkc] at hsame
      exact replay_congr log hsame

/-- Replaying a journal over the store that it led to changes nothing: a key that the
journal touches is set to its final value once more, and the others stay. -/
theorem Journal.replay_again {m m' : κ → Option ν} {log : List (Change κ ν)}
    (h : Journal m log m') : replay m' log=m' := by
  funext k
  by_cases htouched : ∃ c ∈ log, c.key=k
  · rw [replay_touched m' m htouched,h.replay_eq]
  · exact replay_untouched fun c hc hk => htouched ⟨c,hc,hk⟩

/-- A reader that took its copy in the middle of a journal may replay the whole of it. -/
theorem Journal.replay_overlap {m₁ m₂ m₃ : κ → Option ν} {first second : List (Change κ ν)}
    (h₁ : Journal m₁ first m₂) (h₂ : Journal m₂ second m₃) : replay m₂ (first ++ second)=m₃ := by
  rw [replay_append,h₁.replay_again,h₂.replay_eq]

/-- The kinds of the changes about one key, oldest first. -/
def kindsAbout (k : κ) (log : List (Change κ ν)) : List Kind :=
  (log.filter fun c => c.key=k).map Change.kind

/-- Changes about the key come first. -/
theorem kindsAbout_cons_same {k : κ} {c : Change κ ν} (log : List (Change κ ν)) (h : c.key=k) :
    kindsAbout k (c :: log)=c.kind :: kindsAbout k log := by
  simp only [kindsAbout,h,decide_true,List.filter_cons_of_pos,List.map_cons]

/-- Changes about other keys do not count. -/
theorem kindsAbout_cons_other {k : κ} {c : Change κ ν} (log : List (Change κ ν)) (h : c.key ≠ k) :
    kindsAbout k (c :: log)=kindsAbout k log := by
  simp only [kindsAbout,h,decide_false,Bool.false_eq_true,not_false_eq_true,
    List.filter_cons_of_neg]

/-- Finished lifecycles: a join, any number of updates, and a leave, repeated. -/
def lifecycle : Language Kind := ({[Kind.joined]} * {[Kind.updated]}∗ * {[Kind.left]})∗

/-- What may follow a join: updates, a leave, and finished lifecycles. -/
def openLifecycle : Language Kind := {[Kind.updated]}∗ * ({[Kind.left]} * lifecycle)

/-- A join opens a lifecycle. -/
theorem joined_openLifecycle : {[Kind.joined]} * openLifecycle ≤ lifecycle := by
  have h : ({[Kind.joined]} : Language Kind) * openLifecycle=
      ({[Kind.joined]} * {[Kind.updated]}∗ * {[Kind.left]}) * lifecycle := by
    simp only [openLifecycle,mul_assoc]
  rw [h]
  exact mul_kstar_le_kstar

/-- An update keeps a lifecycle open. -/
theorem updated_openLifecycle : {[Kind.updated]} * openLifecycle ≤ openLifecycle := by
  rw [openLifecycle,←mul_assoc]
  exact mul_le_mul' mul_kstar_le_kstar le_rfl

/-- A leave finishes a lifecycle. -/
theorem left_lifecycle : {[Kind.left]} * lifecycle ≤ openLifecycle := by
  intro w hw
  exact Language.append_mem_mul (Language.nil_mem_kstar _) hw

/-- Prepend one kind to a word of a language. -/
theorem cons_mem {a : Kind} {w : List Kind} {l m : Language Kind} (h : {[a]} * l ≤ m)
    (hw : w ∈ l) : a :: w ∈ m :=
  h (Language.append_mem_mul (Set.mem_singleton [a]) hw)

/-- What may follow for a key: an absent key starts new lifecycles, a stored
key is inside one. -/
def continuation : Option ν → Language Kind
  | none => lifecycle
  | some _ => openLifecycle

/-- The changes of every key complete to the words that its first value allows. -/
theorem Journal.kinds_complete {m m' : κ → Option ν} {log : List (Change κ ν)}
    (h : Journal m log m') (k : κ) :
    ∃ rest, kindsAbout k log ++ rest ∈ continuation (m k) := by
  induction log generalizing m with
  | nil =>
    cases m k with
    | none => exact ⟨[],Language.nil_mem_kstar _⟩
    | some value => exact ⟨[Kind.left],cons_mem left_lifecycle (Language.nil_mem_kstar _)⟩
  | cons c log ih =>
    obtain ⟨rest,hrest⟩ := ih h.2
    refine ⟨rest,?_⟩
    by_cases hk : c.key=k
    · rw [kindsAbout_cons_same log hk,List.cons_append]
      have hlegal := h.1
      subst hk
      cases c with
      | joined key value =>
        dsimp only [Change.key,Change.kind,Change.Legal,Change.apply] at hlegal hrest ⊢
        rw [Function.update_self] at hrest
        rw [hlegal]
        exact cons_mem joined_openLifecycle hrest
      | updated key previous current =>
        dsimp only [Change.key,Change.kind,Change.Legal,Change.apply] at hlegal hrest ⊢
        rw [Function.update_self] at hrest
        rw [hlegal]
        exact cons_mem updated_openLifecycle hrest
      | left key value =>
        dsimp only [Change.key,Change.kind,Change.Legal,Change.apply] at hlegal hrest ⊢
        rw [Function.update_self] at hrest
        rw [hlegal]
        exact cons_mem left_lifecycle hrest
    · rw [kindsAbout_cons_other log hk]
      rwa [Change.apply_other hk] at hrest

/-- From an empty store the changes of every key form finished lifecycles or a
prefix of them. -/
theorem Journal.kinds_prefix {m' : κ → Option ν} {log : List (Change κ ν)}
    (h : Journal (fun _ => none) log m') (k : κ) :
    ∃ rest, kindsAbout k log ++ rest ∈ lifecycle := h.kinds_complete k

end MeshPresence.ChangeJournal

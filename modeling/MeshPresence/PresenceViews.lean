import Mathlib.Logic.Function.Basic
import Mathlib.Data.List.Induction
import Mathlib.Data.Option.Basic

/-!
# Views of what was heard recently

An observer hears values under keys at times, is told to forget keys, and lets everything
expire that it heard too long ago. Its view of a key is what it heard last under this key,
as long as nothing made it forget the key since and every expiry since found the time recent
enough.
-/

namespace MeshPresence.PresenceViews

variable {κ ν : Type*} [DecidableEq κ]

/-- What an observer takes notice of. -/
inductive Observation (κ ν : Type*) where
  /-- A value is heard under a key. -/
  | heard (key : κ) (value : ν) (time : ℕ)
  /-- A key is to be forgotten. -/
  | forgotten (key : κ)
  /-- What was heard too long ago expires. -/
  | expired (now : ℕ)

/-- Values and when they were heard, by key. -/
abbrev View (κ ν : Type*) := κ → Option (ν × ℕ)

/-- The view after an observation, when values are kept for a given time. -/
def Observation.apply (lifetime : ℕ) (view : View κ ν) : Observation κ ν → View κ ν
  | .heard key value time => Function.update view key (some (value,time))
  | .forgotten key => Function.update view key none
  | .expired now => fun key => (view key).filter fun entry => now-entry.2 ≤ lifetime

/-- The view after a sequence of observations. -/
def observe (lifetime : ℕ) (view : View κ ν) (seen : List (Observation κ ν)) : View κ ν :=
  seen.foldl (Observation.apply lifetime) view

/-- An observation leaves a value that was heard at a time under a key. -/
def Spares (lifetime : ℕ) (key : κ) (time : ℕ) : Observation κ ν → Prop
  | .heard k _ _ => k ≠ key
  | .forgotten k => k ≠ key
  | .expired now => now-time ≤ lifetime

instance (lifetime : ℕ) (key : κ) (time : ℕ) :
    ∀ seen : Observation κ ν, Decidable (Spares lifetime key time seen)
  | .heard k _ _ => inferInstanceAs (Decidable (k ≠ key))
  | .forgotten k => inferInstanceAs (Decidable (k ≠ key))
  | .expired now => inferInstanceAs (Decidable (now-time ≤ lifetime))

/-- What is heard under a key is past its lifetime at a given time. -/
def Overdue (lifetime : ℕ) (key : κ) (now : ℕ) : Observation κ ν → Prop
  | .heard k _ time => k=key → lifetime<now-time
  | _ => True

instance (lifetime : ℕ) (key : κ) (now : ℕ) :
    ∀ seen : Observation κ ν, Decidable (Overdue lifetime key now seen)
  | .heard k _ time => inferInstanceAs (Decidable (k=key → lifetime<now-time))
  | .forgotten _ => isTrue trivial
  | .expired _ => isTrue trivial

/-- Nothing is heard under a key. -/
def Silent (key : κ) : Observation κ ν → Prop
  | .heard k _ _ => k ≠ key
  | _ => True

instance (key : κ) : ∀ seen : Observation κ ν, Decidable (Silent key seen)
  | .heard k _ _ => inferInstanceAs (Decidable (k ≠ key))
  | .forgotten _ => isTrue trivial
  | .expired _ => isTrue trivial

variable {lifetime : ℕ} {view : View κ ν} {key : κ} {value : ν} {time : ℕ}
  {seen : Observation κ ν}

/-- An entry was heard just now, or was there and was spared. -/
theorem apply_eq_some_iff : seen.apply lifetime view key=some (value,time) ↔
    seen=.heard key value time ∨ view key=some (value,time) ∧ Spares lifetime key time seen := by
  cases seen with
  | heard k v t =>
    by_cases hk : key=k
    · subst hk
      simp only [Observation.apply,Function.update_self,Option.some.injEq,Prod.mk.injEq,
        Observation.heard.injEq,true_and,Spares,ne_eq,not_true_eq_false,and_false,or_false]
    · simp only [Observation.apply,Function.update_of_ne hk,Observation.heard.injEq,Ne.symm hk,
        false_and,Spares,ne_eq,not_false_eq_true,and_true,false_or]
  | forgotten k =>
    by_cases hk : key=k
    · subst hk
      simp only [Observation.apply,Function.update_self,reduceCtorEq,Spares,ne_eq,not_true_eq_false,
        and_false,or_false]
    · simp only [Observation.apply,Function.update_of_ne hk,reduceCtorEq,Spares,ne_eq,Ne.symm hk,
        not_false_eq_true,and_true,false_or]
  | expired now =>
    simp only [Observation.apply,Option.filter_eq_some_iff,decide_eq_true_eq,reduceCtorEq,Spares,
      false_or]

/-- A view that starts empty holds what was heard last and spared since, and nothing else. -/
theorem observe_eq_some_iff {seen : List (Observation κ ν)} :
    observe lifetime (fun _ => none) seen key=some (value,time) ↔
      ∃ before after, seen=before ++ .heard key value time :: after ∧
        ∀ other ∈ after, Spares lifetime key time other := by
  induction seen using List.reverseRecOn with
  | nil =>
    simp only [observe,List.foldl_nil,reduceCtorEq,List.nil_eq,List.append_eq_nil_iff,
      List.cons_ne_nil,and_false,false_and,exists_false]
  | append_singleton seen last ih =>
    rw [observe,List.foldl_append,List.foldl_cons,List.foldl_nil,apply_eq_some_iff]
    rw [observe] at ih
    rw [ih]
    constructor
    · rintro (rfl|⟨⟨before,after,rfl,hafter⟩,hlast⟩)
      · exact ⟨seen,[],rfl,fun other ho => absurd ho List.not_mem_nil⟩
      · refine ⟨before,after ++ [last],?_,fun other ho => ?_⟩
        · rw [List.append_assoc,List.cons_append]
        · rcases List.mem_append.mp ho with ho|ho
          · exact hafter other ho
          · exact List.mem_singleton.mp ho ▸ hlast
    · rintro ⟨before,after,he,hafter⟩
      rcases List.eq_nil_or_concat after with rfl|⟨after,other,rfl⟩
      · obtain ⟨-,hlast⟩ := List.append_inj' he rfl
        exact Or.inl (List.singleton_inj.mp hlast)
      · rw [List.concat_eq_append,←List.cons_append,←List.append_assoc] at he
        obtain ⟨rfl,hother⟩ := List.append_inj' he rfl
        cases hother
        rw [List.concat_eq_append] at hafter
        refine Or.inr ⟨⟨before,after,rfl,fun o ho => hafter o (List.mem_append_left _ ho)⟩,?_⟩
        exact hafter last (List.mem_append_right _ (List.mem_singleton_self last))

/-- What was heard under a key before its lifetime ended does not outlast an expiry, unless the
key is heard again. -/
theorem observe_silent {before after : List (Observation κ ν)} {now : ℕ}
    (hbefore : ∀ other ∈ before, Overdue lifetime key now other)
    (hafter : ∀ other ∈ after, Silent key other) :
    observe lifetime (fun _ => none) (before ++ .expired now :: after) key=none := by
  rw [Option.eq_none_iff_forall_ne_some]
  rintro ⟨value,time⟩ hsome
  obtain ⟨first,rest,he,hspared⟩ := observe_eq_some_iff.mp hsome
  rcases List.append_eq_append_iff.mp he with ⟨middle,rfl,hrest⟩|⟨middle,rfl,hrest⟩
  · rcases List.cons_eq_append_iff.mp hrest with ⟨-,hheard⟩|⟨tail,-,htail⟩
    · cases hheard
    · have hsilent : key ≠ key := hafter (.heard key value time)
        (htail ▸ List.mem_append_right _ List.mem_cons_self)
      exact hsilent rfl
  · rcases List.cons_eq_append_iff.mp hrest with ⟨-,hheard⟩|⟨tail,rfl,htail⟩
    · cases hheard
    · have hexpired : now-time ≤ lifetime :=
        hspared (.expired now) (htail ▸ List.mem_append_right _ List.mem_cons_self)
      have hlate : key=key → lifetime<now-time := hbefore (.heard key value time)
        (List.mem_append_right _ List.mem_cons_self)
      have hover := hlate rfl
      omega

end MeshPresence.PresenceViews

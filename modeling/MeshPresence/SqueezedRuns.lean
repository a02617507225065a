import MeshPresence.TextOperations

/-!
# Squeezing runs of a separator

Squeezing keeps one separator of every run of them and all other elements. After
trimming the separators at both ends, the list is tidy: no separator stands at
an end or next to another one. Tidy lists are exactly those that squeezing and
trimming leave alone, and a filter that drops separators does not see either of
the two.
-/

namespace MeshPresence.SqueezedRuns

open TextOperations

variable {α : Type*}

/-- A filter sees through the removal of repeated elements that it drops. -/
theorem filter_destutter' {R : α → α → Prop} [DecidableRel R] {p : α → Bool}
    (h : ∀ a b, p b=true → R a b) (a : α) (l : List α) :
    (l.destutter' R a).filter p=(a :: l).filter p := by
  induction l generalizing a with
  | nil => rfl
  | cons b l ih =>
    by_cases hab : R a b
    · rw [List.destutter'_cons_pos l hab,List.filter_cons,List.filter_cons,ih b]
    · have hb : ¬p b=true := fun hb => hab (h a b hb)
      rw [List.destutter'_cons_neg l hab,ih a]
      simp only [List.filter_cons,if_neg hb]

/-- Trimming keeps consecutive elements. -/
theorem trimList_isInfix (p : α → Bool) (l : List α) : trimList p l <:+: l :=
  (List.rdropWhile_prefix p _).isInfix.trans (List.dropWhile_suffix p).isInfix

/-- A filter sees through the trimming of elements that it drops. -/
theorem filter_trimList {p q : α → Bool} (h : ∀ a, q a=true → p a=false) (l : List α) :
    (trimList q l).filter p=l.filter p := by
  have hdropped : ∀ m : List α, (∀ a ∈ m, q a=true) → m.filter p=[] := fun m hm =>
    List.filter_eq_nil_iff.mpr fun a ha => Bool.eq_false_iff.mp (h a (hm a ha))
  have hfront : (l.dropWhile q).filter p=l.filter p := by
    rw [←List.takeWhile_append_dropWhile (p:=q) (l:=l),List.filter_append,
      hdropped _ fun a ha => List.mem_takeWhile_imp ha,List.nil_append,
      List.takeWhile_append_dropWhile]
  have hback : (trimList q l).filter p=(l.dropWhile q).filter p := by
    have happend := List.rdropWhile_append_rtakeWhile (p:=q) (l:=l.dropWhile q)
    have hfilter := congrArg (List.filter p) happend
    rwa [List.filter_append,hdropped _ fun a ha => List.mem_rtakeWhile_imp ha,List.append_nil]
      at hfilter
  rw [hback,hfront]

variable [DecidableEq α]

/-- Keep one separator of every run of separators. -/
def squeeze (separator : α) (l : List α) : List α :=
  l.destutter fun a b => ¬(a=separator ∧ b=separator)

/-- Remove the separators at both ends. -/
def trimSeparator (separator : α) (l : List α) : List α := trimList (fun a => a=separator) l

/-- No separator stands at an end or beside another one. -/
structure Tidy (separator : α) (l : List α) : Prop where
  /-- No two separators are adjacent. -/
  apart : l.IsChain fun a b => ¬(a=separator ∧ b=separator)
  /-- The first element is no separator. -/
  head : l.head? ≠ some separator
  /-- The last element is no separator. -/
  last : l.getLast? ≠ some separator

/-- Squeezing and trimming tidies a list. -/
theorem tidy_trim_squeeze (separator : α) (l : List α) :
    Tidy separator (trimSeparator separator (squeeze separator l)) := by
  have htrimmed := (trimList_eq_self_iff (fun a => decide (a=separator))).mp
    (trimList_trimList _ (squeeze separator l))
  refine ⟨?_,fun hhead => ?_,fun hlast => ?_⟩
  · have hchain := List.isChain_destutter (fun a b => ¬(a=separator ∧ b=separator)) l
    obtain ⟨front,back,hparts⟩ := trimList_isInfix (fun a => decide (a=separator))
      (squeeze separator l)
    rw [←squeeze,←hparts] at hchain
    exact hchain.left_of_append.right_of_append
  · have hne : trimSeparator separator (squeeze separator l) ≠ [] := fun he => by
      rw [he] at hhead
      cases hhead
    rw [List.head?_eq_some_head hne] at hhead
    exact htrimmed.1 hne (decide_eq_true (Option.some.inj hhead))
  · have hne : trimSeparator separator (squeeze separator l) ≠ [] := fun he => by
      rw [he] at hlast
      cases hlast
    rw [List.getLast?_eq_some_getLast hne] at hlast
    exact htrimmed.2 hne (decide_eq_true (Option.some.inj hlast))

/-- A tidy list is left alone. -/
theorem Tidy.trim_squeeze {separator : α} {l : List α} (h : Tidy separator l) :
    trimSeparator separator (squeeze separator l)=l := by
  rw [squeeze,List.destutter_of_isChain _ l h.apart,trimSeparator,trimList_eq_self_iff]
  refine ⟨fun hne he => h.head ?_,fun hne he => h.last ?_⟩
  · rw [List.head?_eq_some_head hne,of_decide_eq_true he]
  · rw [List.getLast?_eq_some_getLast hne,of_decide_eq_true he]

/-- A filter that drops separators sees through squeezing and trimming. -/
theorem filter_trim_squeeze {separator : α} {p : α → Bool} (h : p separator=false) (l : List α) :
    (trimSeparator separator (squeeze separator l)).filter p=l.filter p := by
  have hseparator : ∀ a, decide (a=separator)=true → p a=false := fun a ha =>
    of_decide_eq_true ha ▸ h
  rw [trimSeparator,filter_trimList hseparator,squeeze]
  cases l with
  | nil => rfl
  | cons a l =>
    refine filter_destutter' (fun a b hb hab => ?_) a l
    rw [hab.2,h] at hb
    cases hb

end MeshPresence.SqueezedRuns

import Mathlib.Data.List.Infix

/-!
# Searching a list for a part

The position of the first occurrence of a part and the number of its
occurrences. Appending on the right keeps the first occurrence; a separator
that the part does not contain splits a list for both, and elements of a class
that the part does not end in cannot be appended into an occurrence.
-/

namespace MeshPresence.SubstringSearch

variable {α : Type*} [DecidableEq α]

/-- Position of the first occurrence of a part. -/
def indexOf? (part : List α) : List α → Option ℕ
  | [] => if part=[] then some 0 else none
  | a :: rest => if part <+: a :: rest then some 0 else (indexOf? part rest).map (· + 1)

/-- Number of positions at which a part occurs. -/
def occurrences (part : List α) : List α → ℕ
  | [] => if part=[] then 1 else 0
  | a :: rest => (if part <+: a :: rest then 1 else 0)+occurrences part rest

variable {part : List α}

/-- A part that a list begins with occurs first at its beginning. -/
theorem indexOf?_of_isPrefix {l : List α} (h : part <+: l) : indexOf? part l=some 0 := by
  cases l with
  | nil => exact if_pos (List.prefix_nil.mp h)
  | cons a rest => exact if_pos h

/-- A part has no position exactly when it does not occur. -/
theorem indexOf?_eq_none {l : List α} : indexOf? part l=none ↔ ¬part <:+: l := by
  induction l with
  | nil =>
    rw [indexOf?,List.infix_nil]
    split
    · next h => simp only [reduceCtorEq,h,not_true_eq_false]
    · next h => simp only [h,not_false_eq_true]
  | cons a rest ih =>
    rw [indexOf?,List.infix_cons_iff]
    split
    · next h => simp only [reduceCtorEq,h,true_or,not_true_eq_false]
    · next h => rw [Option.map_eq_none_iff,ih,or_iff_right h]

/-- A part that occurs has a first position. -/
theorem exists_indexOf? {l : List α} (h : part <:+: l) : ∃ i, indexOf? part l=some i := by
  cases hi : indexOf? part l with
  | none => exact absurd h (indexOf?_eq_none.mp hi)
  | some i => exact ⟨i,rfl⟩

/-- The first occurrence lies inside the list. -/
theorem length_of_indexOf? {l : List α} {i : ℕ} (h : indexOf? part l=some i) :
    i+part.length ≤ l.length := by
  induction l generalizing i with
  | nil =>
    rw [indexOf?] at h
    split at h
    · next he =>
      cases h
      rw [he]
      exact le_rfl
    · cases h
  | cons a rest ih =>
    rw [indexOf?] at h
    split at h
    · next hp =>
      cases h
      rw [Nat.zero_add]
      exact hp.length_le
    · obtain ⟨j,hj,rfl⟩ := Option.map_eq_some_iff.mp h
      have hle := ih hj
      rw [List.length_cons]
      omega

/-- A nonempty part does not occur before its first position. -/
theorem notInfix_take {l : List α} {i : ℕ} (hne : part ≠ []) (h : indexOf? part l=some i) {k : ℕ}
    (hk : k ≤ i) : ¬part <:+: l.take k := by
  induction l generalizing i k with
  | nil =>
    rw [List.take_nil,List.infix_nil]
    exact hne
  | cons a rest ih =>
    cases k with
    | zero =>
      rw [List.take_zero,List.infix_nil]
      exact hne
    | succ k =>
      rw [indexOf?] at h
      split at h
      · cases h
        omega
      · next hp =>
        obtain ⟨j,hj,rfl⟩ := Option.map_eq_some_iff.mp h
        rw [List.take_succ_cons,List.infix_cons_iff,not_or]
        refine ⟨fun hfront => hp (hfront.trans ?_),ih hj (by omega)⟩
        exact List.prefix_append_right_inj [a]|>.mpr (List.take_prefix k rest)

/-- Appending on the right keeps the first position. -/
theorem indexOf?_append {l : List α} {i : ℕ} (h : indexOf? part l=some i) (r : List α) :
    indexOf? part (l ++ r)=some i := by
  induction l generalizing i with
  | nil =>
    rw [indexOf?] at h
    split at h
    · next he =>
      cases h
      exact indexOf?_of_isPrefix (he ▸ List.nil_prefix)
    · cases h
  | cons a rest ih =>
    rw [indexOf?] at h
    split at h
    · next hp =>
      cases h
      exact indexOf?_of_isPrefix (hp.trans (List.prefix_append _ r))
    · next hp =>
      obtain ⟨j,hj,rfl⟩ := Option.map_eq_some_iff.mp h
      have hlength := length_of_indexOf? hj
      have hlonger : ¬part <+: (a :: rest) ++ r := fun hfront =>
        hp ((List.isPrefix_append_of_length (by rw [List.length_cons]; omega)).mp hfront)
      rw [List.cons_append,indexOf?,←List.cons_append,if_neg hlonger,ih hj]
      rfl

omit [DecidableEq α] in
/-- A part without the separator that a list with a separator begins with ends before it. -/
theorem prefix_of_prefix_separator {separator : α} (hs : separator ∉ part) (left right : List α)
    (h : part <+: left ++ separator :: right) : part <+: left := by
  by_cases hlength : part.length ≤ left.length
  · exact (List.isPrefix_append_of_length hlength).mp h
  · have hleft : left ++ [separator] <+: left ++ separator :: right :=
      ⟨right,by rw [List.append_assoc,List.singleton_append]⟩
    have hlonger := List.prefix_of_prefix_length_le hleft h
      (by rw [List.length_append,List.length_singleton]; omega)
    exact absurd (hlonger.subset (List.mem_append_right left (List.mem_singleton_self _))) hs

/-- Behind a separator, the search of a part that does not occur before it goes on. -/
theorem indexOf?_separator {separator : α} (hs : separator ∉ part) (hne : part ≠ [])
    {left : List α} (hleft : ¬part <:+: left) (right : List α) :
    indexOf? part (left ++ separator :: right)=
      (indexOf? part right).map (· + (left.length+1)) := by
  induction left with
  | nil =>
    have hp : ¬part <+: separator :: right := fun h =>
      hne (List.prefix_nil.mp (prefix_of_prefix_separator hs [] right h))
    rw [List.nil_append,indexOf?,if_neg hp]
    rfl
  | cons a left ih =>
    rw [List.infix_cons_iff,not_or] at hleft
    have hp : ¬part <+: a :: (left ++ separator :: right) := fun h =>
      hleft.1 (prefix_of_prefix_separator hs (a :: left) right h)
    rw [List.cons_append,indexOf?,if_neg hp,ih hleft.2,Option.map_map]
    refine congrArg (Option.map · (indexOf? part right)) (funext fun n => ?_)
    rw [Function.comp_apply,List.length_cons]
    omega

/-- Elements of a class that the part does not end in add no occurrence. -/
theorem indexOf?_append_class {p : α → Bool} (hne : part ≠ [])
    (hlast : p (part.getLast hne)=false) (l : List α) {tail : List α}
    (htail : ∀ a ∈ tail, p a=true) : indexOf? part (l ++ tail)=indexOf? part l := by
  have hinside : ∀ l : List α, part <+: l ++ tail → part <+: l := by
    intro l h
    by_cases hlength : part.length ≤ l.length
    · exact (List.isPrefix_append_of_length hlength).mp h
    · obtain ⟨rest,hrest⟩ := List.prefix_of_prefix_length_le (List.prefix_append l tail) h
        (by omega)
      have hrestne : rest ≠ [] := by
        rintro rfl
        rw [List.append_nil] at hrest
        exact hlength (le_of_eq (hrest ▸ rfl))
      have hmem : part.getLast hne ∈ rest := by
        have hgetLast : part.getLast hne=rest.getLast hrestne := by
          subst hrest
          exact List.getLast_append_of_ne_nil hne hrestne
        exact hgetLast ▸ List.getLast_mem hrestne
      rw [←hrest] at h
      have hrestTail := (List.prefix_append_right_inj l).mp h
      rw [htail _ (hrestTail.subset hmem)] at hlast
      cases hlast
  induction l with
  | nil =>
    have hnone : ¬part <:+: tail := by
      intro h
      rw [htail _ (h.subset (List.getLast_mem hne))] at hlast
      cases hlast
    rw [List.nil_append,indexOf?_eq_none.mpr hnone,indexOf?,if_neg hne]
  | cons a l ih =>
    rw [List.cons_append,indexOf?,indexOf?,ih]
    by_cases hp : part <+: a :: l
    · have hlonger : part <+: a :: (l ++ tail) := hp.trans (List.prefix_append (a :: l) tail)
      rw [if_pos hp,if_pos hlonger]
    · have hlonger : ¬part <+: a :: (l ++ tail) := fun h => hp (hinside (a :: l) h)
      rw [if_neg hp,if_neg hlonger]

/-- A part that does not occur has no occurrences. -/
theorem occurrences_eq_zero {l : List α} : occurrences part l=0 ↔ ¬part <:+: l := by
  induction l with
  | nil =>
    rw [occurrences,List.infix_nil]
    split
    · next h => simp only [Nat.one_ne_zero,h,not_true_eq_false]
    · next h => simp only [h,not_false_eq_true]
  | cons a rest ih =>
    rw [occurrences,List.infix_cons_iff,Nat.add_eq_zero_iff,ih,not_or]
    refine and_congr_left fun _ => ?_
    split
    · next h => simp only [Nat.one_ne_zero,h,not_true_eq_false]
    · next h => simp only [h,not_false_eq_true]

/-- Occurrences on both sides of a cut are occurrences. -/
theorem add_occurrences_le (hne : part ≠ []) (l r : List α) :
    occurrences part l+occurrences part r ≤ occurrences part (l ++ r) := by
  induction l with
  | nil => rw [occurrences,if_neg hne,Nat.zero_add,List.nil_append]
  | cons a rest ih =>
    rw [List.cons_append,occurrences,occurrences]
    by_cases hp : part <+: a :: rest
    · have hlonger : part <+: a :: (rest ++ r) := hp.trans (List.prefix_append (a :: rest) r)
      rw [if_pos hp,if_pos hlonger]
      omega
    · rw [if_neg hp]
      omega

/-- A separator that the part does not contain splits its occurrences. -/
theorem occurrences_separator {separator : α} (hs : separator ∉ part) (hne : part ≠ [])
    (left right : List α) :
    occurrences part (left ++ separator :: right)=
      occurrences part left+occurrences part right := by
  induction left with
  | nil =>
    have hp : ¬part <+: separator :: right := fun h =>
      hne (List.prefix_nil.mp (prefix_of_prefix_separator hs [] right h))
    rw [List.nil_append,occurrences,if_neg hne,occurrences,if_neg hp]
  | cons a left ih =>
    rw [List.cons_append,occurrences,occurrences,ih]
    by_cases hp : part <+: a :: left
    · have hlonger : part <+: a :: (left ++ separator :: right) :=
        hp.trans (List.prefix_append (a :: left) (separator :: right))
      rw [if_pos hp,if_pos hlonger]
      omega
    · have hlonger : ¬part <+: a :: (left ++ separator :: right) := fun h =>
        hp (prefix_of_prefix_separator hs (a :: left) right h)
      rw [if_neg hp,if_neg hlonger]
      omega

/-- A part that occurs once, at the end of a list, has its first position there. -/
theorem indexOf?_of_once {l : List α} (hne : part ≠ []) (hend : part <:+ l)
    (honce : occurrences part l=1) : indexOf? part l=some (l.length-part.length) := by
  induction l with
  | nil => exact absurd (List.suffix_nil.mp hend) hne
  | cons a rest ih =>
    rcases List.suffix_cons_iff.mp hend with heq|hrest
    · rw [indexOf?_of_isPrefix (heq ▸ List.prefix_rfl),heq,Nat.sub_self]
    · have hlater : occurrences part rest ≠ 0 := fun hzero =>
        occurrences_eq_zero.mp hzero hrest.isInfix
      rw [occurrences] at honce
      by_cases hp : part <+: a :: rest
      · rw [if_pos hp] at honce
        omega
      · rw [if_neg hp,Nat.zero_add] at honce
        have hlength := hrest.length_le
        rw [indexOf?,if_neg hp,ih hrest honce,Option.map_some,List.length_cons]
        congr 1
        omega

end MeshPresence.SubstringSearch

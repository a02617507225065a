import MeshPresence.SubstringSearch

/-!
# Lists that are divided by a separator

Splitting a list at every separator turns tests on the list into tests on its
parts. A cut of the list at one separator is a cut of the parts. The parts that
are enclosed by separators are the inner ones, an ending that begins with a
separator is an ending of the parts, and a beginning without a separator is a
beginning of the first part.
-/

namespace MeshPresence.SeparatedLists

open SubstringSearch

variable {α : Type*} [BEq α] [LawfulBEq α] {separator : α}

/-- The parts of a list do not contain the separator. -/
theorem notMem_of_mem_splitOn {l part : List α} (h : part ∈ l.splitOn separator) :
    separator ∉ part := by
  induction l generalizing part with
  | nil =>
    rw [List.splitOn_nil,List.mem_singleton] at h
    rw [h]
    exact List.not_mem_nil
  | cons c l ih =>
    rw [List.splitOn_cons_eq_if_modifyHead] at h
    split at h
    · rcases List.mem_cons.mp h with rfl | h
      · exact List.not_mem_nil
      · exact ih h
    · next hc =>
      cases hl : l.splitOn separator with
      | nil => exact absurd hl (List.splitOn_ne_nil separator l)
      | cons first rest =>
        rw [hl,List.modifyHead_cons] at h
        have hfirst : separator ∉ first := ih (hl ▸ List.mem_cons_self)
        rcases List.mem_cons.mp h with rfl | h
        · intro hm
          rcases List.mem_cons.mp hm with he | hm
          · exact hc (beq_iff_eq.mpr he.symm)
          · exact hfirst hm
        · exact ih (hl ▸ List.mem_cons_of_mem first h)

omit [LawfulBEq α] in
/-- The elements of the parts of a list are elements of the list. -/
theorem subset_of_mem_splitOn {l part : List α} (h : part ∈ l.splitOn separator) : part ⊆ l := by
  induction l generalizing part with
  | nil =>
    rw [List.splitOn_nil,List.mem_singleton] at h
    rw [h]
    exact List.Subset.refl []
  | cons c l ih =>
    rw [List.splitOn_cons_eq_if_modifyHead] at h
    split at h
    · rcases List.mem_cons.mp h with rfl | h
      · exact List.nil_subset _
      · exact List.subset_cons_of_subset c (ih h)
    · cases hl : l.splitOn separator with
      | nil => exact absurd hl (List.splitOn_ne_nil separator l)
      | cons first rest =>
        rw [hl,List.modifyHead_cons] at h
        rcases List.mem_cons.mp h with rfl | h
        · exact List.cons_subset_cons c (ih (hl ▸ List.mem_cons_self))
        · exact List.subset_cons_of_subset c (ih (hl ▸ List.mem_cons_of_mem first h))

omit [BEq α] [LawfulBEq α] in
/-- Joining two nonempty lists of parts puts a separator between them. -/
theorem intercalate_append {front back : List (List α)} (hf : front ≠ []) (hb : back ≠ []) :
    [separator].intercalate (front ++ back)=
      [separator].intercalate front ++ separator :: [separator].intercalate back := by
  induction front with
  | nil => exact absurd rfl hf
  | cons first front ih =>
    cases front with
    | nil =>
      rw [List.singleton_append,List.intercalate_cons_of_ne_nil hb,List.intercalate_singleton,
        List.append_assoc,List.singleton_append]
    | cons second front =>
      have hrest := ih (List.cons_ne_nil second front)
      rw [List.cons_append] at hrest
      rw [List.cons_append,List.cons_append,List.intercalate_cons_cons,hrest,
        List.intercalate_cons_cons]
      simp only [List.append_assoc]

/-- A cut of the parts is a cut of the list at a separator. -/
theorem splitOn_eq_append_iff {l : List α} {front back : List (List α)} :
    l.splitOn separator=front ++ back ∧ front ≠ [] ∧ back ≠ [] ↔
      ∃ left right, l=left ++ separator :: right ∧ left.splitOn separator=front ∧
        right.splitOn separator=back := by
  constructor
  · rintro ⟨h,hf,hb⟩
    have hparts : ∀ part ∈ front ++ back, separator ∉ part := fun part hp =>
      notMem_of_mem_splitOn (h ▸ hp)
    refine ⟨[separator].intercalate front,[separator].intercalate back,?_,?_,?_⟩
    · rw [←intercalate_append hf hb,←h,List.intercalate_splitOn]
    · exact List.splitOn_intercalate _ (fun part hp => hparts part (List.mem_append_left _ hp)) hf
    · exact List.splitOn_intercalate _ (fun part hp => hparts part (List.mem_append_right _ hp)) hb
  · rintro ⟨left,right,rfl,rfl,rfl⟩
    exact ⟨List.splitOn_append_cons_self left right,List.splitOn_ne_nil separator left,
      List.splitOn_ne_nil separator right⟩

/-- A list with a single part is this part. -/
theorem eq_of_splitOn_singleton {l part : List α} (h : l.splitOn separator=[part]) : l=part := by
  have hjoined : [separator].intercalate (l.splitOn separator)=l :=
    List.intercalate_splitOn separator
  rw [h,List.intercalate_singleton] at hjoined
  exact hjoined.symm

/-- The inner elements of a list have elements on both sides. -/
theorem mem_dropLast_tail_iff {β : Type*} {l : List β} {b : β} : b ∈ l.tail.dropLast ↔
    ∃ front back, l=front ++ b :: back ∧ front ≠ [] ∧ back ≠ [] := by
  constructor
  · intro h
    cases l with
    | nil => cases h
    | cons first rest =>
      rw [List.tail_cons] at h
      have hne : rest ≠ [] := by
        rintro rfl
        cases h
      obtain ⟨left,right,hsplit⟩ := List.append_of_mem h
      refine ⟨first :: left,right ++ [rest.getLast hne],?_,List.cons_ne_nil first left,
        List.append_ne_nil_of_right_ne_nil right (List.cons_ne_nil _ _)⟩
      have hrest : rest=left ++ b :: (right ++ [rest.getLast hne]) := by
        calc rest=rest.dropLast ++ [rest.getLast hne] := (List.dropLast_append_getLast hne).symm
          _=left ++ b :: (right ++ [rest.getLast hne]) := by
            rw [hsplit,List.append_assoc,List.cons_append]
      exact congrArg (List.cons first) hrest
  · rintro ⟨front,back,rfl,hf,hb⟩
    rw [List.tail_append_of_ne_nil hf,List.dropLast_append_of_ne_nil (List.cons_ne_nil b back),
      List.dropLast_cons_of_ne_nil hb]
    exact List.mem_append_right _ List.mem_cons_self

/-- A part is enclosed by separators exactly when it is an inner part. -/
theorem enclosed_isInfix_iff {part l : List α} (h : separator ∉ part) :
    separator :: (part ++ [separator]) <:+: l ↔ part ∈ (l.splitOn separator).tail.dropLast := by
  rw [mem_dropLast_tail_iff]
  constructor
  · rintro ⟨left,right,rfl⟩
    refine ⟨left.splitOn separator,right.splitOn separator,?_,List.splitOn_ne_nil separator left,
      List.splitOn_ne_nil separator right⟩
    have hassoc : left ++ separator :: (part ++ [separator]) ++ right=
        left ++ separator :: (part ++ separator :: right) := by
      simp only [List.append_assoc,List.cons_append,List.nil_append]
    rw [hassoc,List.splitOn_append_cons_self,List.splitOn_append_cons_self_of_not_mem h]
  · rintro ⟨front,back,hl,hf,hb⟩
    obtain ⟨left,rest,rfl,-,hrest⟩ :=
      splitOn_eq_append_iff.mp ⟨hl,hf,List.cons_ne_nil part back⟩
    obtain ⟨middle,right,rfl,hmiddle,-⟩ :=
      splitOn_eq_append_iff.mp ⟨hrest.trans List.singleton_append.symm,List.cons_ne_nil part [],hb⟩
    refine ⟨left,right,?_⟩
    rw [eq_of_splitOn_singleton hmiddle]
    simp only [List.append_assoc,List.cons_append,List.nil_append]

/-- An ending that begins with a separator is an ending of the parts. -/
theorem separator_cons_isSuffix_iff {ending l : List α} :
    separator :: ending <:+ l ↔
      ∃ front, l.splitOn separator=front ++ ending.splitOn separator ∧ front ≠ [] := by
  constructor
  · rintro ⟨left,rfl⟩
    exact ⟨left.splitOn separator,List.splitOn_append_cons_self left ending,
      List.splitOn_ne_nil separator left⟩
  · rintro ⟨front,hl,hf⟩
    obtain ⟨left,right,rfl,-,hright⟩ :=
      splitOn_eq_append_iff.mp ⟨hl,hf,List.splitOn_ne_nil separator ending⟩
    have hend : right=ending := by
      have hjoined := congrArg [separator].intercalate hright
      rwa [List.intercalate_splitOn,List.intercalate_splitOn] at hjoined
    exact ⟨left,by rw [hend]⟩

/-- A beginning without a separator is a beginning of the first part. -/
theorem isPrefix_iff {part l first : List α} {rest : List (List α)} (h : separator ∉ part)
    (hl : l.splitOn separator=first :: rest) : part <+: l ↔ part <+: first := by
  cases rest with
  | nil => rw [eq_of_splitOn_singleton hl]
  | cons second rest =>
    obtain ⟨left,right,rfl,hleft,-⟩ := splitOn_eq_append_iff.mp
      ⟨hl.trans List.singleton_append.symm,List.cons_ne_nil first [],List.cons_ne_nil second rest⟩
    rw [eq_of_splitOn_singleton hleft]
    exact ⟨prefix_of_prefix_separator h first right,fun hp => hp.trans (List.prefix_append _ _)⟩

end MeshPresence.SeparatedLists

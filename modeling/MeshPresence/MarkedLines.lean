import Mathlib.Data.List.Basic
import Mathlib.Data.List.Forall2

/-!
# Lines that are told apart by their marks

A list of lines was cut into chunks without regard for the lines. When the first chunks begin
with lines that carry the marks of the first lines, and no later line carries one of these
marks, every one of these chunks but the last is a single line. A text whose first lines are
known by their marks is therefore read back line by line, whoever wrote it.
-/

namespace MeshPresence.MarkedLines

variable {α β : Type*} {μ : α → β}

/-- A chunk that begins with the first line and is followed by a chunk with the mark of the
second line is the first line alone. -/
theorem single_of_marks {x : α} {lines chunk : List α} {d : α} {rest : List α} {z : α}
    (h : chunk ++ d :: rest=x :: z :: lines) (hne : chunk ≠ []) (hd : μ d=μ z)
    (hfresh : ∀ l ∈ lines, μ l ≠ μ z) : chunk=[x] := by
  rcases chunk with _|⟨a,_|⟨b,chunk⟩⟩
  · exact absurd rfl hne
  · rw [(List.cons.inj h).1]
  · have htail : chunk ++ d :: rest=lines := (List.cons.inj (List.cons.inj h).2).2
    have hmem : d ∈ lines := htail ▸ List.mem_append_right chunk List.mem_cons_self
    exact absurd hd (hfresh d hmem)

/-- A chunk with the mark of a line is not empty. -/
theorem ne_nil_of_mark {chunk : List α} {b : β} (h : chunk.head?.map μ=some b) : chunk ≠ [] := by
  rintro rfl
  cases h

/-- Chunks with the marks of the first lines are these lines, and the last one of them begins
with its line. -/
theorem chunks_of_marks {y : α} {back c rest : List α} {front : List α} {chunks : List (List α)}
    (h : chunks.flatten ++ (c ++ rest)=front ++ y :: back)
    (hmarks : List.Forall₂ (fun chunk x => chunk.head?.map μ=some (μ x)) (chunks ++ [c])
      (front ++ [y]))
    (hnodup : ((front ++ [y]).map μ).Nodup) (hback : ∀ l ∈ back, μ l ∉ (front ++ [y]).map μ) :
    chunks=front.map (fun x => [x]) ∧ c ++ rest=y :: back := by
  induction front generalizing chunks with
  | nil =>
    have hlength := hmarks.length_eq
    rw [List.length_append,List.length_append,List.length_nil] at hlength
    have hchunks : chunks=[] := List.eq_nil_of_length_eq_zero (by simpa using hlength)
    subst hchunks
    exact ⟨rfl,h⟩
  | cons x front ih =>
    cases chunks with
    | nil =>
      have hlength := hmarks.length_eq
      simp at hlength
    | cons chunk chunks =>
      rw [List.cons_append,List.cons_append] at hmarks
      obtain ⟨hx,hrest⟩ := List.forall₂_cons.mp hmarks
      rw [List.cons_append,List.map_cons,List.nodup_cons] at hnodup
      have hbackrest : ∀ l ∈ back, μ l ∉ (front ++ [y]).map μ := fun l hl hm =>
        hback l hl (List.mem_cons_of_mem _ hm)
      obtain ⟨z,lines,hlines⟩ : ∃ z lines, front ++ [y]=z :: lines :=
        List.exists_cons_of_ne_nil (by simp)
      obtain ⟨next,others,hnext⟩ : ∃ next others, chunks ++ [c]=next :: others :=
        List.exists_cons_of_ne_nil (by simp)
      have hmark : next.head?.map μ=some (μ z) := by
        rw [hnext,hlines] at hrest
        exact (List.forall₂_cons.mp hrest).1
      obtain ⟨d,tail,rfl⟩ := List.exists_cons_of_ne_nil (ne_nil_of_mark hmark)
      have hflat : chunks.flatten ++ (c ++ rest)=d :: (tail ++ others.flatten ++ rest) := by
        have hjoined := congrArg (fun l => l.flatten ++ rest) hnext
        simpa only [List.flatten_append,List.flatten_cons,List.flatten_nil,List.append_nil,
          List.append_assoc,List.cons_append] using hjoined
      have hall : front ++ y :: back=z :: (lines ++ back) := by
        have hjoined := congrArg (fun l => l ++ back) hlines
        simpa only [List.append_assoc,List.nil_append,List.cons_append] using hjoined
      have hfresh : ∀ l ∈ lines ++ back, μ l ≠ μ z := by
        intro l hl he
        have hdistinct := hnodup.2
        rw [hlines,List.map_cons,List.nodup_cons] at hdistinct
        rcases List.mem_append.mp hl with hl|hl
        · exact hdistinct.1 (he ▸ List.mem_map_of_mem hl)
        · refine hbackrest l hl ?_
          rw [hlines,he]
          exact List.mem_cons_self
      rw [List.flatten_cons,List.append_assoc,hflat,List.cons_append,hall] at h
      have hsingle : chunk=[x] := single_of_marks h (ne_nil_of_mark hx)
        (Option.some.inj hmark) hfresh
      rw [hsingle,List.singleton_append,←hall,←hflat] at h
      obtain ⟨hchunks,hlast⟩ := ih (List.cons.inj h).2 hrest hnodup.2 hbackrest
      exact ⟨by rw [hsingle,hchunks,List.map_cons],hlast⟩

end MeshPresence.MarkedLines

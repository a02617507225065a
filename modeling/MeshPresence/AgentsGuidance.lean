import MeshPresence.SubstringSearch
import MeshPresence.TextOperations

/-!
# The guidance block of `AGENTS.md`

`camp init` keeps its usage guidance in one block between two markers. A run
replaces the text from the first start marker through the first end marker when
the start marker comes first, and appends the block otherwise. Texts are lists of
characters, positions are counted in characters, and the rendered guidance is an
argument.
-/

namespace MeshPresence.AgentsGuidance

open TextOperations SubstringSearch

/-- Marker in front of the guidance. -/
def agentsGuidanceStart : List Char := "<!-- CAMP:START -->".toList

/-- Marker behind the guidance. -/
def agentsGuidanceEnd : List Char := "<!-- CAMP:END -->".toList

/-- Remove white space at the end. -/
def trimEnd (s : List Char) : List Char := s.rdropWhile isWhitespace

/-- Remove white space at the beginning. -/
def trimStart (s : List Char) : List Char := s.dropWhile isWhitespace

/-- Replace the first complete block by another one, or append it. -/
def replaceMarkedBlock (existing start finish replacement : List Char) : List Char :=
  let trimmedReplacement := trimEnd replacement
  let appended :=
    if trimList isWhitespace existing=[] then trimmedReplacement ++ ['\n']
    else trimEnd existing ++ ['\n', '\n'] ++ trimmedReplacement ++ ['\n']
  match indexOf? start existing,indexOf? finish existing with
  | some startIdx,some endIdx =>
    if startIdx ≤ endIdx then
      let before := trimEnd (existing.take startIdx)
      let after := trimStart (existing.drop (endIdx+finish.length))
      if before=[] ∧ after=[] then trimmedReplacement ++ ['\n']
      else if before=[] then trimmedReplacement ++ ['\n', '\n'] ++ after ++ ['\n']
      else if after=[] then before ++ ['\n', '\n'] ++ trimmedReplacement ++ ['\n']
      else before ++ ['\n', '\n'] ++ trimmedReplacement ++ ['\n', '\n'] ++ after ++ ['\n']
    else appended
  | _,_ => appended

/-- New contents of the guidance file; a file that cannot be read counts as empty. -/
def upsertAgentsGuidance (contents : Option (List Char)) (guidance : List Char) : List Char :=
  replaceMarkedBlock (contents.getD []) agentsGuidanceStart agentsGuidanceEnd guidance

section Trimming

/-- A text of white space only. -/
def Blank (s : List Char) : Prop := ∀ c ∈ s, isWhitespace c=true

/-- Blankness is decided by its definition. -/
instance (s : List Char) : Decidable (Blank s) := List.decidableBAll _ s

/-- No text is blank. -/
theorem blank_nil : Blank [] := fun _ hc => absurd hc List.not_mem_nil

/-- A newline is blank. -/
theorem blank_newline : Blank ['\n'] := by decide

/-- An empty line is blank. -/
theorem blank_emptyLine : Blank ['\n', '\n'] := by decide

/-- Trimming at the end leaves nothing exactly of blank texts. -/
theorem trimEnd_eq_nil {s : List Char} : trimEnd s=[] ↔ Blank s := List.rdropWhile_eq_nil_iff

/-- Trimming at the beginning leaves nothing exactly of blank texts. -/
theorem trimStart_eq_nil {s : List Char} : trimStart s=[] ↔ Blank s := List.dropWhile_eq_nil_iff

/-- Trimming both ends leaves nothing exactly of blank texts. -/
theorem trimList_eq_nil {s : List Char} : trimList isWhitespace s=[] ↔ Blank s := by
  constructor
  · intro h c hc
    rw [←List.takeWhile_append_dropWhile (p:=isWhitespace) (l:=s)] at hc
    rcases List.mem_append.mp hc with hfront|hback
    · exact List.mem_takeWhile_imp hfront
    · exact List.rdropWhile_eq_nil_iff.mp h c hback
  · intro h
    rw [trimList,List.dropWhile_eq_nil_iff.mpr h,List.rdropWhile_nil]

/-- Trimming twice at the end is trimming once. -/
theorem trimEnd_trimEnd (s : List Char) : trimEnd (trimEnd s)=trimEnd s :=
  List.rdropWhile_idempotent isWhitespace s

/-- Trimming twice at the beginning is trimming once. -/
theorem trimStart_trimStart (s : List Char) : trimStart (trimStart s)=trimStart s :=
  List.dropWhile_idempotent isWhitespace s

/-- Trimming removes blank text from the end. -/
theorem exists_trimEnd (s : List Char) : ∃ gap, Blank gap ∧ s=trimEnd s ++ gap :=
  ⟨s.rtakeWhile isWhitespace,fun _ => List.mem_rtakeWhile_imp,
    List.rdropWhile_append_rtakeWhile.symm⟩

/-- Trimming removes blank text from the beginning. -/
theorem exists_trimStart (s : List Char) : ∃ gap, s=gap ++ trimStart s :=
  ⟨s.takeWhile isWhitespace,List.takeWhile_append_dropWhile.symm⟩

/-- Blank text at the end is trimmed with the rest. -/
theorem trimEnd_append_blank (s : List Char) {gap : List Char} (h : Blank gap) :
    trimEnd (s ++ gap)=trimEnd s := by
  rw [trimEnd,List.rdropWhile,List.reverse_append,
    List.dropWhile_append_of_pos fun c hc => h c (List.mem_reverse.mp hc)]
  rfl

/-- A trimmed text behind another one keeps it whole. -/
theorem trimEnd_append {s rest : List Char} (hrest : trimEnd rest=rest) (hne : rest ≠ []) :
    trimEnd (s ++ rest)=s ++ rest := by
  refine List.rdropWhile_eq_self_iff.mpr fun hl => ?_
  rw [List.getLast_append_of_ne_nil hl hne]
  exact List.rdropWhile_eq_self_iff.mp hrest hne

/-- A text that a trimmed text begins begins with it after trimming too. -/
theorem prefix_trimEnd {s text : List Char} (hs : trimEnd s=s) (h : s <+: text) :
    s <+: trimEnd text := by
  obtain ⟨rest,rfl⟩ := h
  obtain ⟨gap,hgap,hrest⟩ := exists_trimEnd rest
  by_cases hblank : trimEnd rest=[]
  · rw [trimEnd_append_blank s (trimEnd_eq_nil.mp hblank),hs]
  · rw [hrest,←List.append_assoc,trimEnd_append_blank _ hgap,
      trimEnd_append (trimEnd_trimEnd rest) hblank]
    exact List.prefix_append s _

end Trimming

section Layout

/-- Text in front of the block, with the empty line that separates them. -/
def lead (before : List Char) : List Char := if before=[] then [] else before ++ ['\n', '\n']

/-- Text behind the block, with the empty line that separates them and a final newline. -/
def rear (after : List Char) : List Char :=
  if after=[] then ['\n'] else ['\n', '\n'] ++ after ++ ['\n']

/-- The file with a block between two texts. -/
def assembled (before block after : List Char) : List Char := lead before ++ block ++ rear after

/-- The text has a first start marker no later than its first end marker. -/
def Complete (text : List Char) (startIdx endIdx : ℕ) : Prop :=
  indexOf? agentsGuidanceStart text=some startIdx ∧
    indexOf? agentsGuidanceEnd text=some endIdx ∧ startIdx ≤ endIdx

/-- The texts in front of and behind the first complete block; without one, all of it. -/
def outside (text : List Char) : List Char × List Char :=
  match indexOf? agentsGuidanceStart text,indexOf? agentsGuidanceEnd text with
  | some startIdx,some endIdx =>
    if startIdx ≤ endIdx then
      (text.take startIdx,text.drop (endIdx+agentsGuidanceEnd.length))
    else (text,[])
  | _,_ => (text,[])

/-- A complete block leaves the text on its two sides outside. -/
theorem outside_complete {text : List Char} {startIdx endIdx : ℕ}
    (h : Complete text startIdx endIdx) :
    outside text=(text.take startIdx,text.drop (endIdx+agentsGuidanceEnd.length)) := by
  rw [outside,h.1,h.2.1]
  exact if_pos h.2.2

/-- Without a complete block everything is outside. -/
theorem outside_incomplete {text : List Char}
    (h : ∀ startIdx endIdx, ¬Complete text startIdx endIdx) : outside text=(text,[]) := by
  rw [outside]
  split
  · next startIdx endIdx hstart hend =>
    exact if_neg fun hle => h startIdx endIdx ⟨hstart,hend,hle⟩
  · rfl

/-- Every run puts the block between the trimmed texts outside of the first one. -/
theorem replaceMarkedBlock_eq (existing replacement : List Char) :
    replaceMarkedBlock existing agentsGuidanceStart agentsGuidanceEnd replacement=
      assembled (trimEnd (outside existing).1) (trimEnd replacement)
        (trimStart (outside existing).2) := by
  have happended : (if trimList isWhitespace existing=[] then trimEnd replacement ++ ['\n']
      else trimEnd existing ++ ['\n', '\n'] ++ trimEnd replacement ++ ['\n'])=
      assembled (trimEnd existing) (trimEnd replacement) [] := by
    rw [assembled,lead,rear,if_pos rfl]
    by_cases hblank : Blank existing
    · rw [if_pos (trimList_eq_nil.mpr hblank),if_pos (trimEnd_eq_nil.mpr hblank),List.nil_append]
    · rw [if_neg (mt trimList_eq_nil.mp hblank),if_neg (mt trimEnd_eq_nil.mp hblank)]
  rw [replaceMarkedBlock,outside]
  dsimp only
  split
  · next startIdx endIdx hstart hend =>
    by_cases hle : startIdx ≤ endIdx
    · rw [if_pos hle,if_pos hle,assembled,lead,rear]
      by_cases hb : trimEnd (existing.take startIdx)=[] <;>
        by_cases ha : trimStart (existing.drop (endIdx+agentsGuidanceEnd.length))=[] <;>
          simp only [hb,ha,and_self,and_true,and_false,if_true,if_false,List.nil_append,
            List.append_assoc]
    · rw [if_neg hle,if_neg hle]
      exact happended
  · exact happended

end Layout

section Blocks

/-- What the search for a marker relies on. -/
structure IsMarker (marker : List Char) : Prop where
  /-- The marker is one line. -/
  newline : '\n' ∉ marker
  /-- The marker is not empty. -/
  ne_nil : marker ≠ []
  /-- The marker does not end in white space. -/
  last : isWhitespace (marker.getLast ne_nil)=false

/-- The start marker is one. -/
theorem isMarker_start : IsMarker agentsGuidanceStart :=
  ⟨by decide,by decide,by decide⟩

/-- The end marker is one. -/
theorem isMarker_end : IsMarker agentsGuidanceEnd :=
  ⟨by decide,by decide,by decide⟩

/-- A replacement from its only start marker to its only end marker. -/
structure IsBlock (block : List Char) : Prop where
  /-- The block begins with the start marker. -/
  start : agentsGuidanceStart <+: block
  /-- The block ends with the end marker. -/
  finish : agentsGuidanceEnd <:+ block
  /-- There is no other start marker. -/
  startOnce : occurrences agentsGuidanceStart block=1
  /-- There is no other end marker. -/
  finishOnce : occurrences agentsGuidanceEnd block=1

/-- Whether a text is a block is decided by its fields. -/
instance (block : List Char) : Decidable (IsBlock block) :=
  decidable_of_iff (agentsGuidanceStart <+: block ∧ agentsGuidanceEnd <:+ block ∧
      occurrences agentsGuidanceStart block=1 ∧ occurrences agentsGuidanceEnd block=1)
    ⟨fun ⟨hstart,hfinish,hs,hf⟩ => ⟨hstart,hfinish,hs,hf⟩,
      fun h => ⟨h.start,h.finish,h.startOnce,h.finishOnce⟩⟩

variable {marker before block after text : List Char}

/-- A marker occurs in a text exactly when it occurs in the trimmed text. -/
theorem IsMarker.indexOf?_trimEnd (hm : IsMarker marker) (text : List Char) :
    indexOf? marker (trimEnd text)=indexOf? marker text := by
  obtain ⟨gap,hgap,htext⟩ := exists_trimEnd text
  conv_rhs => rw [htext]
  exact (indexOf?_append_class hm.ne_nil hm.last _ hgap).symm

/-- A block is not empty. -/
theorem IsBlock.ne_nil (h : IsBlock block) : block ≠ [] := by
  rintro rfl
  exact isMarker_end.ne_nil (List.suffix_nil.mp h.finish)

/-- A block ends without white space. -/
theorem IsBlock.trimEnd_eq (h : IsBlock block) : trimEnd block=block := by
  obtain ⟨front,rfl⟩ := h.finish
  exact trimEnd_append (by decide) isMarker_end.ne_nil

/-- A newline in front is not part of a marker. -/
theorem IsMarker.indexOf?_newline (hm : IsMarker marker) (text : List Char) :
    indexOf? marker ('\n' :: text)=(indexOf? marker text).map (· + 1) :=
  indexOf?_separator hm.newline hm.ne_nil (mt List.infix_nil.mp hm.ne_nil) text

/-- Behind a text without the marker, the search goes on in the block. -/
theorem IsMarker.indexOf?_assembled (hm : IsMarker marker) (hbefore : ¬marker <:+: before)
    {position : ℕ} (hblock : indexOf? marker block=some position) (after : List Char) :
    indexOf? marker (assembled before block after)=some (position+(lead before).length) := by
  have hrest := indexOf?_append hblock (rear after)
  rw [assembled,List.append_assoc,lead]
  split
  · exact hrest
  · rw [List.append_assoc,List.cons_append,indexOf?_separator hm.newline hm.ne_nil hbefore,
      List.singleton_append,hm.indexOf?_newline,hrest,Option.map_some,Option.map_some,
      List.length_append,List.length_cons,List.length_singleton]
    congr 1
    omega

/-- A block that follows a text without markers is the first complete one. -/
theorem IsBlock.complete (h : IsBlock block) (hstart : ¬agentsGuidanceStart <:+: before)
    (hend : ¬agentsGuidanceEnd <:+: before) (after : List Char) :
    Complete (assembled before block after) (lead before).length
      (block.length-agentsGuidanceEnd.length+(lead before).length) := by
  have hfirst := isMarker_start.indexOf?_assembled hstart (indexOf?_of_isPrefix h.start) after
  have hlast := indexOf?_of_once isMarker_end.ne_nil h.finish h.finishOnce
  rw [Nat.zero_add] at hfirst
  exact ⟨hfirst,isMarker_end.indexOf?_assembled hend hlast after,Nat.le_add_left _ _⟩

/-- Behind the end marker of a block is the text behind the block. -/
theorem IsBlock.drop_assembled (h : IsBlock block) (before after : List Char) :
    (assembled before block after).drop
      (block.length-agentsGuidanceEnd.length+(lead before).length+agentsGuidanceEnd.length)=
        rear after := by
  have hlength := h.finish.length_le
  have hcut : block.length-agentsGuidanceEnd.length+(lead before).length+
      agentsGuidanceEnd.length=(lead before ++ block).length := by
    rw [List.length_append]
    omega
  rw [hcut,assembled,List.drop_left]

/-- Outside of that block are the texts on its two sides. -/
theorem IsBlock.outside_assembled (h : IsBlock block) (hstart : ¬agentsGuidanceStart <:+: before)
    (hend : ¬agentsGuidanceEnd <:+: before) (after : List Char) :
    outside (assembled before block after)=(lead before,rear after) := by
  rw [outside_complete (h.complete hstart hend after),h.drop_assembled,assembled,
    List.append_assoc,List.take_left]

/-- The empty line in front of the block is trimmed. -/
theorem trimEnd_lead (h : trimEnd before=before) : trimEnd (lead before)=before := by
  rw [lead]
  split
  · next hb => rw [hb,trimEnd,List.rdropWhile_nil]
  · rw [trimEnd_append_blank before blank_emptyLine,h]

/-- Text behind the block after one more run: its final newline is kept and gets another one. -/
def grown (after : List Char) : List Char := if after=[] then [] else after ++ ['\n']

/-- Growing changes every text behind the block. -/
theorem rear_grown_iff {after : List Char} : rear (grown after)=rear after ↔ after=[] := by
  rw [grown]
  split
  · next ha => exact iff_of_true (by rw [ha]) ha
  · next ha =>
    have hne : after ++ ['\n'] ≠ [] := List.append_ne_nil_of_left_ne_nil ha _
    refine iff_of_false (fun heq => ?_) ha
    rw [rear,rear,if_neg hne,if_neg ha,List.append_left_inj,List.append_right_inj] at heq
    exact List.cons_ne_nil _ _ (List.append_right_eq_self.mp heq)

/-- The empty line behind the block is trimmed, the final newline is not. -/
theorem trimStart_rear (h : trimStart after=after) : trimStart (rear after)=grown after := by
  rw [rear,grown]
  split
  · rfl
  · next ha =>
    have hkept : trimStart (after ++ ['\n'])=after ++ ['\n'] := by
      rw [trimStart,List.dropWhile_append,←trimStart,h,if_neg (mt List.isEmpty_iff.mp ha)]
    rw [List.append_assoc,trimStart,List.dropWhile_append_of_pos blank_emptyLine]
    exact hkept

/-- A run puts a block between the trimmed texts outside of the first one. -/
theorem IsBlock.replaceMarkedBlock_eq (h : IsBlock block) (existing : List Char) :
    replaceMarkedBlock existing agentsGuidanceStart agentsGuidanceEnd block=
      assembled (trimEnd (outside existing).1) block (trimStart (outside existing).2) := by
  rw [AgentsGuidance.replaceMarkedBlock_eq,h.trimEnd_eq]

/-- The guidance is a block and a newline, and only the block is written. -/
theorem IsBlock.upsertAgentsGuidance_newline (h : IsBlock block) (contents : Option (List Char)) :
    upsertAgentsGuidance contents (block ++ ['\n'])=
      replaceMarkedBlock (contents.getD []) agentsGuidanceStart agentsGuidanceEnd block := by
  rw [upsertAgentsGuidance,h.replaceMarkedBlock_eq,AgentsGuidance.replaceMarkedBlock_eq,
    trimEnd_append_blank block blank_newline,h.trimEnd_eq]

/-- A marker of a text is in the trimmed text. -/
theorem IsMarker.infix_trimEnd (hm : IsMarker marker) :
    marker <:+: trimEnd text ↔ marker <:+: text := by
  rw [←not_iff_not,←indexOf?_eq_none,hm.indexOf?_trimEnd,indexOf?_eq_none]

/-- A text with a marker is not blank. -/
theorem IsMarker.trimEnd_ne_nil (hm : IsMarker marker) (h : marker <:+: text) :
    trimEnd text ≠ [] := by
  intro hnil
  have hinfix := hm.infix_trimEnd.mpr h
  rw [hnil] at hinfix
  exact hm.ne_nil (List.infix_nil.mp hinfix)

/-- Without a complete block, a run appends the block. -/
theorem IsBlock.replaceMarkedBlock_appends (h : IsBlock block)
    (hnone : ∀ startIdx endIdx, ¬Complete text startIdx endIdx) :
    replaceMarkedBlock text agentsGuidanceStart agentsGuidanceEnd block=
      assembled (trimEnd text) block [] := by
  rw [h.replaceMarkedBlock_eq,outside_incomplete hnone]
  rfl

/-- Behind a text that is not blank, a block stands after an empty line. -/
theorem assembled_of_ne_nil (h : before ≠ []) (block : List Char) :
    assembled before block []=before ++ (['\n', '\n'] ++ block ++ ['\n']) := by
  rw [assembled,lead,rear,if_neg h,if_pos rfl]
  simp only [List.append_assoc]

/-- Behind a text without the marker, only the block is counted. -/
theorem IsMarker.occurrences_assembled (hm : IsMarker marker)
    (hbefore : ¬marker <:+: before) (block : List Char) :
    occurrences marker (assembled before block [])=occurrences marker block := by
  have hnil : occurrences marker []=0 := if_neg hm.ne_nil
  have hnewline : ∀ s, occurrences marker ('\n' :: s)=occurrences marker s := by
    intro s
    have hsplit := occurrences_separator hm.newline hm.ne_nil [] s
    rwa [hnil,Nat.zero_add] at hsplit
  have hblock : occurrences marker (block ++ ['\n'])=occurrences marker block := by
    rw [occurrences_separator hm.newline hm.ne_nil,hnil,Nat.add_zero]
  rw [assembled,List.append_assoc,rear,if_pos rfl,lead]
  split
  · exact hblock
  · rw [List.append_assoc,List.cons_append,occurrences_separator hm.newline hm.ne_nil,
      List.singleton_append,hnewline,hblock,occurrences_eq_zero.mpr hbefore,Nat.zero_add]

/-- A marker on both sides of a cut occurs twice. -/
theorem IsMarker.two_le_occurrences {left right : List Char} (hm : IsMarker marker)
    (hleft : marker <:+: left) (hright : marker <:+: right) :
    2 ≤ occurrences marker (left ++ right) := by
  have hsum := add_occurrences_le hm.ne_nil left right
  have hl : occurrences marker left ≠ 0 := fun h => occurrences_eq_zero.mp h hleft
  have hr : occurrences marker right ≠ 0 := fun h => occurrences_eq_zero.mp h hright
  omega

/-- A text without markers has no complete block. -/
theorem incomplete_of_free (h : ¬agentsGuidanceStart <:+: text) (startIdx endIdx : ℕ) :
    ¬Complete text startIdx endIdx := by
  rintro ⟨hstart,-⟩
  rw [indexOf?_eq_none.mpr h] at hstart
  cases hstart

/-- A file with a block has the texts on its two sides around it. -/
theorem exists_assembled (before block after : List Char) : ∃ front back gap, Blank gap ∧
    assembled before block after=before ++ (front ++ block ++ back) ++ after ++ gap := by
  have hlead : ∃ front, lead before=before ++ front := by
    rw [lead]
    split
    · next hb => exact ⟨[],by rw [hb]; rfl⟩
    · exact ⟨_,rfl⟩
  have hrear : ∃ back gap, Blank gap ∧ rear after=back ++ after ++ gap := by
    rw [rear]
    split
    · next ha => exact ⟨[],['\n'],blank_newline,by rw [ha]; rfl⟩
    · exact ⟨['\n', '\n'],['\n'],blank_newline,rfl⟩
  obtain ⟨front,hfront⟩ := hlead
  obtain ⟨back,gap,hgap,hback⟩ := hrear
  refine ⟨front,back,gap,hgap,?_⟩
  rw [assembled,hfront,hback]
  simp only [List.append_assoc]

end Blocks

end MeshPresence.AgentsGuidance

import MeshPresence.AgentsGuidance

/-!
# Runs of `camp init` over one guidance file

A text without markers, or whose first start marker comes no later than its first
end marker, is clean: every run keeps the text on both sides of its block. Behind an
end marker without a start marker in front, blocks are appended for ever. A start
marker without an end marker is closed by the first block that is appended, and the
next run takes away everything from there on.
-/

namespace MeshPresence.GuidanceRuns

open TextOperations SubstringSearch AgentsGuidance

variable {before after block text : List Char}

/-- Contents of the file after one run for each block. -/
def runs (existing : List Char) (blocks : List (List Char)) : List Char :=
  blocks.foldl (fun text block =>
    replaceMarkedBlock text agentsGuidanceStart agentsGuidanceEnd block) existing

/-- The text has no markers, or its first end marker follows its first start marker. -/
def Clean (text : List Char) : Prop :=
  (¬agentsGuidanceStart <:+: text ∧ ¬agentsGuidanceEnd <:+: text) ∨
    ∃ startIdx endIdx, Complete text startIdx endIdx

/-- An end marker comes before every start marker. -/
def EndFirst (text : List Char) : Prop :=
  ∃ endIdx, indexOf? agentsGuidanceEnd text=some endIdx ∧
    ∀ startIdx, indexOf? agentsGuidanceStart text=some startIdx → endIdx<startIdx

/-- A start marker is never closed. -/
def StartOnly (text : List Char) : Prop :=
  agentsGuidanceStart <:+: text ∧ ¬agentsGuidanceEnd <:+: text

/-- Every text has one of the three marker layouts. -/
theorem layout (text : List Char) : Clean text ∨ EndFirst text ∨ StartOnly text := by
  cases hend : indexOf? agentsGuidanceEnd text with
  | none =>
    have hnone := indexOf?_eq_none.mp hend
    by_cases hstart : agentsGuidanceStart <:+: text
    · exact Or.inr (Or.inr ⟨hstart,hnone⟩)
    · exact Or.inl (Or.inl ⟨hstart,hnone⟩)
  | some endIdx =>
    by_cases hcomplete : ∃ startIdx endIdx, Complete text startIdx endIdx
    · exact Or.inl (Or.inr hcomplete)
    · refine Or.inr (Or.inl ⟨endIdx,hend,fun startIdx hstart => ?_⟩)
      exact lt_of_not_ge fun hle => hcomplete ⟨startIdx,endIdx,hstart,hend,hle⟩

/-- In front of the block of a clean text, there are no markers. -/
theorem Clean.outside_free (h : Clean text) :
    ¬agentsGuidanceStart <:+: trimEnd (outside text).1 ∧
      ¬agentsGuidanceEnd <:+: trimEnd (outside text).1 := by
  have hinside := (List.rdropWhile_prefix isWhitespace (outside text).1).isInfix
  rcases h with ⟨hstart,hend⟩|⟨startIdx,endIdx,hcomplete⟩
  · rw [outside_incomplete (incomplete_of_free hstart)] at hinside ⊢
    exact ⟨fun hm => hstart (hm.trans hinside),fun hm => hend (hm.trans hinside)⟩
  · obtain ⟨hstart,hend,hle⟩ := hcomplete
    rw [outside_complete ⟨hstart,hend,hle⟩] at hinside ⊢
    exact ⟨fun hm => notInfix_take isMarker_start.ne_nil hstart le_rfl (hm.trans hinside),
      fun hm => notInfix_take isMarker_end.ne_nil hend hle (hm.trans hinside)⟩

/-- A run on a clean text leaves a clean text with the same text in front of the
block and the grown text behind it. -/
theorem Clean.replaced (h : Clean text) (hblock : IsBlock block) :
    let result := replaceMarkedBlock text agentsGuidanceStart agentsGuidanceEnd block
    Clean result ∧ trimEnd (outside result).1=trimEnd (outside text).1 ∧
      trimStart (outside result).2=grown (trimStart (outside text).2) := by
  obtain ⟨hstart,hend⟩ := h.outside_free
  dsimp only
  rw [hblock.replaceMarkedBlock_eq,hblock.outside_assembled hstart hend]
  refine ⟨Or.inr ⟨_,_,hblock.complete hstart hend _⟩,?_,?_⟩
  · exact trimEnd_lead (trimEnd_trimEnd _)
  · exact trimStart_rear (trimStart_trimStart _)

/-- A text whose end marker comes first has an end marker. -/
theorem EndFirst.closes (h : EndFirst text) : agentsGuidanceEnd <:+: text := by
  obtain ⟨endIdx,hend,-⟩ := h
  by_contra hno
  rw [indexOf?_eq_none.mpr hno] at hend
  cases hend

/-- An end marker in front of every start marker leaves no complete block. -/
theorem EndFirst.incomplete (h : EndFirst text) (startIdx endIdx : ℕ) :
    ¬Complete text startIdx endIdx := by
  rintro ⟨hstart,hend,hle⟩
  obtain ⟨position,hposition,hbefore⟩ := h
  rw [hposition] at hend
  cases hend
  exact Nat.not_lt_of_le hle (hbefore startIdx hstart)

/-- A start marker that is never closed leaves no complete block. -/
theorem StartOnly.incomplete (h : StartOnly text) (startIdx endIdx : ℕ) :
    ¬Complete text startIdx endIdx := by
  rintro ⟨hstart,hend,hle⟩
  rw [indexOf?_eq_none.mpr h.2] at hend
  cases hend

/-- Appending a block leaves an end marker in front of every start marker. -/
theorem EndFirst.replaced (h : EndFirst text) (hblock : IsBlock block) :
    EndFirst (replaceMarkedBlock text agentsGuidanceStart agentsGuidanceEnd block) := by
  rw [hblock.replaceMarkedBlock_appends h.incomplete]
  have hne := isMarker_end.trimEnd_ne_nil h.closes
  obtain ⟨endIdx,hend,hbefore⟩ := h
  rw [←isMarker_end.indexOf?_trimEnd] at hend
  have hinside := length_of_indexOf? hend
  refine ⟨endIdx,?_,fun startIdx hstart => ?_⟩
  · rw [assembled_of_ne_nil hne]
    exact indexOf?_append hend _
  · by_cases hold : agentsGuidanceStart <:+: trimEnd text
    · obtain ⟨position,hposition⟩ := exists_indexOf? hold
      rw [assembled_of_ne_nil hne,indexOf?_append hposition] at hstart
      cases hstart
      exact hbefore startIdx ((isMarker_start.indexOf?_trimEnd text).symm.trans hposition)
    · rw [isMarker_start.indexOf?_assembled hold (indexOf?_of_isPrefix hblock.start)] at hstart
      cases hstart
      have hlead : (lead (trimEnd text)).length=(trimEnd text).length+2 := by
        rw [lead,if_neg hne,List.length_append]
        rfl
      rw [hlead]
      omega

/-- A run closes a start marker that was never closed: the text is clean, and
nothing is behind its block. -/
theorem StartOnly.replaced (h : StartOnly text) (hblock : IsBlock block) :
    let result := replaceMarkedBlock text agentsGuidanceStart agentsGuidanceEnd block
    Clean result ∧ trimStart (outside result).2=[] := by
  dsimp only
  rw [hblock.replaceMarkedBlock_appends h.incomplete]
  obtain ⟨startIdx,hstart⟩ := exists_indexOf? h.1
  rw [←isMarker_start.indexOf?_trimEnd] at hstart
  have hne := isMarker_start.trimEnd_ne_nil h.1
  have hopen : indexOf? agentsGuidanceStart (assembled (trimEnd text) block [])=some startIdx := by
    rw [assembled_of_ne_nil hne]
    exact indexOf?_append hstart _
  have hclosed := isMarker_end.indexOf?_assembled
    (fun hm => h.2 (hm.trans (List.rdropWhile_prefix isWhitespace text).isInfix))
    (indexOf?_of_once isMarker_end.ne_nil hblock.finish hblock.finishOnce) []
  have hinside := length_of_indexOf? hstart
  have hlead : (trimEnd text).length ≤ (lead (trimEnd text)).length := by
    rw [lead,if_neg hne,List.length_append]
    exact Nat.le_add_right _ _
  have hcomplete : Complete (assembled (trimEnd text) block []) startIdx
      (block.length-agentsGuidanceEnd.length+(lead (trimEnd text)).length) :=
    ⟨hopen,hclosed,by omega⟩
  refine ⟨Or.inr ⟨_,_,hcomplete⟩,?_⟩
  rw [outside_complete hcomplete,hblock.drop_assembled]
  rfl

/-- Appending a block to a text that is not blank grows it with every run. -/
theorem EndFirst.replaced_ne (h : EndFirst text) (hblock : IsBlock block) :
    let result := replaceMarkedBlock text agentsGuidanceStart agentsGuidanceEnd block
    replaceMarkedBlock result agentsGuidanceStart agentsGuidanceEnd block ≠ result := by
  dsimp only
  intro heq
  have hfirst := hblock.replaceMarkedBlock_appends h.incomplete
  have hsecond := hblock.replaceMarkedBlock_appends (h.replaced hblock).incomplete
  have htrimmed : ∀ before, trimEnd (assembled before block [])=lead before ++ block := by
    intro before
    rw [assembled,rear,if_pos rfl,trimEnd_append_blank _ blank_newline]
    exact trimEnd_append hblock.trimEnd_eq hblock.ne_nil
  rw [hsecond,hfirst] at heq
  have hlength := congrArg (fun s => (trimEnd s).length) heq
  have hne : lead (trimEnd text) ++ block ≠ [] := List.append_ne_nil_of_right_ne_nil _ hblock.ne_nil
  rw [htrimmed,htrimmed,lead,if_neg hne] at hlength
  simp only [List.length_append,List.length_cons,List.length_nil] at hlength
  omega

/-- A run on a clean text with nothing behind its block leaves one start marker. -/
theorem Clean.once (h : Clean text) (hafter : trimStart (outside text).2=[])
    (hblock : IsBlock block) :
    occurrences agentsGuidanceStart
      (replaceMarkedBlock text agentsGuidanceStart agentsGuidanceEnd block)=1 := by
  rw [hblock.replaceMarkedBlock_eq,hafter,isMarker_start.occurrences_assembled h.outside_free.1,
    hblock.startOnce]

/-- A start marker that is never closed is kept beside the one of the first block. -/
theorem StartOnly.twice (h : StartOnly text) (hblock : IsBlock block) :
    2 ≤ occurrences agentsGuidanceStart
      (replaceMarkedBlock text agentsGuidanceStart agentsGuidanceEnd block) := by
  have hkept := isMarker_start.infix_trimEnd.mpr h.1
  have hne := isMarker_start.trimEnd_ne_nil h.1
  rw [hblock.replaceMarkedBlock_appends h.incomplete,assembled_of_ne_nil hne]
  refine isMarker_start.two_le_occurrences hkept ?_
  rw [List.append_assoc]
  exact (hblock.start.isInfix.trans (List.prefix_append block _).isInfix).trans
    (List.suffix_append _ _).isInfix

/-- Only white space follows the first complete block, or there is no marker. -/
def Settled (text : List Char) : Prop :=
  (¬agentsGuidanceStart <:+: text ∧ ¬agentsGuidanceEnd <:+: text) ∨
    ∃ startIdx endIdx, Complete text startIdx endIdx ∧
      Blank (text.drop (endIdx+agentsGuidanceEnd.length))

/-- A clean text is settled when nothing but white space is behind its block. -/
theorem Clean.settled_iff (h : Clean text) : Settled text ↔ trimStart (outside text).2=[] := by
  rcases h with hfree|⟨startIdx,endIdx,hcomplete⟩
  · rw [outside_incomplete (incomplete_of_free hfree.1)]
    exact iff_of_true (Or.inl hfree) rfl
  · rw [outside_complete hcomplete,trimStart_eq_nil]
    constructor
    · rintro (hfree|⟨first,last,hother,hblank⟩)
      · exact absurd hcomplete (incomplete_of_free hfree.1 startIdx endIdx)
      · cases hcomplete.2.1.symm.trans hother.2.1
        exact hblank
    · exact fun hblank => Or.inr ⟨startIdx,endIdx,hcomplete,hblank⟩

/-- A settled text is clean. -/
theorem Settled.clean (h : Settled text) : Clean text :=
  h.imp_right fun ⟨startIdx,endIdx,hcomplete,_⟩ => ⟨startIdx,endIdx,hcomplete⟩

/-- Without a complete block, a clean text has no markers. -/
theorem Clean.free (h : Clean text) (hnone : ∀ startIdx endIdx, ¬Complete text startIdx endIdx) :
    ¬agentsGuidanceStart <:+: text ∧ ¬agentsGuidanceEnd <:+: text :=
  h.resolve_right fun ⟨startIdx,endIdx,hcomplete⟩ => hnone startIdx endIdx hcomplete

/-- A second run with the same block changes nothing exactly when only white space
follows the first complete block or there was no marker. -/
theorem second_run_idle_iff (existing : List Char) (hblock : IsBlock block) :
    let result := replaceMarkedBlock existing agentsGuidanceStart agentsGuidanceEnd block
    replaceMarkedBlock result agentsGuidanceStart agentsGuidanceEnd block=result ↔
      Settled existing := by
  dsimp only
  rcases layout existing with hclean|hend|hstart
  · obtain ⟨-,hbefore,hafter⟩ := hclean.replaced hblock
    rw [hclean.settled_iff,hblock.replaceMarkedBlock_eq (replaceMarkedBlock existing _ _ _),
      hbefore,hafter,hblock.replaceMarkedBlock_eq existing,assembled,assembled,
      List.append_right_inj,rear_grown_iff]
  · refine iff_of_false (hend.replaced_ne hblock) fun hsettled => ?_
    exact (hsettled.clean.free hend.incomplete).2 hend.closes
  · refine iff_of_false (fun heq => ?_) fun hsettled => ?_
    · obtain ⟨hclean,hafter⟩ := hstart.replaced hblock
      have htwice := hstart.twice hblock
      rw [←heq,hclean.once hafter hblock] at htwice
      omega
    · exact (hsettled.clean.free hstart.incomplete).1 hstart.1

/-- Text after the block keeps its final newline and gets another one. -/
theorem second_run_adds_newline :
    let existing := "<!-- CAMP:START -->\n<!-- CAMP:END -->\nnotes".toList
    let block := "<!-- CAMP:START -->\ncamp up\n<!-- CAMP:END -->".toList
    let first := replaceMarkedBlock existing agentsGuidanceStart agentsGuidanceEnd block
    let second := replaceMarkedBlock first agentsGuidanceStart agentsGuidanceEnd block
    IsBlock block ∧ second=first ++ ['\n'] ∧ second ≠ first := by
  decide +kernel

/-- A second run changes nothing when the block is at the end. -/
theorem second_run_idle_iff_at_end :
    let existing := "# Notes\n<!-- CAMP:START -->\n<!-- CAMP:END -->\n\n".toList
    let block := "<!-- CAMP:START -->\ncamp up\n<!-- CAMP:END -->".toList
    let first := replaceMarkedBlock existing agentsGuidanceStart agentsGuidanceEnd block
    replaceMarkedBlock first agentsGuidanceStart agentsGuidanceEnd block=first := by
  intro existing block
  have hblock : IsBlock block := by decide +kernel
  have hcomplete : Complete existing 8 28 :=
    ⟨by decide +kernel,by decide +kernel,by decide⟩
  exact (second_run_idle_iff existing hblock).mpr
    (Or.inr ⟨8,28,hcomplete,by decide +kernel⟩)

/-- Running once more. -/
theorem runs_concat (existing : List Char) (blocks : List (List Char)) (last : List Char) :
    runs existing (blocks ++ [last])=
      replaceMarkedBlock (runs existing blocks) agentsGuidanceStart agentsGuidanceEnd last :=
  List.foldl_concat _ _ _ _

/-- The final text has everything outside of the first complete block in order,
up to white space behind each of the two parts, with the last block in between. -/
def KeepsText (existing : List Char) (blocks : List (List Char)) : Prop :=
  ∃ between gap, Blank gap ∧ (∀ last ∈ blocks.getLast?, last <:+: between) ∧
    runs existing blocks=
      trimEnd (outside existing).1 ++ between ++ trimStart (outside existing).2 ++ gap

/-- Texts that a clean text has around its block, up to white space at the end. -/
structure Around (before after text : List Char) : Prop where
  /-- The text is clean. -/
  clean : Clean text
  /-- The text in front of the block. -/
  front : trimEnd (outside text).1=before
  /-- The text behind the block, with further white space. -/
  back : ∃ gap, Blank gap ∧ trimStart (outside text).2=after ++ gap

/-- A run keeps the texts around the block. -/
theorem Around.replaced (h : Around before after text) (hblock : IsBlock block) :
    Around before after (replaceMarkedBlock text agentsGuidanceStart agentsGuidanceEnd block) := by
  obtain ⟨hclean,hfront,hback⟩ := h.clean.replaced hblock
  refine ⟨hclean,hfront.trans h.front,?_⟩
  obtain ⟨gap,hgap,hafter⟩ := h.back
  rw [hback,hafter,grown]
  split
  · next hnil => exact ⟨[],blank_nil,by rw [(List.append_eq_nil_iff.mp hnil).1]; rfl⟩
  · refine ⟨gap ++ ['\n'],?_,List.append_assoc _ _ _⟩
    exact List.forall_mem_append.mpr ⟨hgap,blank_newline⟩

/-- Every number of runs keeps the texts around the block. -/
theorem Around.afterRuns (h : Around before after text) {blocks : List (List Char)}
    (hblocks : ∀ block ∈ blocks, IsBlock block) : Around before after (runs text blocks) := by
  induction blocks using List.reverseRecOn with
  | nil => exact h
  | append_singleton blocks block ih =>
    rw [List.forall_mem_append,List.forall_mem_singleton] at hblocks
    rw [runs_concat]
    exact (ih hblocks.1).replaced hblocks.2

/-- A clean text has the texts outside of its block around it. -/
theorem Clean.around (h : Clean text) :
    Around (trimEnd (outside text).1) (trimStart (outside text).2) text :=
  ⟨h,rfl,[],blank_nil,(List.append_nil _).symm⟩

/-- Without runs, the text is as it was. -/
theorem keepsText_nil (existing : List Char) : KeepsText existing [] := by
  have hmiddle : ∃ middle, existing=(outside existing).1 ++ middle ++ (outside existing).2 := by
    by_cases hcomplete : ∃ startIdx endIdx, Complete existing startIdx endIdx
    · obtain ⟨startIdx,endIdx,hcomplete⟩ := hcomplete
      refine ⟨(existing.drop startIdx).take (endIdx+agentsGuidanceEnd.length-startIdx),?_⟩
      have hle : startIdx ≤ endIdx+agentsGuidanceEnd.length :=
        hcomplete.2.2.trans (Nat.le_add_right _ _)
      have hback : existing.drop (endIdx+agentsGuidanceEnd.length)=
          (existing.drop startIdx).drop (endIdx+agentsGuidanceEnd.length-startIdx) := by
        rw [List.drop_drop,Nat.add_sub_cancel' hle]
      rw [outside_complete hcomplete,hback,List.append_assoc,List.take_append_drop,
        List.take_append_drop]
    · rw [outside_incomplete fun startIdx endIdx h => hcomplete ⟨startIdx,endIdx,h⟩]
      exact ⟨[],by simp only [List.append_nil]⟩
  obtain ⟨middle,hmiddle⟩ := hmiddle
  obtain ⟨front,-,hfront⟩ := exists_trimEnd (outside existing).1
  obtain ⟨back,hback⟩ := exists_trimStart (outside existing).2
  refine ⟨front ++ middle ++ back,[],blank_nil,by rintro last ⟨⟩,?_⟩
  calc existing=(outside existing).1 ++ middle ++ (outside existing).2 := hmiddle
    _=(trimEnd (outside existing).1 ++ front) ++ middle ++
        (back ++ trimStart (outside existing).2) := by rw [←hfront,←hback]
    _=trimEnd (outside existing).1 ++ (front ++ middle ++ back) ++
        trimStart (outside existing).2 ++ [] := by simp only [List.append_assoc,List.append_nil]

/-- The last run keeps the text that is outside of the block before it. -/
theorem keepsText_concat {existing last : List Char} {blocks : List (List Char)}
    (hlast : IsBlock last)
    (hfront : trimEnd (outside existing).1 <+: trimEnd (outside (runs existing blocks)).1)
    (hback : ∃ gap, Blank gap ∧ trimStart (outside (runs existing blocks)).2=
      trimStart (outside existing).2 ++ gap) : KeepsText existing (blocks ++ [last]) := by
  obtain ⟨appended,hfront⟩ := hfront
  obtain ⟨more,hmore,hback⟩ := hback
  obtain ⟨front,back,gap,hgap,hassembled⟩ := exists_assembled
    (trimEnd (outside existing).1 ++ appended) last (trimStart (outside existing).2 ++ more)
  refine ⟨appended ++ (front ++ last ++ back),more ++ gap,
    List.forall_mem_append.mpr ⟨hmore,hgap⟩,?_,?_⟩
  · intro block hblock
    rw [List.getLast?_concat,Option.mem_some_iff] at hblock
    subst hblock
    exact (List.infix_append front last back).trans (List.suffix_append appended _).isInfix
  · rw [runs_concat,hlast.replaceMarkedBlock_eq,hback,←hfront,hassembled]
    simp only [List.append_assoc]

/-- Runs from a clean text keep everything outside of its block. -/
theorem Clean.keepsText (h : Clean text) {blocks : List (List Char)}
    (hblocks : ∀ block ∈ blocks, IsBlock block) : KeepsText text blocks := by
  rcases List.eq_nil_or_concat blocks with rfl|⟨init,last,rfl⟩
  · exact keepsText_nil text
  · rw [List.concat_eq_append,List.forall_mem_append,List.forall_mem_singleton] at hblocks
    have haround := h.around.afterRuns hblocks.1
    rw [List.concat_eq_append]
    exact keepsText_concat hblocks.2 (haround.front ▸ List.prefix_rfl) haround.back

/-- Runs behind an unopened end marker keep the whole text in front. -/
theorem EndFirst.afterRuns (h : EndFirst text) {blocks : List (List Char)}
    (hblocks : ∀ block ∈ blocks, IsBlock block) :
    EndFirst (runs text blocks) ∧ trimEnd text <+: trimEnd (runs text blocks) := by
  induction blocks using List.reverseRecOn with
  | nil => exact ⟨h,List.prefix_rfl⟩
  | append_singleton blocks block ih =>
    rw [List.forall_mem_append,List.forall_mem_singleton] at hblocks
    obtain ⟨hend,hfront⟩ := ih hblocks.1
    rw [runs_concat]
    refine ⟨hend.replaced hblocks.2,prefix_trimEnd (trimEnd_trimEnd text) (hfront.trans ?_)⟩
    obtain ⟨front,back,gap,-,hassembled⟩ :=
      exists_assembled (trimEnd (runs text blocks)) block []
    rw [hblocks.2.replaceMarkedBlock_appends hend.incomplete,hassembled]
    simp only [List.append_assoc]
    exact List.prefix_append _ _

/-- Runs behind an unopened end marker keep the whole text. -/
theorem EndFirst.keepsText (h : EndFirst text) {blocks : List (List Char)}
    (hblocks : ∀ block ∈ blocks, IsBlock block) : KeepsText text blocks := by
  rcases List.eq_nil_or_concat blocks with rfl|⟨init,last,rfl⟩
  · exact keepsText_nil text
  · rw [List.concat_eq_append,List.forall_mem_append,List.forall_mem_singleton] at hblocks
    obtain ⟨hend,hfront⟩ := h.afterRuns hblocks.1
    rw [List.concat_eq_append]
    refine keepsText_concat hblocks.2 ?_ ⟨[],blank_nil,?_⟩ <;>
      rw [outside_incomplete h.incomplete,outside_incomplete hend.incomplete]
    · exact hfront
    · rfl

/-- After the first run, an unclosed start marker opens the only block, with
nothing behind it, and every further run leaves one start marker. -/
theorem StartOnly.runs_once (h : StartOnly text) {first last : List Char}
    {init : List (List Char)} (hfirst : IsBlock first) (hinit : ∀ block ∈ init, IsBlock block)
    (hlast : IsBlock last) :
    occurrences agentsGuidanceStart (runs text (first :: (init ++ [last])))=1 := by
  obtain ⟨hclean,hafter⟩ := h.replaced hfirst
  have haround := hclean.around.afterRuns hinit
  obtain ⟨gap,hgap,hback⟩ := haround.back
  have hnothing : trimStart (outside (runs text (first :: init))).2=[] := by
    rw [hafter,List.nil_append] at hback
    calc trimStart (outside (runs text (first :: init))).2
        =trimStart (trimStart (outside (runs text (first :: init))).2) :=
          (trimStart_trimStart _).symm
      _=trimStart gap := congrArg trimStart hback
      _=[] := trimStart_eq_nil.mpr hgap
  rw [←List.cons_append,runs_concat]
  exact haround.clean.once hnothing hlast

/-- Runs on a text with an unclosed start marker keep all of it exactly up to the first. -/
theorem StartOnly.keepsText_once (h : StartOnly text) {blocks : List (List Char)}
    (hblocks : ∀ block ∈ blocks, IsBlock block) : KeepsText text blocks ↔ blocks.length<2 := by
  rcases blocks with _|⟨first,rest⟩
  · exact iff_of_true (keepsText_nil text) (by decide)
  rw [List.forall_mem_cons] at hblocks
  rcases List.eq_nil_or_concat rest with rfl|⟨init,last,rfl⟩
  · have hkept : KeepsText text ([] ++ [first]) :=
      keepsText_concat hblocks.1 List.prefix_rfl ⟨[],blank_nil,(List.append_nil _).symm⟩
    exact iff_of_true hkept Nat.one_lt_two
  · rw [List.concat_eq_append] at hblocks ⊢
    rw [List.forall_mem_append,List.forall_mem_singleton] at hblocks
    refine iff_of_false ?_ (by simp only [List.length_cons,List.length_append]; omega)
    rintro ⟨between,gap,-,hbetween,hfinal⟩
    have honce := h.runs_once hblocks.1 hblocks.2.1 hblocks.2.2
    have hlast : last <:+: between := by
      refine hbetween last ?_
      rw [←List.cons_append,List.getLast?_concat]
      rfl
    have htwice := isMarker_start.two_le_occurrences (isMarker_start.infix_trimEnd.mpr h.1)
      ((hblocks.2.2.start.isInfix.trans hlast).trans (List.prefix_append between gap).isInfix)
    have hnil : trimStart []=[] := rfl
    rw [outside_incomplete h.incomplete,hnil,List.append_nil,List.append_assoc] at hfinal
    rw [hfinal] at honce
    exact Nat.not_succ_le_self 1 (htwice.trans_eq honce)

/-- Runs with blocks lose user text exactly when a start marker is never closed
and at least two runs are made. -/
theorem keepsText_iff (existing : List Char) {blocks : List (List Char)}
    (hblocks : ∀ block ∈ blocks, IsBlock block) :
    KeepsText existing blocks ↔
      ¬(agentsGuidanceStart <:+: existing ∧ ¬agentsGuidanceEnd <:+: existing ∧
        2 ≤ blocks.length) := by
  rcases layout existing with hclean|hend|hstart
  · refine iff_of_true (hclean.keepsText hblocks) fun ⟨hstart,hend,_⟩ => ?_
    exact (hclean.free (StartOnly.incomplete ⟨hstart,hend⟩)).1 hstart
  · exact iff_of_true (hend.keepsText hblocks) fun ⟨_,hnone,_⟩ => hnone hend.closes
  · rw [hstart.keepsText_once hblocks,and_iff_right hstart.1,and_iff_right hstart.2,not_le]

/-- A second run takes what follows an unclosed start marker away. -/
theorem second_run_loses_notes :
    let existing := "<!-- CAMP:START -->\nnotes\n".toList
    let block := "<!-- CAMP:START -->\ncamp up\n<!-- CAMP:END -->".toList
    IsBlock block ∧ occurrences agentsGuidanceStart existing=1 ∧
      occurrences agentsGuidanceEnd existing=0 ∧
      runs existing [block,block]=block ++ ['\n'] ∧ ¬KeepsText existing [block,block] := by
  intro existing block
  have hblock : IsBlock block := by decide +kernel
  have hopen : StartOnly existing := by
    constructor
    · decide +kernel
    · decide +kernel
  refine ⟨hblock,by decide +kernel,by decide +kernel,by decide +kernel,?_⟩
  rw [hopen.keepsText_once (List.forall_mem_cons.mpr ⟨hblock,List.forall_mem_singleton.mpr hblock⟩)]
  exact lt_irrefl 2

/-- Two runs keep the text on both sides of a block. -/
theorem keepsText_iff_two_runs :
    let existing := "# Notes\n<!-- CAMP:START -->\n<!-- CAMP:END -->\nmore".toList
    let first := "<!-- CAMP:START -->\ncamp up\n<!-- CAMP:END -->".toList
    let second := "<!-- CAMP:START -->\ncamp who\n<!-- CAMP:END -->".toList
    KeepsText existing [first,second] := by
  intro existing first second
  have hfirst : IsBlock first := by decide +kernel
  have hsecond : IsBlock second := by decide +kernel
  have hblocks := List.forall_mem_cons.mpr ⟨hfirst,List.forall_mem_singleton.mpr hsecond⟩
  exact (keepsText_iff existing hblocks).mpr (by decide +kernel)

end MeshPresence.GuidanceRuns

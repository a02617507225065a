import Mathlib
import MeshPresence.SqueezedRuns

/-!
# Slugs for agent identifiers and state files

A slug is built in one pass over the characters of a text. The pass pushes every
letter and digit of ASCII in lower case and one dash for every run of other
characters; the dashes at the ends are trimmed, and a text without any letter or
digit gets a fixed slug. The pass squeezes the dashes of the text in which every
other character is a dash. Slugs are exactly the texts that it leaves alone.
-/

namespace MeshPresence.AgentSlugs

open TextOperations SqueezedRuns

/-- What the pass has pushed, and whether the last one was a dash for other characters. -/
structure SlugBuffer where
  /-- The text so far. -/
  slug : String
  /-- The character before was no letter or digit. -/
  lastDash : Bool
  deriving DecidableEq

/-- Push one character. -/
def pushSlug (buffer : SlugBuffer) (ch : Char) : SlugBuffer :=
  let normalized := ch.toLower
  if normalized.isAlphanum then { slug := buffer.slug.push normalized, lastDash := false }
  else if !buffer.lastDash then { slug := buffer.slug.push '-', lastDash := true }
  else buffer

/-- Remove the given character at both ends. -/
def trimMatches (s : String) (pattern : Char) : String :=
  String.ofList (trimSeparator pattern s.toList)

/-- Slug of a text. -/
def slugify (value : String) : String :=
  let slug := (value.toList.foldl pushSlug { slug := "", lastDash := false }).slug
  let trimmed := trimMatches slug '-'
  if trimmed="" then "camp-agent" else trimmed

/-- Lower-casing makes no character a letter or digit, or another one. -/
@[simp] theorem isAlphanum_toLower (c : Char) : c.toLower.isAlphanum=c.isAlphanum := by
  by_cases h : c.isUpper=true
  · have halpha : c.isAlpha=true := by rw [Char.isAlpha,h,Bool.true_or]
    rw [Char.isAlphanum,Char.isAlphanum,Char.isAlpha_toLower_eq_isAlpha,halpha,Bool.true_or,
      Bool.true_or]
  · rw [Char.toLower_eq_of_not_isUpper h]

/-- Letters in lower case and digits. -/
theorem isLower_or_isDigit_of_toLower {c : Char} (h : c.isAlphanum=true) :
    c.toLower.isLower=true ∨ c.toLower.isDigit=true := by
  rw [←isAlphanum_toLower,Char.isAlphanum,Char.isAlpha,Char.isUpper_toLower_eq_false,
    Bool.false_or,Bool.or_eq_true] at h
  exact h

/-- What one character contributes: its lower case, or a dash. -/
def slugChar (c : Char) : Char := if c.isAlphanum then c.toLower else '-'

/-- Only other characters contribute a dash. -/
theorem slugChar_eq_dash_iff {c : Char} : slugChar c = '-' ↔ c.isAlphanum=false := by
  unfold slugChar
  split
  · next h =>
    rw [h]
    refine ⟨fun he => ?_,fun he => by cases he⟩
    rw [←isAlphanum_toLower,he] at h
    exact absurd h (by decide)
  · next h => exact ⟨fun _ => Bool.eq_false_iff.mpr h,fun _ => rfl⟩

/-- Pushing a character appends its contribution, unless that is a dash behind a dash. -/
theorem pushSlug_eq (buffer : SlugBuffer) (c : Char) : pushSlug buffer c=
    if slugChar c = '-' ∧ buffer.lastDash=true then buffer
    else { slug := buffer.slug.push (slugChar c), lastDash := decide (slugChar c = '-') } := by
  have hdash := slugChar_eq_dash_iff (c:=c)
  unfold pushSlug
  dsimp only
  rw [isAlphanum_toLower]
  cases hc : c.isAlphanum with
  | true =>
    have hne : slugChar c ≠ '-' := fun he => by
      rw [hdash.mp he] at hc
      cases hc
    have hneither : ¬(slugChar c = '-' ∧ buffer.lastDash=true) := fun h => hne h.1
    have hchar : slugChar c=c.toLower := if_pos hc
    rw [if_pos rfl,if_neg hneither,decide_eq_false hne,hchar]
  | false =>
    have he := hdash.mpr hc
    rw [he,decide_eq_true rfl]
    cases buffer.lastDash <;> rfl

/-- The pass from a buffer that ends with a character squeezes the dashes of the rest
behind it. -/
theorem toList_foldl_pushSlug (l : List Char) (buffer : SlugBuffer) (kept : List Char)
    {last : Char} (hslug : buffer.slug.toList=kept ++ [last])
    (hflag : buffer.lastDash=decide (last = '-')) :
    (l.foldl pushSlug buffer).slug.toList=
      kept ++ (l.map slugChar).destutter' (fun a b => ¬(a = '-' ∧ b = '-')) last := by
  induction l generalizing buffer kept last with
  | nil => exact hslug
  | cons c l ih =>
    have hcondition : slugChar c = '-' ∧ buffer.lastDash=true ↔ slugChar c = '-' ∧ last = '-' := by
      rw [hflag,decide_eq_true_iff]
    rw [List.foldl_cons,pushSlug_eq,List.map_cons]
    by_cases hskip : slugChar c = '-' ∧ last = '-'
    · rw [if_pos (hcondition.mpr hskip),ih buffer kept hslug hflag,
        List.destutter'_cons_neg _ (not_not.mpr hskip.symm)]
    · have hpushed : (buffer.slug.push (slugChar c)).toList=(kept ++ [last]) ++ [slugChar c] := by
        rw [String.toList_push,hslug]
      have hrest := ih { slug := buffer.slug.push (slugChar c)
                         lastDash := decide (slugChar c = '-') } _ hpushed rfl
      rw [if_neg fun h => hskip (hcondition.mp h),hrest,List.append_assoc,List.singleton_append,
        List.destutter'_cons_pos _ fun h => hskip h.symm]

/-- The pass squeezes the dashes of the contributions. -/
theorem toList_foldl_pushSlug_empty (l : List Char) :
    (l.foldl pushSlug { slug := "", lastDash := false }).slug.toList=
      squeeze '-' (l.map slugChar) := by
  cases l with
  | nil => rfl
  | cons c l =>
    have hfirst : pushSlug { slug := "", lastDash := false } c=
        { slug := "".push (slugChar c), lastDash := decide (slugChar c = '-') } := by
      rw [pushSlug_eq]
      exact if_neg fun h => Bool.false_ne_true h.2
    rw [List.foldl_cons,hfirst]
    exact toList_foldl_pushSlug l _ [] (String.toList_push _) rfl

/-- The tidy form of the contributions: what is left of the text before the fallback. -/
def tidied (value : String) : List Char :=
  trimSeparator '-' (squeeze '-' (value.toList.map slugChar))

/-- A slug is the tidy form of the contributions, or the fixed slug when that is empty. -/
theorem slugify_eq (value : String) :
    slugify value=if tidied value=[] then "camp-agent" else String.ofList (tidied value) := by
  unfold slugify trimMatches
  dsimp only
  rw [toList_foldl_pushSlug_empty,←tidied]
  by_cases h : tidied value=[]
  · rw [if_pos h,h,if_pos String.ofList_nil]
  · have hne : String.ofList (tidied value) ≠ "" := fun he => h (by
      rw [←String.toList_ofList (l:=tidied value),he]
      rfl)
    rw [if_neg hne,if_neg h]

/-- Slugs: nonempty texts of lower-case letters, digits and dashes, with no dash at an end
or beside another one. -/
structure CanonicalSlug (slug : String) : Prop where
  /-- The text is not empty. -/
  nonempty : slug ≠ ""
  /-- Only lower-case letters, digits and dashes of ASCII occur. -/
  characters : ∀ c ∈ slug.toList, c.isLower=true ∨ c.isDigit=true ∨ c = '-'
  /-- The dashes are single and inside. -/
  tidy : Tidy '-' slug.toList

/-- Every contribution is a character of slugs. -/
theorem slugChar_mem (c : Char) :
    (slugChar c).isLower=true ∨ (slugChar c).isDigit=true ∨ slugChar c = '-' := by
  by_cases h : c.isAlphanum=true
  · have hchar : slugChar c=c.toLower := if_pos h
    rw [hchar]
    exact (isLower_or_isDigit_of_toLower h).imp_right Or.inl
  · exact Or.inr (Or.inr (if_neg h))

/-- The fixed slug is canonical. -/
theorem canonicalSlug_fixed : CanonicalSlug "camp-agent" := by
  have hcharacters : ("camp-agent".toList.all fun c => c.isLower || c.isDigit || c = '-')=true := by
    decide +kernel
  refine ⟨by decide,fun c hc => ?_,by decide +kernel,by decide +kernel,by decide +kernel⟩
  have h := List.all_eq_true.mp hcharacters c hc
  rw [Bool.or_eq_true,Bool.or_eq_true,decide_eq_true_iff,or_assoc] at h
  exact h

/-- The slug of every text is canonical. -/
theorem slugify_canonical (value : String) : CanonicalSlug (slugify value) := by
  rw [slugify_eq]
  split
  · exact canonicalSlug_fixed
  · next h =>
    refine ⟨fun he => h ?_,fun c hc => ?_,?_⟩
    · rw [←String.toList_ofList (l:=tidied value),he]
      rfl
    · rw [String.toList_ofList] at hc
      have hsqueezed := (trimList_isInfix _ _).subset hc
      obtain ⟨d,-,rfl⟩ := List.mem_map.mp ((List.destutter_sublist _ _).subset hsqueezed)
      exact slugChar_mem d
    · rw [String.toList_ofList]
      exact tidy_trim_squeeze '-' _

/-- The contributions of slug characters are these characters. -/
theorem slugChar_of_mem {c : Char} (h : c.isLower=true ∨ c.isDigit=true ∨ c = '-') :
    slugChar c=c := by
  rcases h with h | h | rfl
  · have halphanum : c.isAlphanum=true := by
      rw [Char.isAlphanum,Char.isAlpha,h,Bool.or_true,Bool.true_or]
    rw [slugChar,if_pos halphanum,Char.toLower_eq_of_not_isUpper (Char.not_isUpper_of_isLower h)]
  · have halphanum : c.isAlphanum=true := by rw [Char.isAlphanum,h,Bool.or_true]
    have hupper : ¬c.isUpper=true := by
      intro hu
      simp only [Char.isDigit,Char.isUpper,Bool.and_eq_true,decide_eq_true_eq,ge_iff_le,
        UInt32.le_iff_toNat_le] at h hu
      exact absurd (hu.1.trans h.2) (by decide)
    rw [slugChar,if_pos halphanum,Char.toLower_eq_of_not_isUpper hupper]
  · rfl

/-- A canonical slug is its own slug. -/
theorem CanonicalSlug.slugify_eq_self {slug : String} (h : CanonicalSlug slug) :
    slugify slug=slug := by
  have hmap : slug.toList.map slugChar=slug.toList :=
    (List.map_congr_left fun c hc => slugChar_of_mem (h.characters c hc)).trans (List.map_id _)
  have htidied : tidied slug=slug.toList := by
    rw [tidied,hmap,h.tidy.trim_squeeze]
  have hne : slug.toList ≠ [] := fun he => h.nonempty (String.toList_eq_nil_iff.mp he)
  rw [slugify_eq,htidied,if_neg hne,String.ofList_toList]

/-- Canonical slugs are exactly the texts that are their own slugs. -/
theorem slugify_eq_self_iff {value : String} : slugify value=value ↔ CanonicalSlug value :=
  ⟨fun h => h ▸ slugify_canonical value,fun h => h.slugify_eq_self⟩

/-- The contribution of a character is a letter or digit exactly when the character is. -/
theorem isAlphanum_slugChar (c : Char) : (slugChar c).isAlphanum=c.isAlphanum := by
  unfold slugChar
  split
  · exact isAlphanum_toLower c
  · next h =>
    rw [Bool.eq_false_iff.mpr h]
    rfl

/-- The letters and digits of the tidy form are those of the text, in lower case. -/
theorem filter_tidied (value : String) : (tidied value).filter Char.isAlphanum=
    (value.toList.filter Char.isAlphanum).map Char.toLower := by
  have hclass : Char.isAlphanum ∘ slugChar=Char.isAlphanum := funext isAlphanum_slugChar
  rw [tidied,filter_trim_squeeze (by decide),List.filter_map,hclass]
  exact List.map_congr_left fun c hc => if_pos (List.mem_filter.mp hc).2

/-- Nothing is left of the texts without letters and digits, and of these only. -/
theorem tidied_eq_nil_iff {value : String} :
    tidied value=[] ↔ ∀ c ∈ value.toList, c.isAlphanum=false := by
  constructor
  · intro h c hc
    have hfilter := filter_tidied value
    rw [h,List.filter_nil,eq_comm,List.map_eq_nil_iff] at hfilter
    exact Bool.eq_false_iff.mpr (List.filter_eq_nil_iff.mp hfilter c hc)
  · intro h
    have hhead := (tidy_trim_squeeze '-' (value.toList.map slugChar)).head
    rw [←tidied] at hhead
    cases ht : tidied value with
    | nil => rfl
    | cons a rest =>
      have hmem : a ∈ value.toList.map slugChar :=
        (List.destutter_sublist _ _).subset
          ((trimList_isInfix _ _).subset (ht ▸ List.mem_cons_self : a ∈ tidied value))
      obtain ⟨c,hc,rfl⟩ := List.mem_map.mp hmem
      rw [ht,List.head?_cons,slugChar_eq_dash_iff.mpr (h c hc)] at hhead
      exact absurd rfl hhead

/-- The letters and digits of a slug are those of the text, in lower case, when there
are any. -/
theorem filter_slugify {value : String} (h : ∃ c ∈ value.toList, c.isAlphanum=true) :
    (slugify value).toList.filter Char.isAlphanum=
      (value.toList.filter Char.isAlphanum).map Char.toLower := by
  obtain ⟨c,hc,halphanum⟩ := h
  have hne : tidied value ≠ [] := fun he =>
    Bool.eq_false_iff.mp (tidied_eq_nil_iff.mp he c hc) halphanum
  rw [slugify_eq,if_neg hne,String.toList_ofList,filter_tidied]

/-- A nonempty run of characters that are neither letters nor digits. -/
def OtherRun (run : String) : Prop := run ≠ "" ∧ ∀ c ∈ run.toList, c.isAlphanum=false

instance (run : String) : Decidable (OtherRun run) :=
  have : Decidable (∀ c ∈ run.toList, c.isAlphanum=false) := List.decidableBAll _ _
  inferInstanceAs (Decidable (_ ∧ _))

/-- Two texts that differ in the case of ASCII letters or in what separates them. -/
inductive Respelled : String → String → Prop
  /-- The same text up to the case of ASCII letters. -/
  | letterCase {value value' : String} (h : toAsciiLowercase value=toAsciiLowercase value') :
      Respelled value value'
  /-- Another nonempty run of characters that are neither letters nor digits. -/
  | otherRun (left right : String) {run run' : String} (h : OtherRun run) (h' : OtherRun run') :
      Respelled (left ++ run ++ right) (left ++ run' ++ right)
  /-- One change after another. -/
  | trans {value value' value'' : String} (h : Respelled value value')
      (h' : Respelled value' value'') : Respelled value value''

/-- The pass does not see the case of letters. -/
theorem foldl_pushSlug_toLower (l : List Char) (buffer : SlugBuffer) :
    (l.map Char.toLower).foldl pushSlug buffer=l.foldl pushSlug buffer := by
  have hpush : ∀ buffer c, pushSlug buffer (Char.toLower c)=pushSlug buffer c := by
    intro buffer c
    unfold pushSlug
    rw [Char.toLower_toLower_eq_toLower]
  simp only [List.foldl_map,hpush]

/-- A nonempty run of other characters pushes one dash, unless there is one. -/
theorem foldl_pushSlug_run {run : String} (h : OtherRun run) (buffer : SlugBuffer) :
    run.toList.foldl pushSlug buffer=pushSlug buffer '-' := by
  have hpush : ∀ buffer c, c.isAlphanum=false → pushSlug buffer c=pushSlug buffer '-' := by
    intro buffer c hc
    rw [pushSlug_eq,pushSlug_eq,slugChar_eq_dash_iff.mpr hc,slugChar_of_mem (by decide)]
  have hagain : ∀ buffer, pushSlug (pushSlug buffer '-') '-'=pushSlug buffer '-' := by
    intro buffer
    cases buffer with
    | mk slug lastDash => cases lastDash <;> rfl
  have hrun : ∀ (l : List Char) (buffer : SlugBuffer), l ≠ [] →
      (∀ c ∈ l, c.isAlphanum=false) → l.foldl pushSlug buffer=pushSlug buffer '-' := by
    intro l
    induction l with
    | nil => exact fun _ hne _ => absurd rfl hne
    | cons c l ih =>
      intro buffer _ hl
      obtain ⟨hc,hl⟩ := List.forall_mem_cons.mp hl
      rw [List.foldl_cons,hpush buffer c hc]
      by_cases hempty : l=[]
      · rw [hempty,List.foldl_nil]
      · rw [ih _ hempty hl,hagain]
  exact hrun run.toList buffer (fun he => h.1 (String.toList_eq_nil_iff.mp he)) h.2

/-- Texts that differ in case and separation only have the same slug. -/
theorem slugify_respelled {value value' : String} (h : Respelled value value') :
    slugify value=slugify value' := by
  induction h with
  | @letterCase value value' h =>
    have hlist : value.toList.map Char.toLower=value'.toList.map Char.toLower := by
      have hl := congrArg String.toList h
      rwa [toAsciiLowercase,toAsciiLowercase,String.toList_ofList,String.toList_ofList] at hl
    rw [slugify,slugify,←foldl_pushSlug_toLower value.toList,hlist,foldl_pushSlug_toLower]
  | otherRun left right h h' =>
    simp only [slugify,String.toList_append,List.foldl_append,foldl_pushSlug_run h,
      foldl_pushSlug_run h']
  | trans _ _ ih ih' => exact ih.trans ih'

/-- Slugs are canonical, keep the letters and digits in lower case, are slugs of themselves,
and do not depend on case and separation. -/
theorem slugify_normalizes (value : String) :
    CanonicalSlug (slugify value) ∧
    ((∃ c ∈ value.toList, c.isAlphanum=true) →
      (slugify value).toList.filter Char.isAlphanum=
        (value.toList.filter Char.isAlphanum).map Char.toLower) ∧
    slugify (slugify value)=slugify value ∧
    ∀ value', Respelled value value' → slugify value=slugify value' :=
  ⟨slugify_canonical value,filter_slugify,(slugify_canonical value).slugify_eq_self,
    fun _ h => slugify_respelled h⟩

/-- A text with letters in both cases, and its parts with another separation. -/
theorem slugify_normalizes_words :
    (slugify "Agent Mesh!").toList.filter Char.isAlphanum=
      ("Agent Mesh!".toList.filter Char.isAlphanum).map Char.toLower ∧
    slugify "Agent Mesh!"=slugify "AGENT mesh!" ∧
    slugify ("agent" ++ " " ++ "mesh")=slugify ("agent" ++ "__/" ++ "mesh") :=
  ⟨(slugify_normalizes "Agent Mesh!").2.1 ⟨'A',by decide +kernel,by decide⟩,
    (slugify_normalizes "Agent Mesh!").2.2.2 _ (.letterCase (by decide +kernel)),
    (slugify_normalizes ("agent" ++ " " ++ "mesh")).2.2.2 _
      (.otherRun "agent" "mesh" (by decide +kernel) (by decide +kernel))⟩

/-- Standard output of a command that succeeded, trimmed, unless nothing is left. -/
def tryCommandStdout (stdout : Option String) : Option String := do
  let trimmed := trim (← stdout)
  if trimmed="" then none else some trimmed

/-- What the machine says about itself. -/
structure Environment where
  /-- The variable `USER`. -/
  user : Option String
  /-- The variable `HOSTNAME`. -/
  hostname : Option String
  /-- Output of the command `hostname`, when it succeeds. -/
  hostnameStdout : Option String

/-- The known parts of a default identifier, in their order. -/
def defaultIdParts (env : Environment) (project branch : String) : List String :=
  let user := env.user.filter fun value => value ≠ ""
  let host := (env.hostname.filter fun value => value ≠ "").or
    ((tryCommandStdout env.hostnameStdout).filter fun value => value ≠ "")
  [some "camp",user,host,some project,some branch].filterMap id

/-- Identifier of an agent that was not given one. -/
def inferDefaultAgentId (env : Environment) (project branch : String) : String :=
  let raw := join "-" (defaultIdParts env project branch)
  slugify raw

/-- File that mirrors the mesh of a project. -/
def stateFile (project : String) : String := "/tmp/" ++ slugify project ++ "-camp-state.json"

/-- A default identifier is a slug whose letters and digits are those of its parts. -/
theorem inferDefaultAgentId_canonical (env : Environment) (project branch : String) :
    CanonicalSlug (inferDefaultAgentId env project branch) ∧
    (inferDefaultAgentId env project branch).toList.filter Char.isAlphanum=
      ((defaultIdParts env project branch).flatMap fun part =>
        part.toList.filter Char.isAlphanum).map Char.toLower := by
  have hdash : ∀ c ∈ "-".toList, c.isAlphanum=false := fun c hc => by
    rw [List.mem_singleton.mp hc]
    rfl
  have hfilter := filter_join hdash (defaultIdParts env project branch)
  have hfirst : "camp" ∈ defaultIdParts env project branch := by
    rw [defaultIdParts,List.filterMap_cons]
    exact List.mem_cons_self
  have hcamp : 'c' ∈ (join "-" (defaultIdParts env project branch)).toList.filter
      Char.isAlphanum := by
    rw [hfilter]
    exact List.mem_flatMap.mpr ⟨"camp",hfirst,by decide +kernel⟩
  rw [inferDefaultAgentId]
  have hletters := filter_slugify ⟨'c',List.mem_filter.mp hcamp⟩
  exact ⟨slugify_canonical (join "-" (defaultIdParts env project branch)),
    hletters.trans (congrArg (List.map Char.toLower) hfilter)⟩

/-- A canonical slug has no character outside its alphabet. -/
theorem CanonicalSlug.notMem {slug : String} (h : CanonicalSlug slug) {c : Char}
    (hc : ¬(c.isLower=true ∨ c.isDigit=true ∨ c = '-')) : c ∉ slug.toList :=
  fun hm => hc (h.characters c hm)

/-- A state file stands directly in the temporary directory, whatever the project is. -/
theorem split_stateFile (project : String) :
    split '/' (stateFile project)=["","tmp",slugify project ++ "-camp-state.json"] := by
  have hjoined : stateFile project=
      join (String.singleton '/') ["","tmp",slugify project ++ "-camp-state.json"] := by
    apply String.toList_inj.mp
    simp only [stateFile,join,String.intercalate_cons_cons,String.intercalate_singleton,
      String.toList_append,List.append_assoc]
    rfl
  have hslug : '/' ∉ (slugify project ++ "-camp-state.json").toList := by
    rw [String.toList_append,List.mem_append,not_or]
    exact ⟨(slugify_canonical project).notMem (by decide),by decide +kernel⟩
  rw [hjoined]
  refine split_join '/' (List.cons_ne_nil _ _) (List.forall_mem_cons.mpr ⟨by decide,?_⟩)
  exact List.forall_mem_cons.mpr ⟨by decide,List.forall_mem_singleton.mpr hslug⟩

/-- Projects share a state file exactly when they share a slug. -/
theorem stateFile_eq_iff {project project' : String} :
    stateFile project=stateFile project' ↔ slugify project=slugify project' := by
  refine ⟨fun h => ?_,fun h => by rw [stateFile,h,stateFile]⟩
  have hlist := congrArg String.toList h
  simp only [stateFile,String.toList_append,List.append_left_inj,List.append_right_inj] at hlist
  exact String.toList_inj.mp hlist

end MeshPresence.AgentSlugs

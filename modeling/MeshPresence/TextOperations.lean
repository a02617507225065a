import MeshPresence.SeparatedLists
import Mathlib.Data.String.Basic
import Mathlib.Data.List.DropRight
import Mathlib.Data.List.Destutter
import Mathlib.Data.List.Infix
import Mathlib.Data.List.Sort

/-!
# Trimming, splitting and ordering of Unicode text

Trimming removes the Unicode `White_Space` class from both ends of a string,
splitting and joining use one separator character, and sorting followed by
removal of adjacent duplicates gives the canonical listing of a finite set of
strings. Every operation is computable through the code points of the string;
the order on strings is the lexicographic order of code points, which is the
order of the UTF-8 encodings.
-/

namespace MeshPresence.TextOperations

open SeparatedLists

section Lists

variable {α : Type*} (p : α → Bool)

/-- Drop the longest prefix and then the longest suffix inside a class. -/
def trimList (l : List α) : List α := (l.dropWhile p).rdropWhile p

/-- A list is left alone exactly when neither end is in the class. -/
theorem trimList_eq_self_iff {l : List α} :
    trimList p l=l ↔ (∀ hl : l ≠ [], ¬p (l.head hl)) ∧ ∀ hl : l ≠ [], ¬p (l.getLast hl) := by
  constructor
  · intro h
    have hd : l.dropWhile p=l := by
      refine (List.dropWhile_suffix p).eq_of_length_le ?_
      calc l.length=(trimList p l).length := by rw [h]
        _ ≤ (l.dropWhile p).length := (List.rdropWhile_prefix p _).length_le
    refine ⟨fun hl => ?_,?_⟩
    · have hne : l.dropWhile p ≠ [] := by rwa [hd]
      have hhead := List.head_dropWhile_not p hne
      simp only [hd] at hhead
      simp only [hhead,Bool.false_eq_true,not_false_eq_true]
    · rw [trimList,hd] at h
      exact List.rdropWhile_eq_self_iff.mp h
  · rintro ⟨hhead,hlast⟩
    have hd : l.dropWhile p=l := by
      cases l with
      | nil => rfl
      | cons a tail => exact List.dropWhile_cons_of_neg (hhead (List.cons_ne_nil a tail))
    rw [trimList,hd]
    exact List.rdropWhile_eq_self_iff.mpr hlast

/-- Removing both ends from the class is trimming once. -/
theorem trimList_trimList (l : List α) : trimList p (trimList p l)=trimList p l := by
  rw [trimList_eq_self_iff]
  refine ⟨fun hl => ?_,fun hl => List.rdropWhile_last_not p _ hl⟩
  have hd : l.dropWhile p ≠ [] := by
    intro hd
    exact hl (by rw [trimList,hd,List.rdropWhile_nil])
  have hhead : (trimList p l).head hl=(l.dropWhile p).head hd :=
    (List.rdropWhile_prefix p (l.dropWhile p)).head hl
  rw [hhead,List.head_dropWhile_not p hd]
  decide

/-- Two trimmed nonempty ends keep any middle part trimmed. -/
theorem trimList_append {left middle right : List α} (hl : trimList p left=left)
    (hr : trimList p right=right) (hln : left ≠ []) (hrn : right ≠ []) :
    trimList p (left ++ middle ++ right)=left ++ middle ++ right := by
  rw [trimList_eq_self_iff]
  refine ⟨fun hn => ?_,fun hn => ?_⟩
  · have hh := ((trimList_eq_self_iff p).mp hl).1 hln
    rwa [List.head_append_left (List.append_ne_nil_of_left_ne_nil hln middle),
      List.head_append_left hln]
  · have hh := ((trimList_eq_self_iff p).mp hr).2 hrn
    rwa [List.getLast_append_of_ne_nil _ hrn]

/-- Lists agree on both sides of their first separator. -/
theorem append_cons_inj {a : α} {left₁ left₂ right₁ right₂ : List α} (h₁ : a ∉ left₁)
    (h₂ : a ∉ left₂) (h : left₁ ++ a :: right₁=left₂ ++ a :: right₂) :
    left₁=left₂ ∧ right₁=right₂ := by
  induction left₁ generalizing left₂ with
  | nil =>
    cases left₂ with
    | nil => exact ⟨rfl,(List.cons.inj h).2⟩
    | cons y left₂ =>
      exact absurd (List.mem_cons.mpr (Or.inl (List.cons.inj h).1)) h₂
  | cons x left₁ ih =>
    cases left₂ with
    | nil => exact absurd (List.mem_cons.mpr (Or.inl (List.cons.inj h).1.symm)) h₁
    | cons y left₂ =>
      obtain ⟨rfl,htail⟩ := List.cons.inj h
      obtain ⟨rfl,hright⟩ := ih (fun hm => h₁ (List.mem_cons_of_mem x hm))
        (fun hm => h₂ (List.mem_cons_of_mem x hm)) htail
      exact ⟨rfl,hright⟩

end Lists

/-- The Unicode `White_Space` class. -/
def isWhitespace (c : Char) : Bool :=
  (0x09 ≤ c.toNat && c.toNat ≤ 0x0D) || c.toNat == 0x20 || c.toNat == 0x85 || c.toNat == 0xA0 ||
    c.toNat == 0x1680 || (0x2000 ≤ c.toNat && c.toNat ≤ 0x200A) || c.toNat == 0x2028 ||
    c.toNat == 0x2029 || c.toNat == 0x202F || c.toNat == 0x205F || c.toNat == 0x3000

/-- Remove leading and trailing white space. -/
def trim (s : String) : String := String.ofList (trimList isWhitespace s.toList)

@[simp] theorem toList_trim (s : String) : (trim s).toList=trimList isWhitespace s.toList := by
  simp only [trim,String.toList_ofList]

/-- Text without white space at either end. -/
def Trimmed (s : String) : Prop := trim s=s

instance (s : String) : Decidable (Trimmed s) := inferInstanceAs (Decidable (trim s=s))

/-- The two ends decide whether a string is trimmed. -/
theorem trimmed_iff {s : String} : Trimmed s ↔ trimList isWhitespace s.toList=s.toList := by
  rw [Trimmed,←String.toList_inj,toList_trim]

/-- Trimming produces trimmed text. -/
theorem trimmed_trim (s : String) : Trimmed (trim s) := by
  rw [trimmed_iff,toList_trim,trimList_trimList]

/-- Trimmed nonempty ends keep a concatenation trimmed. -/
theorem Trimmed.append {left middle right : String} (hl : Trimmed left) (hr : Trimmed right)
    (hln : left ≠ "") (hrn : right ≠ "") : Trimmed (left ++ middle ++ right) := by
  rw [trimmed_iff] at *
  simp only [String.toList_append]
  refine trimList_append isWhitespace hl hr ?_ ?_
  · exact fun h => hln (String.toList_inj.mp h)
  · exact fun h => hrn (String.toList_inj.mp h)

/-- A character of trimmed text occurs in the text. -/
theorem mem_of_mem_trim {c : Char} {s : String} (h : c ∈ (trim s).toList) : c ∈ s.toList := by
  rw [toList_trim,trimList] at h
  have hdropped := (List.rdropWhile_prefix isWhitespace _).subset h
  exact (List.dropWhile_suffix isWhitespace).subset hdropped

/-- Trimming removes white space only. -/
theorem mem_trim_of_mem {c : Char} {s : String} (h : c ∈ s.toList) (hc : isWhitespace c=false) :
    c ∈ (trim s).toList := by
  have hdrop : c ∈ s.toList.dropWhile isWhitespace := by
    rw [←List.takeWhile_append_dropWhile (p:=isWhitespace) (l:=s.toList),List.mem_append] at h
    refine h.resolve_left fun htake => ?_
    rw [List.mem_takeWhile_imp htake] at hc
    cases hc
  rw [←List.rdropWhile_append_rtakeWhile (p:=isWhitespace)
    (l:=s.toList.dropWhile isWhitespace),List.mem_append] at hdrop
  rw [toList_trim,trimList]
  refine hdrop.resolve_right fun htake => ?_
  rw [List.mem_rtakeWhile_imp htake] at hc
  cases hc

/-- Lower-case the ASCII letters and keep every other character. -/
def toAsciiLowercase (s : String) : String := String.ofList (s.toList.map Char.toLower)

/-- A character that lower-casing changes comes before its lower case. -/
theorem lt_toLower {c : Char} (h : c.toLower ≠ c) : c<c.toLower := by
  unfold Char.toLower at h ⊢
  split
  · next hupper =>
    have hbound : c.val.toNat≤90 := UInt32.le_iff_toNat_le.mp hupper.2
    have hshift : ('a'.val - 'A'.val).toNat=32 := by decide
    show c.val<c.val+('a'.val - 'A'.val)
    rw [UInt32.lt_iff_toNat_lt,UInt32.toNat_add,hshift]
    omega
  · next hother => exact absurd (dif_neg hother) h

/-- Text that lower-casing changes comes before its lower case. -/
theorem lt_toAsciiLowercase {s : String} (h : toAsciiLowercase s ≠ s) : s<toAsciiLowercase s := by
  have hchars : ∀ l : List Char, l.map Char.toLower ≠ l → l<l.map Char.toLower := by
    intro l
    induction l with
    | nil => exact fun hl => absurd rfl hl
    | cons c l ih =>
      intro hl
      rw [List.map_cons] at hl ⊢
      by_cases hc : c.toLower=c
      · rw [hc] at hl ⊢
        have hrest := ih fun he => hl (congrArg (List.cons c) he)
        exact List.cons_lt_cons_iff.mpr (Or.inr ⟨rfl,hrest⟩)
      · exact List.cons_lt_cons_iff.mpr (Or.inl (lt_toLower hc))
  rw [String.lt_iff_toList_lt,toAsciiLowercase,String.toList_ofList]
  refine hchars s.toList fun he => h ?_
  rw [toAsciiLowercase,he,String.ofList_toList]

/-- The parts of a text between the occurrences of a separator character. -/
def split (separator : Char) (s : String) : List String :=
  (s.toList.splitOn separator).map String.ofList

/-- A text has a part at least. -/
theorem split_ne_nil (separator : Char) (s : String) : split separator s ≠ [] := fun h =>
  List.splitOn_ne_nil separator s.toList (List.map_eq_nil_iff.mp h)

/-- Joining parts with a separator string. -/
def join (separator : String) (parts : List String) : String := separator.intercalate parts

/-- Splitting recovers nonempty lists of separator-free parts. -/
theorem split_join (separator : Char) {parts : List String} (hne : parts ≠ [])
    (h : ∀ s ∈ parts, separator ∉ s.toList) :
    split separator (join (String.singleton separator) parts)=parts := by
  have hs : (String.singleton separator).toList=[separator] := by simp
  rw [split,join,String.toList_intercalate,hs,List.splitOn_intercalate]
  · simp only [List.map_map,Function.comp_def,String.ofList_toList,List.map_id']
  · intro l hl
    obtain ⟨s,hs,rfl⟩ := List.mem_map.mp hl
    exact h s hs
  · simpa only [ne_eq,List.map_eq_nil_iff] using hne

/-- Joining nonempty lists of separator-free parts is injective. -/
theorem join_inj (separator : Char) {left right : List String} (hln : left ≠ []) (hrn : right ≠ [])
    (hl : ∀ s ∈ left, separator ∉ s.toList) (hr : ∀ s ∈ right, separator ∉ s.toList)
    (h : join (String.singleton separator) left=join (String.singleton separator) right) :
    left=right := by
  rw [←split_join separator hln hl,h,split_join separator hrn hr]

/-- Splitting at a separator splits both sides of it. -/
theorem split_append_separator (separator : Char) (left right : String) :
    split separator (left ++ String.singleton separator ++ right)=
      split separator left ++ split separator right := by
  have hs : (String.singleton separator).toList=[separator] := by simp
  simp only [split,String.toList_append,hs,List.append_assoc,List.singleton_append,
    List.splitOn_append_cons_self,List.map_append]

/-- The parts of a text do not contain the separator. -/
theorem separator_notMem_of_mem_split {separator : Char} {s part : String}
    (h : part ∈ split separator s) : separator ∉ part.toList := by
  obtain ⟨chars,hchars,rfl⟩ := List.mem_map.mp h
  rw [String.toList_ofList]
  exact notMem_of_mem_splitOn hchars

/-- The characters of the parts of a text are characters of the text. -/
theorem mem_of_mem_split {separator : Char} {s part : String} (h : part ∈ split separator s)
    {c : Char} (hc : c ∈ part.toList) : c ∈ s.toList := by
  obtain ⟨chars,hchars,rfl⟩ := List.mem_map.mp h
  rw [String.toList_ofList] at hc
  exact subset_of_mem_splitOn hchars hc

/-- Splitting a joined text splits its parts, whatever they contain. -/
theorem split_join_flatMap (separator : Char) {parts : List String} (hne : parts ≠ []) :
    split separator (join (String.singleton separator) parts)=parts.flatMap (split separator) := by
  rw [join]
  induction parts with
  | nil => exact absurd rfl hne
  | cons s parts ih =>
    cases parts with
    | nil => rw [String.intercalate_singleton,List.flatMap_cons,List.flatMap_nil,List.append_nil]
    | cons t parts =>
      have hrest := ih (List.cons_ne_nil t parts)
      rw [String.intercalate_cons_cons,split_append_separator,hrest]
      exact List.flatMap_cons.symm

/-- The parts of a text determine it. -/
theorem split_injective {separator : Char} {left right : String}
    (h : split separator left=split separator right) : left=right := by
  have hl : left.toList.splitOn separator=right.toList.splitOn separator :=
    List.map_injective_iff.mpr (fun _ _ he => String.ofList_injective he) h
  have hjoined := congrArg [separator].intercalate hl
  rwa [List.intercalate_splitOn,List.intercalate_splitOn,String.toList_inj] at hjoined

/-- A text without the separator is its only part. -/
theorem split_eq_singleton {separator : Char} {s : String} (h : separator ∉ s.toList) :
    split separator s=[s] := by
  rw [split,List.splitOn_eq_singleton h,List.map_singleton,String.ofList_toList]

/-- Texts without the separator are the parts that they are split into. -/
theorem flatMap_split {separator : Char} {parts : List String}
    (h : ∀ s ∈ parts, separator ∉ s.toList) : parts.flatMap (split separator)=parts := by
  induction parts with
  | nil => rfl
  | cons s parts ih =>
    obtain ⟨hs,hparts⟩ := List.forall_mem_cons.mp h
    rw [List.flatMap_cons,split_eq_singleton hs,ih hparts,List.singleton_append]

/-- A text without the separator is added to the last part. -/
theorem split_append {separator : Char} (left : String) {right : String}
    (h : separator ∉ right.toList) : ∃ front last, split separator left=front ++ [last] ∧
      split separator (left ++ right)=front ++ [last ++ right] := by
  have hparts : ∀ chars : List Char, ∃ front last, chars.splitOn separator=front ++ [last] ∧
      (chars ++ right.toList).splitOn separator=front ++ [last ++ right.toList] := by
    intro chars
    rcases List.eq_nil_or_concat' (chars.splitOn separator) with hnil|⟨front,last,hchars⟩
    · exact absurd hnil (List.splitOn_ne_nil separator chars)
    refine ⟨front,last,hchars,?_⟩
    have hlast : separator ∉ last ++ right.toList := by
      rw [List.mem_append,not_or]
      exact ⟨notMem_of_mem_splitOn (hchars ▸ List.mem_append_right _ (List.mem_singleton_self _)),h⟩
    cases front with
    | nil =>
      rw [eq_of_splitOn_singleton hchars,List.nil_append,List.splitOn_eq_singleton hlast]
    | cons first front =>
      obtain ⟨before,after,rfl,hbefore,hafter⟩ := splitOn_eq_append_iff.mp
        ⟨hchars,List.cons_ne_nil first front,List.cons_ne_nil last []⟩
      rw [List.append_assoc,List.cons_append,List.splitOn_append_cons_self,hbefore,
        eq_of_splitOn_singleton hafter,List.splitOn_eq_singleton hlast]
  obtain ⟨front,last,hleft,hboth⟩ := hparts left.toList
  refine ⟨front.map String.ofList,String.ofList last,?_,?_⟩
  · rw [split,hleft,List.map_append,List.map_singleton]
  · rw [split,String.toList_append,hboth,List.map_append,List.map_singleton]
    simp only [String.ofList_append,String.ofList_toList]

/-- A character occurs in a joined text only through a part or the separator. -/
theorem notMem_join {separator : String} {parts : List String} {c : Char}
    (hs : c ∉ separator.toList) (hp : ∀ s ∈ parts, c ∉ s.toList) :
    c ∉ (join separator parts).toList := by
  rw [join]
  induction parts with
  | nil => simp only [String.intercalate_nil,String.toList_empty,List.not_mem_nil,not_false_eq_true]
  | cons s parts ih =>
    have hrest := ih fun t ht => hp t (List.mem_cons_of_mem s ht)
    cases parts with
    | nil => simpa only [String.intercalate_singleton] using hp s (List.mem_singleton_self s)
    | cons t parts =>
      rw [String.intercalate_cons_cons]
      simp only [String.toList_append,List.mem_append,not_or]
      exact ⟨⟨hp s List.mem_cons_self,hs⟩,hrest⟩

/-- A filter that drops the separator selects from the parts of a joined text. -/
theorem filter_join {separator : String} {p : Char → Bool}
    (h : ∀ c ∈ separator.toList, p c=false) (parts : List String) :
    (join separator parts).toList.filter p=parts.flatMap fun part => part.toList.filter p := by
  have hseparator : separator.toList.filter p=[] :=
    List.filter_eq_nil_iff.mpr fun c hc => Bool.eq_false_iff.mp (h c hc)
  rw [join]
  induction parts with
  | nil => rfl
  | cons part parts ih =>
    cases parts with
    | nil =>
      rw [String.intercalate_singleton,List.flatMap_cons,List.flatMap_nil,List.append_nil]
    | cons next parts =>
      rw [String.intercalate_cons_cons,String.toList_append,String.toList_append,
        List.filter_append,List.filter_append,hseparator,List.append_nil,ih]
      rfl

/-- Equal texts that put separator-free parts before the first separator agree
on both sides of it. -/
theorem append_separator_inj (separator : Char) {left₁ left₂ right₁ right₂ : String}
    (h₁ : separator ∉ left₁.toList) (h₂ : separator ∉ left₂.toList)
    (h : left₁ ++ String.singleton separator ++ right₁=
      left₂ ++ String.singleton separator ++ right₂) : left₁=left₂ ∧ right₁=right₂ := by
  have hs : (String.singleton separator).toList=[separator] := by simp
  have hl := congrArg String.toList h
  simp only [String.toList_append,hs,List.append_assoc,List.singleton_append] at hl
  obtain ⟨hleft,hright⟩ := append_cons_inj h₁ h₂ hl
  exact ⟨String.toList_inj.mp hleft,String.toList_inj.mp hright⟩

/-- The text begins with a given text. -/
def startsWith (s start : String) : Bool := start.toList.isPrefixOf s.toList

/-- A text begins with a start exactly when it is the start and some rest. -/
theorem startsWith_iff {s start : String} :
    startsWith s start=true ↔ ∃ rest : String, s=start ++ rest := by
  rw [startsWith,List.isPrefixOf_iff_prefix]
  constructor
  · rintro ⟨rest,hrest⟩
    refine ⟨String.ofList rest,String.toList_inj.mp ?_⟩
    rw [String.toList_append,String.toList_ofList,hrest]
  · rintro ⟨rest,rfl⟩
    rw [String.toList_append]
    exact List.prefix_append _ _

/-- The text ends with a given text. -/
def endsWith (s ending : String) : Bool := ending.toList.isSuffixOf s.toList

/-- The text contains a given text as consecutive characters. -/
def containsText (s part : String) : Bool := decide (part.toList <:+: s.toList)

/-- The parts of a text as lists of characters. -/
theorem map_toList_split (separator : Char) (s : String) :
    (split separator s).map String.toList=s.toList.splitOn separator := by
  simp only [split,List.map_map,Function.comp_def,String.toList_ofList,List.map_id']

/-- A part is contained between two separators exactly when it is an inner part. -/
theorem containsText_enclosed_iff (s : String) {separator : Char} (part : String)
    (h : separator ∉ part.toList) :
    containsText s (String.singleton separator ++ part ++ String.singleton separator)=true ↔
      part ∈ (split separator s).tail.dropLast := by
  have hs : (String.singleton separator).toList=[separator] := by simp
  rw [containsText,decide_eq_true_iff,String.toList_append,String.toList_append,hs,
    List.append_assoc,List.singleton_append,enclosed_isInfix_iff h,←map_toList_split,
    ←List.map_tail,←List.map_dropLast]
  exact List.mem_map_of_injective fun _ _ he => String.toList_inj.mp he

/-- A text ends with a separator and an ending exactly when its parts end with those
of the ending. -/
theorem endsWith_separator_iff (s : String) (separator : Char) (ending : String) :
    endsWith s (String.singleton separator ++ ending)=true ↔
      ∃ front, split separator s=front ++ split separator ending ∧ front ≠ [] := by
  have hs : (String.singleton separator).toList=[separator] := by simp
  rw [endsWith,List.isSuffixOf_iff_suffix,String.toList_append,hs,List.singleton_append,
    separator_cons_isSuffix_iff]
  constructor
  · rintro ⟨front,hfront,hne⟩
    refine ⟨front.map String.ofList,?_,fun h => hne (List.map_eq_nil_iff.mp h)⟩
    rw [split,hfront,List.map_append,split]
  · rintro ⟨front,hfront,hne⟩
    refine ⟨front.map String.toList,?_,fun h => hne (List.map_eq_nil_iff.mp h)⟩
    rw [←map_toList_split,hfront,List.map_append,map_toList_split]

/-- The first part decides whether a text begins with a start without a separator. -/
theorem startsWith_of_split {separator : Char} {s start first : String} {rest : List String}
    (h : separator ∉ start.toList) (hs : split separator s=first :: rest) :
    startsWith s start=startsWith first start := by
  have hl := congrArg (List.map String.toList) hs
  rw [map_toList_split,List.map_cons] at hl
  rw [Bool.eq_iff_iff,startsWith,startsWith,List.isPrefixOf_iff_prefix,
    List.isPrefixOf_iff_prefix]
  exact isPrefix_iff h hl

/-- Ascending listing without repetition: sort, then drop adjacent duplicates. -/
def sortDedup (l : List String) : List String :=
  (l.insertionSort (· ≤ ·)).destutter (· ≠ ·)

/-- Dropping adjacent duplicates of the sorted list drops all duplicates. -/
theorem sortDedup_eq_dedup (l : List String) :
    sortDedup l=(l.insertionSort (· ≤ ·)).dedup :=
  List.Pairwise.destutter_eq_dedup (List.pairwise_insertionSort (· ≤ ·) l)

/-- The listing has exactly the elements of the input. -/
@[simp] theorem mem_sortDedup {l : List String} {s : String} : s ∈ sortDedup l ↔ s ∈ l := by
  rw [sortDedup_eq_dedup,List.mem_dedup,List.mem_insertionSort]

/-- The listing is strictly ascending. -/
theorem pairwise_sortDedup (l : List String) : (sortDedup l).Pairwise (· < ·) := by
  have hsorted : (sortDedup l).Pairwise (· ≤ ·) := by
    rw [sortDedup_eq_dedup]
    exact (List.pairwise_insertionSort (· ≤ ·) l).sublist (List.dedup_sublist _)
  have hnodup : (sortDedup l).Pairwise (· ≠ ·) := by
    rw [sortDedup_eq_dedup]
    exact List.nodup_dedup _
  exact (hsorted.and hnodup).imp fun h => lt_of_le_of_ne h.1 h.2

/-- A strictly ascending list is its own listing. -/
theorem sortDedup_of_pairwise {l : List String} (h : l.Pairwise (· < ·)) : sortDedup l=l := by
  rw [sortDedup_eq_dedup,List.Pairwise.insertionSort_eq (h.imp le_of_lt)]
  exact List.dedup_eq_self.mpr (h.imp ne_of_lt)

end MeshPresence.TextOperations

import MeshPresence.TextOperations

/-!
# Paths and the temporary path of a state file

A path is the list of its parts: repeated separators and inner dots of its text do not count.
The temporary path of a state file replaces the last part when that is a name and follows the
path otherwise. It is never the path itself, it stays in the directory of a named file, and
files with different paths have different temporary paths. Several paths lead to one file; the
temporary file of a named file is another one, also where this is resolved.
-/

namespace MeshPresence.FilePaths

open TextOperations

/-- A part of a path. -/
inductive Component where
  /-- The root directory. -/
  | rootDir
  /-- The current directory at the start of a relative path. -/
  | curDir
  /-- The parent directory. -/
  | parentDir
  /-- A name. -/
  | normal (name : String)
  deriving DecidableEq

/-- A path by its parts. -/
abbrev Path := List Component

/-- The part that a piece of text between separators stands for, if any. -/
def component (part : String) : Option Component :=
  if part="" ∨ part="." then none
  else if part=".." then some .parentDir
  else some (.normal part)

/-- The parts of the text of a path. -/
def components (text : String) : Path :=
  let parts := split '/' text
  let first :=
    if text.toList.head?=some '/' then [Component.rootDir]
    else if parts.head?=some "." then [.curDir]
    else []
  first ++ parts.filterMap component

/-- The name at the end of a path. -/
def fileName (path : Path) : Option String :=
  match path.getLast? with
  | some (.normal name) => some name
  | _ => none

/-- The path of the directory that a path lies in. -/
def parent (path : Path) : Option Path :=
  match path.getLast? with
  | none => none
  | some .rootDir => none
  | some _ => some path.dropLast

/-- Put a name in the place of the last one, or behind the path when that ends with none. -/
def withFileName (path : Path) (name : String) : Path :=
  if (fileName path).isSome then path.dropLast ++ [.normal name] else path ++ [.normal name]

/-- Where a state file is written before it takes the place of the last one. -/
def temporaryStatePath (path : Path) : Path :=
  let name := (fileName path).getD "camp-state.json"
  withFileName path ("." ++ name ++ ".tmp")

/-- Absolute and relative texts, one that ends above a directory, and one without parts. -/
example : ["/tmp/agent_mesh_state.json","./state//a.json","state/..",""].map
    (fun text => temporaryStatePath (components text))=
      ["/tmp/.agent_mesh_state.json.tmp","./state/.a.json.tmp","state/../.camp-state.json.tmp",
       ".camp-state.json.tmp"].map components := by
  decide +kernel

/-- A path with a name at its end. -/
theorem eq_of_fileName {path : Path} {name : String} (h : fileName path=some name) :
    path=path.dropLast ++ [.normal name] := by
  unfold fileName at h
  split at h
  · next last hlast =>
    cases h
    exact (List.dropLast_append_getLast? _ hlast).symm
  · cases h

/-- The temporary path of a named file. -/
theorem temporaryStatePath_of_fileName {path : Path} {name : String}
    (h : fileName path=some name) :
    temporaryStatePath path=path.dropLast ++ [.normal ("." ++ name ++ ".tmp")] := by
  simp only [temporaryStatePath,withFileName,h,Option.isSome_some,if_true,Option.getD_some]

/-- A name with something around it is longer. -/
theorem around_ne (name : String) : "." ++ name ++ ".tmp" ≠ name := by
  intro h
  have hlength := congrArg String.length h
  rw [String.length_append,String.length_append] at hlength
  have hdot : ".".length=1 := rfl
  omega

/-- The temporary path is another one than the path. -/
theorem temporaryStatePath_ne (path : Path) : temporaryStatePath path ≠ path := by
  intro h
  cases hname : fileName path with
  | none =>
    have hlength := congrArg List.length h
    simp only [temporaryStatePath,withFileName,hname,Option.isSome_none,Bool.false_eq_true,if_false,
      List.length_append,List.length_singleton] at hlength
    omega
  | some name =>
    rw [temporaryStatePath_of_fileName hname] at h
    have hparts := h.trans (eq_of_fileName hname)
    have hlast := (List.append_inj' hparts rfl).2
    simp only [List.cons.injEq,Component.normal.injEq,and_true] at hlast
    exact around_ne name hlast

/-- The temporary path of a named file is in the same directory. -/
theorem parent_temporaryStatePath {path : Path} {name : String} (h : fileName path=some name) :
    parent (temporaryStatePath path)=parent path := by
  have hpath : parent path=some path.dropLast := by
    have hlast : path.getLast?=some (.normal name) := by
      rw [eq_of_fileName h,List.getLast?_concat]
    rw [parent,hlast]
  rw [hpath,temporaryStatePath_of_fileName h,parent,List.getLast?_concat]
  dsimp only
  rw [List.dropLast_concat]

/-- Named files with the same temporary path are the same file. -/
theorem eq_of_temporaryStatePath {left right : Path} {name other : String}
    (hleft : fileName left=some name) (hright : fileName right=some other)
    (h : temporaryStatePath left=temporaryStatePath right) : left=right := by
  rw [temporaryStatePath_of_fileName hleft,temporaryStatePath_of_fileName hright] at h
  obtain ⟨hparent,hlast⟩ := List.append_inj' h rfl
  simp only [List.cons.injEq,Component.normal.injEq,and_true] at hlast
  have hname : name=other := by
    have hcut := String.append_left_inj ".tmp" |>.mp hlast
    exact String.append_right_inj "." |>.mp hcut
  rw [eq_of_fileName hleft,eq_of_fileName hright,hparent,hname]

/-- The file that a path leads to from a working directory, by the names below the root, where
there are no links. -/
def locateIn (directory : List String) (path : Path) : List String :=
  path.foldl (fun names part =>
    match part with
    | .rootDir => []
    | .curDir => names
    | .parentDir => names.dropLast
    | .normal name => names ++ [name]) directory

/-- Relative and absolute texts of one file. -/
example : ["s.json","./s.json","../work/s.json","/home/work//s.json"].map
    (fun text => locateIn ["home","work"] (components text))=
      List.replicate 4 ["home","work","s.json"] := by
  decide +kernel

end MeshPresence.FilePaths

import MeshPresence.MarkedLines
import MeshPresence.SignaturePayload

/-!
# What one honest signature pins down

The payload of an announcement without line feeds is read back field by field: its first
eight lines begin with different words, and no later line begins with one of them. Whoever
finds another announcement with the same payload, with line feeds anywhere, has therefore
found the same typed fields. Only the metadata can be cut differently.
-/

namespace MeshPresence.SignedFields

open TextOperations SeparatedLists MarkedLines AgentTypes AgentWire AnnouncementInvariant
open SignaturePayload

/-- Two announcements agree on every typed field that a signature covers. -/
structure SameFields (a b : AgentAnnouncement) : Prop where
  /-- Instance names. -/
  instanceName : a.instanceName=b.instanceName
  /-- Agent identifiers. -/
  agentId : a.agentId=b.agentId
  /-- Roles. -/
  role : a.role=b.role
  /-- Projects. -/
  project : a.project=b.project
  /-- Branches. -/
  branch : a.branch=b.branch
  /-- Statuses. -/
  status : a.status=b.status
  /-- Capability lists. -/
  capabilities : a.capabilities=b.capabilities
  /-- Ports. -/
  port : a.port=b.port

/-- An announcement whose payload consists of whole lines. -/
structure Linewise (a : AgentAnnouncement) : Prop where
  /-- No line feed in the instance name. -/
  instanceName : '\n' ∉ a.instanceName.toList
  /-- No line feed in the covered metadata keys. -/
  keys : ∀ entry ∈ signedMetadata a, '\n' ∉ entry.1.toList
  /-- The other covered values can be told apart. -/
  separable : Separable a

instance (a : AgentAnnouncement) : Decidable (Linewise a) :=
  decidable_of_iff ('\n' ∉ a.instanceName.toList ∧
      (∀ entry ∈ signedMetadata a, '\n' ∉ entry.1.toList) ∧ Separable a)
    ⟨fun h => ⟨h.1,h.2.1,h.2.2⟩,fun h => ⟨h.instanceName,h.keys,h.separable⟩⟩

/-- The mark of a line: its first two characters. -/
def mark (line : String) : List Char := line.toList.take 2

/-- The lines of the typed fields before the port. -/
def frontLines (a : AgentAnnouncement) : List String :=
  ["instance_name=" ++ a.instanceName, "agent_id=" ++ a.agentId, "role=" ++ a.role,
   "project=" ++ a.project, "branch=" ++ a.branch, "status=" ++ a.status.asStr,
   "capabilities=" ++ join "," a.capabilities]

/-- The line of the port. -/
def portLine (a : AgentAnnouncement) : String := "port=" ++ a.port.toNat.repr

/-- The lines of the covered metadata. -/
def metadataLines (a : AgentAnnouncement) : List String := (signedMetadata a).map metadataLine

/-- The payload is made of these lines. -/
theorem signaturePayload_lines (a : AgentAnnouncement) : signaturePayload a=
    join (String.singleton '\n') (frontLines a ++ portLine a :: metadataLines a) :=
  signaturePayload_eq a

/-- A fixed start of two characters or more is the mark. -/
theorem mark_append {start : String} (h : 2 ≤ start.toList.length) (rest : String) :
    mark (start ++ rest)=mark start := by
  rw [mark,mark,String.toList_append,List.take_append_of_le_length h]

/-- However a line goes on, its first part carries the mark of its fixed start. -/
theorem head_split_mark {start : String} (hlength : 2 ≤ start.toList.length)
    (hstart : '\n' ∉ start.toList) (rest other : String) :
    (split '\n' (start ++ rest)).head?.map mark=some (mark (start ++ other)) := by
  obtain ⟨first,parts,hparts⟩ := List.exists_cons_of_ne_nil
    (List.splitOn_ne_nil '\n' (start ++ rest).toList)
  have hprefix : start.toList <+: (start ++ rest).toList := by
    rw [String.toList_append]
    exact List.prefix_append _ _
  obtain ⟨tail,htail⟩ := (isPrefix_iff hstart hparts).mp hprefix
  have hfirst : mark (String.ofList first)=mark start := by
    rw [mark,String.toList_ofList,←htail,List.take_append_of_le_length hlength]
    rfl
  rw [split,hparts,List.map_cons,List.head?_cons,Option.map_some,hfirst,mark_append hlength]

/-- The marks of the typed fields are different. -/
theorem marks (a : AgentAnnouncement) : (frontLines a ++ [portLine a]).map mark=
    ["in","ag","ro","pr","br","st","ca","po"].map String.toList := by
  simp only [frontLines,portLine,List.cons_append,List.nil_append,List.map_cons,List.map_nil]
  repeat rw [mark_append (by decide)]
  decide

/-- The lines of metadata have another mark. -/
theorem mark_metadataLine (entry : String × String) : mark (metadataLine entry)="me".toList := by
  rw [metadataLine,String.append_assoc,String.append_assoc,mark_append (by decide)]
  decide

/-- The first parts of the lines carry the marks of the lines of another announcement. -/
theorem marks_of_split (a b : AgentAnnouncement) :
    List.Forall₂ (fun chunk line => chunk.head?.map mark=some (mark line))
      ((frontLines b).map (split '\n') ++ [split '\n' (portLine b)])
      (frontLines a ++ [portLine a]) := by
  simp only [frontLines,portLine,List.map_cons,List.map_nil,List.cons_append,List.nil_append,
    List.forall₂_cons,List.forall₂_nil_right_iff,and_true]
  refine ⟨?_,?_,?_,?_,?_,?_,?_,?_⟩ <;> exact head_split_mark (by decide) (by decide) _ _

/-- A text with one line is this line. -/
theorem eq_of_split_singleton {s line : String} (h : split '\n' s=[line]) : s=line := by
  have hline : '\n' ∉ line.toList :=
    separator_notMem_of_mem_split (s:=s) (h ▸ List.mem_singleton_self line)
  exact split_injective (h.trans (split_eq_singleton hline).symm)

/-- The lines of a linewise announcement hold no line feed. -/
theorem Linewise.lines {a : AgentAnnouncement} (h : Linewise a) :
    ∀ line ∈ frontLines a ++ portLine a :: metadataLines a, '\n' ∉ line.toList := by
  intro line hline
  rcases List.mem_cons.mp hline with rfl|hline
  · exact newline_notMem_append (by decide) h.instanceName
  rcases List.mem_cons.mp hline with rfl|hline
  · exact newline_notMem_append (by decide) h.separable.agentId
  have hrest : line ∈ fieldLines a ++ metadataLines a := hline
  rcases List.mem_append.mp hrest with hline|hline
  · exact h.separable.fieldLines line hline
  · obtain ⟨entry,he,rfl⟩ := List.mem_map.mp hline
    refine newline_notMem_append (newline_notMem_append ?_ (by decide)) (h.separable.entry he).2
    exact newline_notMem_append (by decide) (h.keys entry he)

/-- An announcement with the payload of a linewise one has its typed fields. -/
theorem sameFields_of_payload {a b : AgentAnnouncement} (ha : WellFormed a) (hb : WellFormed b)
    (hline : Linewise a) (h : signaturePayload a=signaturePayload b) : SameFields a b := by
  have hne : ∀ x : AgentAnnouncement, frontLines x ++ portLine x :: metadataLines x ≠ [] :=
    fun x => List.cons_ne_nil _ _
  have hsplit : ((frontLines b).map (split '\n')).flatten ++
      (split '\n' (portLine b) ++ (metadataLines b).flatMap (split '\n'))=
      frontLines a ++ portLine a :: metadataLines a := by
    rw [signaturePayload_lines,signaturePayload_lines] at h
    have hparts := congrArg (split '\n') h
    rw [split_join '\n' (hne a) hline.lines,split_join_flatMap '\n' (hne b),
      List.flatMap_append,List.flatMap_cons] at hparts
    exact hparts.symm
  obtain ⟨hfront,hport⟩ := chunks_of_marks hsplit (marks_of_split a b)
    (by rw [marks]; decide) (by
      intro l hl
      obtain ⟨entry,-,rfl⟩ := List.mem_map.mp hl
      rw [marks,mark_metadataLine]
      decide)
  have hlines : ∀ {start x y : String}, split '\n' (start ++ x)=[start ++ y] → y=x := fun h =>
    ((String.append_right_inj _).mp (eq_of_split_singleton h)).symm
  simp only [frontLines,List.map_cons,List.map_nil,List.cons.injEq,and_true] at hfront
  obtain ⟨hinstance,hid,hrole,hproject,hbranch,hstatus,hcapabilities⟩ := hfront
  have hdigits : split '\n' (portLine b)=[portLine b] :=
    split_eq_singleton (newline_notMem_append (by decide) (newline_notMem_repr _))
  rw [hdigits] at hport
  have hnumber := congrArg (fun s => Nat.ofDigitChars 10 s.toList 0)
    ((String.append_right_inj _).mp (List.cons.inj hport).1)
  simp only [Nat.toList_repr,Nat.ofDigitChars_ten_toDigits] at hnumber
  exact ⟨hlines hinstance,hlines hid,hlines hrole,hlines hproject,hlines hbranch,
    AgentStatus.asStr_inj.mp (hlines hstatus),
    join_capabilities_inj ha.capabilities hb.capabilities (hlines hcapabilities),
    (UInt16.toNat_inj.mp hnumber).symm⟩

end MeshPresence.SignedFields

import MeshPresence.SignatureVerification

/-!
# When the signed payload determines what is signed

The payload joins `key=value` lines without escaping. Announcements whose values
contain line feeds can therefore share a payload. Without line feeds in the values after
the instance name, and without `=` in the covered metadata keys, the payload determines
every covered field, although the instance name and the metadata keys may contain line
feeds: the last line that sets an identifier and is followed by a role is the line of the
agent identifier, since a line of the metadata that sets something ends its entry.
-/

namespace MeshPresence.SignaturePayload

open TextOperations FiniteMaps AgentTypes AgentWire AnnouncementInvariant SignatureVerification

/-- Announcements that the constructor accepts. -/
def Accepted (a : AgentAnnouncement) : Prop :=
  ∃ instanceName agentId role project branch status port addresses metadata,
    AgentAnnouncement.new instanceName agentId role project branch status port addresses metadata=
      .ok a

/-- Accepted announcements are well formed. -/
theorem Accepted.wellFormed {a : AgentAnnouncement} (h : Accepted a) : WellFormed a := by
  obtain ⟨_,_,_,_,_,_,_,_,_,h⟩ := h
  exact (new_ok h).1

/-- The constructor builds an announcement again from its own fields. -/
def rebuilds (a : AgentAnnouncement) : Bool :=
  AgentAnnouncement.new a.instanceName a.agentId a.role a.project a.branch a.status a.port
    a.addresses a.metadata=.ok a

/-- Announcements that are built again are accepted. -/
theorem accepted_of_rebuilds {a : AgentAnnouncement} (h : rebuilds a=true) : Accepted a :=
  ⟨_,_,_,_,_,_,_,_,_,of_decide_eq_true h⟩

/-- Two announcements agree on everything that a signature is meant to cover. -/
structure SameSigned (a b : AgentAnnouncement) : Prop where
  /-- Instance names. -/
  instanceName : a.instanceName=b.instanceName
  /-- Agent identifiers. -/
  agentId : a.agentId=b.agentId
  /-- Roles. -/
  role : a.role=b.role
  /-- Projects. -/
  project : a.project=b.project
  /-- Branches. -/
  branch : a.branch=b.branch
  /-- Statuses. -/
  status : a.status=b.status
  /-- Capability lists. -/
  capabilities : a.capabilities=b.capabilities
  /-- Ports. -/
  port : a.port=b.port
  /-- Metadata under keys that are not reserved. -/
  metadata : ∀ key, isReservedMetadataKey key=false → a.metadata[key]?=b.metadata[key]?

/-- The covered values can be told apart by the separators of the payload. -/
structure Separable (a : AgentAnnouncement) : Prop where
  /-- No line feed in the agent identifier. -/
  agentId : '\n' ∉ a.agentId.toList
  /-- No line feed in the role. -/
  role : '\n' ∉ a.role.toList
  /-- No line feed in the project. -/
  project : '\n' ∉ a.project.toList
  /-- No line feed in the branch. -/
  branch : '\n' ∉ a.branch.toList
  /-- No line feed in a capability. -/
  capabilities : ∀ capability ∈ a.capabilities, '\n' ∉ capability.toList
  /-- No `=` in covered metadata keys and no line feed in their values. -/
  metadata : ∀ key value : String, a.metadata[key]?=some value → isReservedMetadataKey key=false →
    '=' ∉ key.toList ∧ '\n' ∉ value.toList

/-- Separability is checked entry by entry. -/
theorem separable_iff (a : AgentAnnouncement) :
    ('\n' ∉ a.agentId.toList ∧ '\n' ∉ a.role.toList ∧ '\n' ∉ a.project.toList ∧
      '\n' ∉ a.branch.toList ∧ (∀ capability ∈ a.capabilities, '\n' ∉ capability.toList) ∧
      ∀ entry ∈ a.metadata.toList, isReservedMetadataKey entry.1=false →
        '=' ∉ entry.1.toList ∧ '\n' ∉ entry.2.toList) ↔
    Separable a := by
  constructor
  · rintro ⟨hid,hrole,hproject,hbranch,hcapabilities,hmetadata⟩
    refine ⟨hid,hrole,hproject,hbranch,hcapabilities,fun key value h => ?_⟩
    exact hmetadata (key,value) (Std.ExtTreeMap.mem_toList_iff_getElem?_eq_some.mpr h)
  · rintro ⟨hid,hrole,hproject,hbranch,hcapabilities,hmetadata⟩
    refine ⟨hid,hrole,hproject,hbranch,hcapabilities,fun entry he => ?_⟩
    exact hmetadata entry.1 entry.2 (Std.ExtTreeMap.mem_toList_iff_getElem?_eq_some.mp he)

instance (a : AgentAnnouncement) : Decidable (Separable a) :=
  decidable_of_iff _ (separable_iff a)

/-- The payload line of a metadata entry. -/
def metadataLine (entry : String × String) : String := "metadata:" ++ entry.1 ++ "=" ++ entry.2

/-- The metadata entries that the payload covers. -/
def signedMetadata (a : AgentAnnouncement) : List (String × String) :=
  a.metadata.toList.filter fun entry => isSignedKey entry.1

/-- The payload lines of the typed fields after the agent identifier. -/
def fieldLines (a : AgentAnnouncement) : List String :=
  ["role=" ++ a.role, "project=" ++ a.project, "branch=" ++ a.branch,
   "status=" ++ a.status.asStr, "capabilities=" ++ join "," a.capabilities,
   "port=" ++ a.port.toNat.repr]

/-- The payload is the instance name, the agent identifier, the other fields and
the covered metadata, line by line. -/
theorem signaturePayload_eq (a : AgentAnnouncement) :
    signaturePayload a=join (String.singleton '\n') (("instance_name=" ++ a.instanceName) ::
      ("agent_id=" ++ a.agentId) :: (fieldLines a ++ (signedMetadata a).map metadataLine)) := rfl

/-- The first character of a line. -/
def initial (line : String) : Option Char := line.toList.head?

/-- A fixed start of a line decides its first character. -/
theorem initial_append {start : String} (h : start ≠ "") (rest : String) :
    initial (start ++ rest)=initial start := by
  have hne : start.toList ≠ [] := fun he => h (String.toList_inj.mp he)
  rw [initial,initial,String.toList_append,List.head?_append_of_ne_nil _ hne]

/-- A fixed start without line feeds leaves the line feeds of a line to its rest. -/
theorem newline_notMem_append {start rest : String} (hs : '\n' ∉ start.toList)
    (hr : '\n' ∉ rest.toList) : '\n' ∉ (start ++ rest).toList := by
  rw [String.toList_append,List.mem_append,not_or]
  exact ⟨hs,hr⟩

/-- The decimal digits of a number contain no line feed. -/
theorem newline_notMem_repr (n : ℕ) : '\n' ∉ n.repr.toList := by
  intro h
  have hdigit := Nat.isDigit_of_mem_toDigits (b:=10) (n:=n) (by decide) (by decide)
    (c := '\n') (by simpa only [Nat.repr,String.toList_ofList] using h)
  exact absurd hdigit (by decide)

/-- Covered entries of a separable announcement have separable keys and values. -/
theorem Separable.entry {a : AgentAnnouncement} (h : Separable a) {entry : String × String}
    (he : entry ∈ signedMetadata a) : '=' ∉ entry.1.toList ∧ '\n' ∉ entry.2.toList := by
  obtain ⟨hmem,hkey⟩ := List.mem_filter.mp he
  rw [isSignedKey_eq,Bool.not_eq_true'] at hkey
  exact h.metadata entry.1 entry.2 (Std.ExtTreeMap.mem_toList_iff_getElem?_eq_some.mp hmem) hkey

/-- The lines of the typed fields are free of line feeds. -/
theorem Separable.fieldLines {a : AgentAnnouncement} (h : Separable a) :
    ∀ line ∈ fieldLines a, '\n' ∉ line.toList := by
  intro line hline
  simp only [SignaturePayload.fieldLines,List.mem_cons,List.not_mem_nil,or_false] at hline
  rcases hline with rfl|rfl|rfl|rfl|rfl|rfl
  · exact newline_notMem_append (by decide) h.role
  · exact newline_notMem_append (by decide) h.project
  · exact newline_notMem_append (by decide) h.branch
  · refine newline_notMem_append (by decide) ?_
    cases a.status <;> decide
  · exact newline_notMem_append (by decide) (notMem_join (by decide) h.capabilities)
  · exact newline_notMem_append (by decide) (newline_notMem_repr _)

/-- The lines of each covered metadata entry, of which line feeds in its key make several. -/
def entryLines (a : AgentAnnouncement) : List (List String) :=
  (signedMetadata a).map fun entry => split '\n' (metadataLine entry)

/-- The lines after the agent identifier. -/
def laterLines (a : AgentAnnouncement) : List String := fieldLines a ++ (entryLines a).flatten

/-- The lines of the payload of a separable announcement. -/
theorem Separable.split_signaturePayload {a : AgentAnnouncement} (h : Separable a) :
    split '\n' (signaturePayload a)=split '\n' ("instance_name=" ++ a.instanceName) ++
      ("agent_id=" ++ a.agentId) :: laterLines a := by
  have hid : '\n' ∉ ("agent_id=" ++ a.agentId).toList := newline_notMem_append (by decide) h.agentId
  rw [signaturePayload_eq,split_join_flatMap '\n' (List.cons_ne_nil _ _),List.flatMap_cons,
    List.flatMap_cons,split_eq_singleton hid,List.flatMap_append,flatMap_split h.fieldLines,
    List.flatMap_map]
  rfl

/-- Only the last line of an entry sets something. -/
theorem split_metadataLine {entry : String × String} (hkey : '=' ∉ entry.1.toList)
    (hvalue : '\n' ∉ entry.2.toList) : ∃ front last,
      split '\n' (metadataLine entry)=front ++ [last] ∧ ∀ line ∈ front, '=' ∉ line.toList := by
  have hset : '\n' ∉ ("=" ++ entry.2).toList := newline_notMem_append (by decide) hvalue
  obtain ⟨front,last,hstart,hline⟩ := split_append ("metadata:" ++ entry.1) hset
  rw [←String.append_assoc] at hline
  refine ⟨front,_,hline,fun line hl he => ?_⟩
  have hpart : line ∈ split '\n' ("metadata:" ++ entry.1) :=
    hstart ▸ List.mem_append_left _ hl
  have hmem := mem_of_mem_split hpart he
  rw [String.toList_append,List.mem_append] at hmem
  exact hmem.elim (by decide) hkey

/-- The lines of an entry begin with the word for metadata. -/
theorem initial_split_metadataLine {entry : String × String} {line : String}
    (h : line ∈ (split '\n' (metadataLine entry)).head?) : initial line=some 'm' := by
  obtain ⟨rest,hparts⟩ := List.head?_eq_some_iff.mp h
  have hstarts : startsWith (metadataLine entry) "m"=true := by
    refine startsWith_iff.mpr ⟨"etadata:" ++ entry.1 ++ "=" ++ entry.2,?_⟩
    simp only [metadataLine,←String.append_assoc]
    rfl
  rw [startsWith_of_split (by decide) hparts] at hstarts
  obtain ⟨tail,rfl⟩ := startsWith_iff.mp hstarts
  rw [initial_append (by decide)]
  rfl

/-- Of two lines that follow each other, the first sets no identifier or the second sets no
role. -/
def Harmless (line next : String) : Prop :=
  initial line=some 'a' → '=' ∈ line.toList → initial next ≠ some 'r'

/-- Lines that set nothing are harmless. -/
theorem isChain_harmless {front : List String} (h : ∀ line ∈ front, '=' ∉ line.toList)
    (last : String) : (front ++ [last]).IsChain Harmless := by
  induction front with
  | nil => exact List.IsChain.singleton last
  | cons line front ih =>
    obtain ⟨hline,hfront⟩ := List.forall_mem_cons.mp h
    exact (ih hfront).cons fun _ _ _ hset => absurd hset hline

/-- No line after the agent identifier sets an identifier in front of a role. -/
theorem Separable.harmless {a : AgentAnnouncement} (h : Separable a) :
    (laterLines a).IsChain Harmless := by
  have hfields : ∀ line ∈ SignaturePayload.fieldLines a, initial line ≠ some 'a' := by
    intro line hline
    simp only [SignaturePayload.fieldLines,List.mem_cons,List.not_mem_nil,or_false] at hline
    rcases hline with rfl|rfl|rfl|rfl|rfl|rfl <;> rw [initial_append (by decide)] <;> decide
  have hblocks : (entryLines a).flatten.IsChain Harmless := by
    have hne : [] ∉ entryLines a := fun hm => by
      obtain ⟨entry,-,hnil⟩ := List.mem_map.mp hm
      exact split_ne_nil '\n' _ hnil
    refine (List.isChain_flatten hne).mpr ⟨fun block hblock => ?_,?_⟩
    · obtain ⟨entry,he,rfl⟩ := List.mem_map.mp hblock
      obtain ⟨front,last,hlines,hfront⟩ := split_metadataLine (h.entry he).1 (h.entry he).2
      rw [hlines]
      exact isChain_harmless hfront last
    · refine (List.pairwise_of_forall_mem_list fun block _ other hother line _ next hnext => ?_).isChain
      obtain ⟨entry,-,rfl⟩ := List.mem_map.mp hother
      rw [Harmless,initial_split_metadataLine hnext]
      exact fun _ _ => by decide
  refine (List.isChain_append).mpr ⟨?_,hblocks,fun line hline next _ hstart => ?_⟩
  · refine (List.pairwise_of_forall_mem_list fun line hline next _ hstart => ?_).isChain
    exact absurd hstart (hfields line hline)
  · exact absurd hstart (hfields line (List.mem_of_mem_getLast? hline))

/-- The lines that begin with the agent identifier are not among the later lines of a separable
announcement. -/
theorem Separable.not_suffix {a b : AgentAnnouncement} (h : Separable a) :
    ¬("agent_id=" ++ b.agentId) :: laterLines b <:+ laterLines a := by
  intro hsuffix
  have hchain := h.harmless.suffix hsuffix
  have hlines : laterLines b=("role=" ++ b.role) :: (laterLines b).tail := rfl
  rw [hlines,List.isChain_cons_cons] at hchain
  refine hchain.1 ?_ ?_ ?_
  · rw [initial_append (by decide)]
    rfl
  · rw [String.toList_append]
    exact List.mem_append_left _ (by decide)
  · rw [initial_append (by decide)]
    rfl

/-- Separable announcements with one payload have the same lines. -/
theorem Separable.same_lines {a b : AgentAnnouncement} (ha : Separable a) (hb : Separable b)
    (h : signaturePayload a=signaturePayload b) : a.instanceName=b.instanceName ∧
      a.agentId=b.agentId ∧ laterLines a=laterLines b := by
  have hlines := congrArg (split '\n') h
  rw [ha.split_signaturePayload,hb.split_signaturePayload] at hlines
  have hsame : ("agent_id=" ++ a.agentId) :: laterLines a=
      ("agent_id=" ++ b.agentId) :: laterLines b := by
    rcases List.suffix_or_suffix_of_suffix (List.suffix_append _ _)
      (hlines ▸ List.suffix_append _ _) with hsuffix|hsuffix
    · exact ((List.suffix_cons_iff.mp hsuffix).resolve_right ha.not_suffix).symm
    · exact (List.suffix_cons_iff.mp hsuffix).resolve_right hb.not_suffix
  obtain ⟨hid,hlater⟩ := List.cons.inj hsame
  rw [hsame] at hlines
  have hinstance := split_injective (List.append_cancel_right hlines)
  exact ⟨(String.append_right_inj _).mp hinstance,(String.append_right_inj _).mp hid,hlater⟩

/-- A metadata line with a separable key determines the key in front of any text. -/
theorem metadataLine_append_inj {entry other : String × String} {rest rest' : String}
    (he : '=' ∉ entry.1.toList) (ho : '=' ∉ other.1.toList)
    (h : metadataLine entry ++ rest=metadataLine other ++ rest') :
    entry.1=other.1 ∧ entry.2 ++ rest=other.2 ++ rest' := by
  have hline : ∀ (entry : String × String) (rest : String), metadataLine entry ++ rest=
      "metadata:" ++ (entry.1 ++ String.singleton '=' ++ (entry.2 ++ rest)) := by
    intro entry rest
    simp only [metadataLine,String.append_assoc]
    rfl
  rw [hline,hline,String.append_right_inj] at h
  exact append_separator_inj '=' he ho h

/-- Joined metadata lines with separable entries determine the entries. -/
theorem join_metadataLine_inj {left right : List (String × String)} (hln : left ≠ [])
    (hrn : right ≠ []) (hl : ∀ entry ∈ left, '=' ∉ entry.1.toList ∧ '\n' ∉ entry.2.toList)
    (hr : ∀ entry ∈ right, '=' ∉ entry.1.toList ∧ '\n' ∉ entry.2.toList)
    (h : join (String.singleton '\n') (left.map metadataLine)=
      join (String.singleton '\n') (right.map metadataLine)) : left=right := by
  have hends : ∀ {value other rest : String}, '\n' ∉ value.toList →
      value ≠ other ++ (String.singleton '\n' ++ rest) := by
    rintro value other rest hvalue rfl
    simp [String.toList_append] at hvalue
  rw [join,join] at h
  induction left generalizing right with
  | nil => exact absurd rfl hln
  | cons entry left ih =>
    obtain ⟨other,right,rfl⟩ := List.exists_cons_of_ne_nil hrn
    obtain ⟨⟨hkey,hvalue⟩,hl⟩ := List.forall_mem_cons.mp hl
    obtain ⟨⟨hkey',hvalue'⟩,hr⟩ := List.forall_mem_cons.mp hr
    rcases left with _|⟨second,left⟩ <;> rcases right with _|⟨second',right⟩ <;>
      simp only [List.map_cons,List.map_nil,String.intercalate_singleton,
        String.intercalate_cons_cons,String.append_assoc] at h
    · rw [←String.append_empty (s:=metadataLine entry),
        ←String.append_empty (s:=metadataLine other)] at h
      obtain ⟨hfirst,hrest⟩ := metadataLine_append_inj hkey hkey' h
      rw [String.append_empty,String.append_empty] at hrest
      rw [Prod.ext hfirst hrest]
    · rw [←String.append_empty (s:=metadataLine entry)] at h
      obtain ⟨-,hrest⟩ := metadataLine_append_inj hkey hkey' h
      rw [String.append_empty] at hrest
      exact absurd hrest (hends hvalue)
    · rw [←String.append_empty (s:=metadataLine other)] at h
      obtain ⟨-,hrest⟩ := metadataLine_append_inj hkey hkey' h
      rw [String.append_empty] at hrest
      exact absurd hrest.symm (hends hvalue')
    · obtain ⟨hfirst,hrest⟩ := metadataLine_append_inj hkey hkey' h
      rw [←String.append_assoc,←String.append_assoc] at hrest
      obtain ⟨hsecond,hrest⟩ := append_separator_inj '\n' hvalue hvalue' hrest
      rw [Prod.ext hfirst hsecond,
        ih (List.cons_ne_nil _ _) (List.cons_ne_nil _ _) hl hr hrest]

/-- The lines of separable entries determine the entries. -/
theorem entryLines_inj {a b : AgentAnnouncement} (ha : Separable a) (hb : Separable b)
    (h : (entryLines a).flatten=(entryLines b).flatten) : signedMetadata a=signedMetadata b := by
  have hempty : ∀ {x : AgentAnnouncement}, (entryLines x).flatten=[] → signedMetadata x=[] := by
    intro x hx
    rw [List.eq_nil_iff_forall_not_mem]
    intro entry he
    exact split_ne_nil '\n' _ (List.flatten_eq_nil_iff.mp hx _ (List.mem_map_of_mem he))
  have hjoined : ∀ {x : AgentAnnouncement}, signedMetadata x ≠ [] → (entryLines x).flatten=
      split '\n' (join (String.singleton '\n') ((signedMetadata x).map metadataLine)) := by
    intro x hx
    rw [split_join_flatMap '\n' fun hnil => hx (List.map_eq_nil_iff.mp hnil),List.flatMap_map]
    rfl
  by_cases hleft : signedMetadata a=[]
  · rw [hleft]
    refine (hempty (h ▸ ?_)).symm
    rw [entryLines,hleft]
    rfl
  by_cases hright : signedMetadata b=[]
  · refine absurd (hempty (h.trans ?_)) hleft
    rw [entryLines,hright]
    rfl
  · rw [hjoined hleft,hjoined hright] at h
    exact join_metadataLine_inj hleft hright (fun entry => ha.entry) (fun entry => hb.entry)
      (split_injective h)

/-- Canonical capability lists are determined by their joined text; the empty
list is the only one with an empty text. -/
theorem join_capabilities_inj {left right : List String} (hl : CanonicalCapabilities left)
    (hr : CanonicalCapabilities right) (h : join "," left=join "," right) : left=right := by
  have hempty : ∀ {l : List String}, CanonicalCapabilities l → join "," l="" → l=[] := by
    intro l hc he
    by_contra hne
    have hsplit := split_join ',' hne fun s hs => (hc.names s hs).2
    rw [show String.singleton ','="," from rfl,he,show split ',' ""=[""] from rfl] at hsplit
    exact (hc.names "" (hsplit ▸ List.mem_singleton_self "")).1.2 rfl
  by_cases hln : left=[]
  · subst hln
    exact (hempty hr h.symm).symm
  · by_cases hrn : right=[]
    · subst hrn
      exact hempty hl h
    · exact join_inj ',' hln hrn (fun s hs => (hl.names s hs).2)
        (fun s hs => (hr.names s hs).2) h

/-- Among separable announcements the payload determines every covered field and
all metadata under keys that are not reserved. -/
theorem signaturePayload_injective {a b : AgentAnnouncement} (ha : Accepted a) (hb : Accepted b)
    (hsa : Separable a) (hsb : Separable b) (h : signaturePayload a=signaturePayload b) :
    SameSigned a b := by
  obtain ⟨hinstance,hid,hlater⟩ := hsa.same_lines hsb h
  obtain ⟨hfields,hmetadata⟩ := List.append_inj hlater rfl
  simp only [fieldLines,List.cons.injEq,String.append_right_inj,and_true] at hfields
  obtain ⟨hrole,hproject,hbranch,hstatus,hcapabilities,hport⟩ := hfields
  refine ⟨hinstance,hid,hrole,hproject,hbranch,AgentStatus.asStr_inj.mp hstatus,?_,?_,
    fun key hkey => ?_⟩
  · exact join_capabilities_inj ha.wellFormed.capabilities hb.wellFormed.capabilities hcapabilities
  · have hdigits := congrArg (fun s => Nat.ofDigitChars 10 s.toList 0) hport
    simp only [Nat.toList_repr,Nat.ofDigitChars_ten_toDigits] at hdigits
    exact UInt16.toNat_inj.mp hdigits
  · have hentries : signedMetadata a=signedMetadata b := entryLines_inj hsa hsb hmetadata
    refine filter_toList_eq_iff.mp hentries key ?_
    rw [isSignedKey_eq,hkey,Bool.not_false]

/-- A payload of two separable announcements, which differ only where it does not
reach. -/
theorem signaturePayload_injective_team :
    SameSigned { sampleAnnouncement with metadata := (∅ : AgentMetadata).insert "team" "blue" }
      { sampleAnnouncement with
        addresses := [.v4 0x7f000001#32]
        metadata := ((∅ : AgentMetadata).insert "team" "blue").insert "status" "idle" } :=
  signaturePayload_injective (accepted_of_rebuilds (by decide +kernel))
    (accepted_of_rebuilds (by decide +kernel)) (by decide +kernel) (by decide +kernel)
    (by decide +kernel)

/-- A metadata value that contains the line of a second entry. -/
def oneEntry : AgentAnnouncement :=
  { sampleAnnouncement with metadata := (∅ : AgentMetadata).insert "x" "1\nmetadata:y=2" }

/-- The two entries apart. -/
def twoEntries : AgentAnnouncement :=
  { sampleAnnouncement with metadata := ((∅ : AgentMetadata).insert "x" "1").insert "y" "2" }

/-- Pairs of announcements with one payload. Each pair breaks one condition of
separability: line feeds in metadata values, `=` in metadata keys, and line feeds
in the agent identifier, the role, the project, the branch and a capability. -/
def collisions : List (AgentAnnouncement × AgentAnnouncement) :=
  [(oneEntry,twoEntries),
   ({ sampleAnnouncement with metadata := (∅ : AgentMetadata).insert "x=1" "2" },
    { sampleAnnouncement with metadata := (∅ : AgentMetadata).insert "x" "1=2" }),
   ({ sampleAnnouncement with
      instanceName := "peer", agentId := "x\nagent_id=agent-local" },
    { sampleAnnouncement with instanceName := "peer\nagent_id=x" }),
   ({ sampleAnnouncement with
      instanceName := "peer", agentId := "x", role := "y\nagent_id=agent-local\nrole=coder" },
    { sampleAnnouncement with instanceName := "peer\nagent_id=x\nrole=y" }),
   ({ sampleAnnouncement with
      instanceName := "peer", agentId := "x"
      project := "y\nagent_id=agent-local\nrole=coder\nproject=alpha" },
    { sampleAnnouncement with instanceName := "peer\nagent_id=x\nrole=coder\nproject=y" }),
   ({ sampleAnnouncement with
      instanceName := "peer", agentId := "x"
      branch := "y\nagent_id=agent-local\nrole=coder\nproject=alpha\nbranch=main" },
    { sampleAnnouncement with
      instanceName := "peer\nagent_id=x\nrole=coder\nproject=alpha\nbranch=y" }),
   ({ sampleAnnouncement with
      instanceName := "peer", agentId := "x"
      capabilities := ["y\nagent_id=agent-local\nrole=coder\nproject=alpha\nbranch=main\n" ++
        "status=idle\ncapabilities="]
      metadata := (∅ : AgentMetadata).insert "capabilities"
        ("y\nagent_id=agent-local\nrole=coder\nproject=alpha\nbranch=main\n" ++
          "status=idle\ncapabilities=") },
    { sampleAnnouncement with
      instanceName := "peer\nagent_id=x\nrole=coder\nproject=alpha\nbranch=main\nstatus=idle\n" ++
        "capabilities=y" })]

/-- Each pair is accepted, differs in covered data, and shares its payload. -/
theorem collisions_collide : ∀ pair ∈ collisions, Accepted pair.1 ∧ Accepted pair.2 ∧
    signaturePayload pair.1=signaturePayload pair.2 ∧ ¬SameSigned pair.1 pair.2 := by
  have hrebuilds : ∀ pair ∈ collisions, rebuilds pair.1=true ∧ rebuilds pair.2=true := by
    decide +kernel
  have hpayload : ∀ pair ∈ collisions, signaturePayload pair.1=signaturePayload pair.2 := by
    decide +kernel
  have hdiffer : ∀ pair ∈ collisions, pair.1.instanceName ≠ pair.2.instanceName ∨
      pair.1.metadata["x"]? ≠ pair.2.metadata["x"]? := by
    decide +kernel
  intro pair hpair
  obtain ⟨hleft,hright⟩ := hrebuilds pair hpair
  refine ⟨accepted_of_rebuilds hleft,accepted_of_rebuilds hright,hpayload pair hpair,fun h => ?_⟩
  rcases hdiffer pair hpair with hname|hmetadata
  · exact hname h.instanceName
  · exact hmetadata (h.metadata "x" (by decide))

/-- One metadata entry and two can have one payload, hence one signature. -/
theorem signaturePayload_collides : Accepted oneEntry ∧ Accepted twoEntries ∧
    signaturePayload oneEntry=signaturePayload twoEntries ∧ ¬SameSigned oneEntry twoEntries :=
  collisions_collide (oneEntry,twoEntries) List.mem_cons_self

end MeshPresence.SignaturePayload

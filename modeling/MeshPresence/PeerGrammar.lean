import MeshPresence.WireRoundTrip
import MeshPresence.ValidatedConfig

/-!
# What the decoder accepts

A list of TXT properties with distinct keys is the finite map of the texts that
were sent under its keys. The decoder accepts it exactly when every value is
UTF-8, the five required texts are not blank, the status is one of the three
statuses up to white space and letter case, no key is blank, and port and
instance name are given. The capability list never fails: its items are the
nonblank pieces between commas, and these are capability names already.
-/

namespace MeshPresence.PeerGrammar

open TextOperations FiniteMaps FallibleSteps AgentTypes AgentWire AnnouncementInvariant
open WireRoundTrip ValidatedConfig

/-- Text of a property; a property without a value has the empty text. -/
def textOf (property : TxtProperty) : Option String :=
  match property.val with
  | some value => String.fromUTF8? value
  | none => some ""

/-- A text was sent under a key. -/
def Sent (properties : TxtProperties) (key text : String) : Prop :=
  ∃ property ∈ properties, property.key=key ∧ textOf property=some text

/-- Keys that every peer has to send. -/
def requiredKeys : List String :=
  [agentIdMetadataKey, agentRoleMetadataKey, agentProjectMetadataKey, agentBranchMetadataKey,
   agentStatusMetadataKey]

/-- The property lists that the decoder accepts. -/
structure Grammar (instanceName : String) (port : UInt16) (properties : TxtProperties) : Prop where
  /-- Every present value is UTF-8. -/
  utf8 : ∀ property ∈ properties, ∀ value, property.val=some value → value.IsValidUTF8
  /-- The required keys carry texts that are not blank. -/
  required : ∀ key ∈ requiredKeys, ∃ text, Sent properties key text ∧ trim text ≠ ""
  /-- The status is one of the three, up to white space and letter case. -/
  status : ∃ text, Sent properties agentStatusMetadataKey text ∧
    toAsciiLowercase (trim text) ∈ ["idle","busy","error"]
  /-- No key is blank. -/
  keys : ∀ property ∈ properties, trim property.key ≠ ""
  /-- The port is not zero. -/
  port : port ≠ 0
  /-- The instance name is not blank. -/
  instanceName : trim instanceName ≠ ""

/-- The announcement of an accepted property list. -/
structure Parsed (instanceName : String) (port : UInt16) (addresses : List IpAddr)
    (properties : TxtProperties) (a : AgentAnnouncement) : Prop where
  /-- The instance name is trimmed. -/
  instanceName : a.instanceName=trim instanceName
  /-- The agent identifier is the trimmed text. -/
  agentId : ∃ text, Sent properties agentIdMetadataKey text ∧ a.agentId=trim text
  /-- The role is the trimmed text. -/
  role : ∃ text, Sent properties agentRoleMetadataKey text ∧ a.role=trim text
  /-- The project is the trimmed text. -/
  project : ∃ text, Sent properties agentProjectMetadataKey text ∧ a.project=trim text
  /-- The branch is the trimmed text. -/
  branch : ∃ text, Sent properties agentBranchMetadataKey text ∧ a.branch=trim text
  /-- The status is the one that the text names. -/
  status : ∃ text, Sent properties agentStatusMetadataKey text ∧
    a.status.asStr=toAsciiLowercase (trim text)
  /-- Port and addresses are taken over. -/
  endpoint : a.port=port ∧ a.addresses=addresses
  /-- The capabilities ascend strictly, so they are sorted and free of duplicates. -/
  ascending : a.capabilities.Pairwise (· < ·)
  /-- The capabilities are the nonblank trimmed items between the commas. -/
  capabilities : ∀ name, name ∈ a.capabilities ↔ name ≠ "" ∧
    ∃ text, Sent properties agentCapabilitiesMetadataKey text ∧
      ∃ item ∈ split ',' text, name=trim item

/-- Decoding a property gives its key and its text. -/
theorem entryOfProperty_ok {property : TxtProperty} {key text : String} :
    entryOfProperty property=.ok (key,text) ↔ property.key=key ∧ textOf property=some text := by
  unfold entryOfProperty textOf
  cases property.val with
  | none => simp only [Except.ok.injEq,Prod.mk.injEq,Option.some.injEq]
  | some value =>
    dsimp only
    cases String.fromUTF8? value with
    | none => simp only [reduceCtorEq,and_false]
    | some decoded => simp only [Except.ok.injEq,Prod.mk.injEq,Option.some.injEq]

/-- A property has a text exactly when its value, if any, is UTF-8. -/
theorem exists_textOf {property : TxtProperty} :
    (∃ text, textOf property=some text) ↔
      ∀ value, property.val=some value → value.IsValidUTF8 := by
  unfold textOf
  cases property.val with
  | none => simp only [Option.some.injEq,exists_eq',reduceCtorEq,false_implies,implies_true]
  | some value =>
    by_cases hvalid : value.IsValidUTF8
    · simp only [String.fromUTF8?,hvalid,dite_true,Option.some.injEq,exists_eq',forall_eq']
    · simp only [String.fromUTF8?,hvalid,dite_false,reduceCtorEq,exists_false,Option.some.injEq,
        forall_eq']

/-- Decoded entries keep the keys of their properties. -/
theorem keys_decoded {properties : TxtProperties} {entries : List (String × String)}
    (h : List.Forall₂ (fun property entry => entryOfProperty property=.ok entry) properties entries) :
    entries.map Prod.fst=properties.map TxtProperty.key := by
  induction h with
  | nil => rfl
  | cons hfirst _ ih => rw [List.map_cons,List.map_cons,ih,(entryOfProperty_ok.mp hfirst).1]

/-- The metadata of a property list with distinct keys holds what was sent. -/
theorem getElem?_decoded {properties : TxtProperties} {metadata : AgentMetadata}
    (hkeys : (properties.map TxtProperty.key).Nodup)
    (h : metadataFromTxtProperties properties=.ok metadata) {key text : String} :
    metadata[key]?=some text ↔ Sent properties key text := by
  obtain ⟨entries,hentries,h⟩ := bind_ok h
  cases h
  have hdistinct : entries.Pairwise fun a b => ¬compare a.1 b.1=.eq := by
    rw [←keys_decoded (mapM_ok hentries),List.Nodup,List.pairwise_map] at hkeys
    exact hkeys.imp fun hne he => hne (Std.LawfulEqOrd.compare_eq_iff_eq.mp he)
  rw [getElem?_ofList_eq_some hdistinct]
  constructor
  · intro hmem
    obtain ⟨property,hproperty,he⟩ := exists_of_mem_mapM hentries hmem
    exact ⟨property,hproperty,entryOfProperty_ok.mp he⟩
  · rintro ⟨property,hproperty,hsent⟩
    obtain ⟨entry,hmem,he⟩ := exists_mem_of_mapM hentries hproperty
    rw [entryOfProperty_ok.mpr hsent] at he
    cases he
    exact hmem

/-- Properties whose values are UTF-8 are collected. -/
theorem exists_decoded {properties : TxtProperties} :
    (∃ metadata, metadataFromTxtProperties properties=.ok metadata) ↔
      ∀ property ∈ properties, ∀ value, property.val=some value → value.IsValidUTF8 := by
  constructor
  · rintro ⟨metadata,h⟩ property hproperty
    obtain ⟨entries,hentries,-⟩ := bind_ok h
    obtain ⟨⟨key,text⟩,-,he⟩ := exists_mem_of_mapM hentries hproperty
    exact exists_textOf.mp ⟨text,(entryOfProperty_ok.mp he).2⟩
  · intro h
    have heach : ∀ property ∈ properties, ∃ entry, entryOfProperty property=.ok entry := by
      intro property hproperty
      obtain ⟨text,htext⟩ := exists_textOf.mpr (h property hproperty)
      exact ⟨(property.key,text),entryOfProperty_ok.mpr ⟨rfl,htext⟩⟩
    obtain ⟨entries,hentries⟩ := exists_mapM_ok heach
    exact ⟨Std.ExtTreeMap.ofList entries,by rw [metadataFromTxtProperties,hentries]; rfl⟩

/-- The keys of the collected metadata are those of the properties. -/
theorem noBlankKey_decoded {properties : TxtProperties} {metadata : AgentMetadata}
    (hkeys : (properties.map TxtProperty.key).Nodup)
    (h : metadataFromTxtProperties properties=.ok metadata) :
    NoBlankKey metadata ↔ ∀ property ∈ properties, trim property.key ≠ "" := by
  constructor
  · intro hblank property hproperty
    obtain ⟨text,htext⟩ := exists_textOf.mpr (exists_decoded.mp ⟨metadata,h⟩ property hproperty)
    have hstored := (getElem?_decoded hkeys h).mpr ⟨property,hproperty,rfl,htext⟩
    exact hblank property.key (Std.ExtTreeMap.mem_iff_isSome_getElem?.mpr (hstored ▸ rfl))
  · intro hall key hkey
    obtain ⟨text,htext⟩ :=
      Option.isSome_iff_exists.mp (Std.ExtTreeMap.mem_iff_isSome_getElem?.mp hkey)
    obtain ⟨property,hproperty,rfl,-⟩ := (getElem?_decoded hkeys h).mp htext
    exact hall property hproperty

/-- A required text is found exactly when it is stored and not blank. -/
theorem requiredMetadata_iff {metadata : AgentMetadata} {key value : String} :
    requiredMetadata metadata key=.ok value ↔ metadata[key]?=some value ∧ trim value ≠ "" := by
  refine ⟨fun h => ⟨getElem?_of_requiredMetadata h,fun hblank => ?_⟩,fun h =>
    requiredMetadata_ok h.1 h.2⟩
  have hstored := getElem?_of_requiredMetadata h
  simp only [requiredMetadata,hstored,hblank,Option.filter_some,ne_eq,not_true_eq_false,decide_false,
    Bool.false_eq_true,if_false,reduceCtorEq] at h

/-- Parsing a status finds the one whose canonical string is the normalized text. -/
theorem fromStr_ok {text : String} {status : AgentStatus} :
    AgentStatus.fromStr text=.ok status ↔ toAsciiLowercase (trim text)=status.asStr := by
  unfold AgentStatus.fromStr
  generalize toAsciiLowercase (trim text)=normalized
  dsimp only
  split
  · next h =>
    rw [h]
    cases status <;> simp [AgentStatus.asStr]
  · next hidle =>
    split
    · next h =>
      rw [h]
      cases status <;> simp [AgentStatus.asStr]
    · next hbusy =>
      split
      · next h =>
        rw [h]
        cases status <;> simp [AgentStatus.asStr]
      · next herror =>
        cases status <;> simp [AgentStatus.asStr,hidle,hbusy,herror]

/-- A text parses as a status exactly when its normal form is a canonical string. -/
theorem exists_fromStr {text : String} :
    (∃ status, AgentStatus.fromStr text=.ok status) ↔
      toAsciiLowercase (trim text) ∈ ["idle","busy","error"] := by
  simp only [fromStr_ok,List.mem_cons,List.not_mem_nil,or_false]
  constructor
  · rintro ⟨status,h⟩
    rw [h]
    cases status <;> simp [AgentStatus.asStr]
  · rintro (h|h|h)
    · exact ⟨.idle,h⟩
    · exact ⟨.busy,h⟩
    · exact ⟨.error,h⟩

/-- The nonblank trimmed items of a comma-separated text. -/
def items (text : String) : List String :=
  ((split ',' text).map trim).filter fun s => s ≠ ""

/-- An item is a trimmed piece between commas that is not empty. -/
theorem mem_items {text name : String} :
    name ∈ items text ↔ name ≠ "" ∧ ∃ item ∈ split ',' text, name=trim item := by
  simp only [items,List.mem_filter,List.mem_map,decide_eq_true_eq,eq_comm (a:=name),and_comm]

/-- Items are capability names: the error path of the capability parser is not reached. -/
theorem items_name {text name : String} (h : name ∈ items text) : CapabilityName name := by
  obtain ⟨hne,item,hitem,rfl⟩ := mem_items.mp h
  have hcomma := separator_notMem_of_mem_split hitem
  exact ⟨normal_trim hne,fun hc => hcomma (mem_of_mem_trim hc)⟩

/-- The capability list that metadata advertises. -/
def listed (metadata : AgentMetadata) : List String :=
  (metadata[agentCapabilitiesMetadataKey]?.map fun text => sortDedup (items text)).getD []

/-- Reading the capabilities of any metadata succeeds. -/
theorem capabilitiesFromMetadata_listed (metadata : AgentMetadata) :
    capabilitiesFromMetadata metadata=.ok (listed metadata) := by
  unfold capabilitiesFromMetadata listed
  cases metadata[agentCapabilitiesMetadataKey]? with
  | none => rfl
  | some text =>
    have hnames : ∀ name ∈ items text, CapabilityName name := fun _ h => items_name h
    exact canonicalizeCapabilities_names hnames

/-- The advertised list has exactly the items of the stored text. -/
theorem mem_listed {metadata : AgentMetadata} {name : String} :
    name ∈ listed metadata ↔
      ∃ text, metadata[agentCapabilitiesMetadataKey]?=some text ∧ name ∈ items text := by
  unfold listed
  cases metadata[agentCapabilitiesMetadataKey]? with
  | none => simp only [Option.map_none,Option.getD_none,List.not_mem_nil,reduceCtorEq,false_and,
      exists_false]
  | some text => simp only [Option.map_some,Option.getD_some,mem_sortDedup,Option.some.injEq,
      exists_eq_left']

/-- The advertised list ascends strictly. -/
theorem pairwise_listed (metadata : AgentMetadata) : (listed metadata).Pairwise (· < ·) := by
  unfold listed
  cases metadata[agentCapabilitiesMetadataKey]? with
  | none => exact List.Pairwise.nil
  | some text => exact pairwise_sortDedup (items text)

/-- The constructor accepts exactly nonblank fields with a port and nonblank keys, trims the
fields and lists the capabilities of the metadata. -/
theorem new_listed {instanceName agentId role project branch : String} {status : AgentStatus}
    {port : UInt16} {addresses : List IpAddr} {metadata : AgentMetadata} {a : AgentAnnouncement} :
    AgentAnnouncement.new instanceName agentId role project branch status port addresses metadata=
        .ok a ↔
      (trim instanceName ≠ "" ∧ trim agentId ≠ "" ∧ trim role ≠ "" ∧ trim project ≠ "" ∧
        trim branch ≠ "" ∧ port ≠ 0 ∧ NoBlankKey metadata) ∧
      a={ instanceName := trim instanceName, agentId := trim agentId, role := trim role
          project := trim project, branch := trim branch, status, capabilities := listed metadata
          port, addresses, metadata := syncCapabilitiesMetadata metadata (listed metadata) } := by
  simp only [new_iff,capabilitiesFromMetadata_listed,Except.ok.injEq,exists_eq_left']

/-- What the decoder found in the collected metadata, and the announcement it built. -/
structure Decoded (instanceName : String) (port : UInt16) (addresses : List IpAddr)
    (metadata : AgentMetadata) (a : AgentAnnouncement) : Prop where
  /-- The agent identifier is the trimmed text of its key. -/
  agentId : ∃ text, metadata[agentIdMetadataKey]?=some text ∧ trim text ≠ "" ∧ a.agentId=trim text
  /-- The role is the trimmed text of its key. -/
  role : ∃ text, metadata[agentRoleMetadataKey]?=some text ∧ trim text ≠ "" ∧ a.role=trim text
  /-- The project is the trimmed text of its key. -/
  project : ∃ text, metadata[agentProjectMetadataKey]?=some text ∧ trim text ≠ "" ∧
    a.project=trim text
  /-- The branch is the trimmed text of its key. -/
  branch : ∃ text, metadata[agentBranchMetadataKey]?=some text ∧ trim text ≠ "" ∧
    a.branch=trim text
  /-- The status is the one that the text of its key names. -/
  status : ∃ text, metadata[agentStatusMetadataKey]?=some text ∧ trim text ≠ "" ∧
    toAsciiLowercase (trim text)=a.status.asStr
  /-- The instance name is trimmed and not blank. -/
  instanceName : trim instanceName ≠ "" ∧ a.instanceName=trim instanceName
  /-- Port and addresses are taken over; the port is not zero. -/
  endpoint : port ≠ 0 ∧ a.port=port ∧ a.addresses=addresses
  /-- No key is blank. -/
  keys : NoBlankKey metadata
  /-- The capabilities are the advertised ones. -/
  capabilities : a.capabilities=listed metadata
  /-- Only the mirror of the capabilities is rewritten in the metadata. -/
  metadata : a.metadata=syncCapabilitiesMetadata metadata (listed metadata)

/-- A successful decoding is one of its collected metadata. -/
theorem fromTxtProperties_iff {instanceName : String} {port : UInt16} {addresses : List IpAddr}
    {properties : TxtProperties} {a : AgentAnnouncement} :
    fromTxtProperties instanceName port addresses properties=.ok a ↔
      ∃ metadata, metadataFromTxtProperties properties=.ok metadata ∧
        Decoded instanceName port addresses metadata a := by
  constructor
  · intro h
    obtain ⟨metadata,agentId,role,project,branch,raw,status,hmetadata,hid,hrole,hproject,hbranch,
      hraw,hstatus,hnew⟩ := fromTxtProperties_new h
    obtain ⟨⟨hinstance,-,-,-,-,hport,hkeys⟩,rfl⟩ := new_listed.mp hnew
    obtain ⟨hid,hidne⟩ := requiredMetadata_iff.mp hid
    obtain ⟨hrole,hrolene⟩ := requiredMetadata_iff.mp hrole
    obtain ⟨hproject,hprojectne⟩ := requiredMetadata_iff.mp hproject
    obtain ⟨hbranch,hbranchne⟩ := requiredMetadata_iff.mp hbranch
    obtain ⟨hraw,hrawne⟩ := requiredMetadata_iff.mp hraw
    exact ⟨metadata,hmetadata,⟨agentId,hid,hidne,rfl⟩,⟨role,hrole,hrolene,rfl⟩,
      ⟨project,hproject,hprojectne,rfl⟩,⟨branch,hbranch,hbranchne,rfl⟩,
      ⟨raw,hraw,hrawne,fromStr_ok.mp hstatus⟩,⟨hinstance,rfl⟩,⟨hport,rfl,rfl⟩,hkeys,rfl,rfl⟩
  · rintro ⟨metadata,hmetadata,h⟩
    obtain ⟨agentId,hid,hidne,hida⟩ := h.agentId
    obtain ⟨role,hrole,hrolene,hrolea⟩ := h.role
    obtain ⟨project,hproject,hprojectne,hprojecta⟩ := h.project
    obtain ⟨branch,hbranch,hbranchne,hbrancha⟩ := h.branch
    obtain ⟨raw,hraw,hrawne,hstatus⟩ := h.status
    have ha : a={ instanceName := trim instanceName, agentId := trim agentId, role := trim role
                  project := trim project, branch := trim branch, status := a.status
                  capabilities := listed metadata, port, addresses
                  metadata := syncCapabilitiesMetadata metadata (listed metadata) } := by
      cases a
      rw [AgentAnnouncement.mk.injEq]
      exact ⟨h.instanceName.2,hida,hrolea,hprojecta,hbrancha,rfl,h.capabilities,h.endpoint.2.1,
        h.endpoint.2.2,h.metadata⟩
    rw [fromTxtProperties,hmetadata,ok_bind,requiredMetadata_ok hid hidne,ok_bind,
      requiredMetadata_ok hrole hrolene,ok_bind,requiredMetadata_ok hproject hprojectne,ok_bind,
      requiredMetadata_ok hbranch hbranchne,ok_bind,requiredMetadata_ok hraw hrawne,ok_bind,
      fromStr_ok.mpr hstatus,ok_bind]
    exact new_listed.mpr ⟨⟨h.instanceName.1,hidne,hrolene,hprojectne,hbranchne,h.endpoint.1,h.keys⟩,ha⟩

/-- Property lists of the grammar are accepted. -/
theorem Grammar.accepted {instanceName : String} {port : UInt16} {properties : TxtProperties}
    (h : Grammar instanceName port properties) (hkeys : (properties.map TxtProperty.key).Nodup)
    (addresses : List IpAddr) :
    ∃ a, fromTxtProperties instanceName port addresses properties=.ok a := by
  obtain ⟨metadata,hmetadata⟩ := exists_decoded.mpr h.utf8
  have hstored : ∀ key ∈ requiredKeys, ∃ text, metadata[key]?=some text ∧ trim text ≠ "" := by
    intro key hkey
    obtain ⟨text,hsent,hne⟩ := h.required key hkey
    exact ⟨text,(getElem?_decoded hkeys hmetadata).mpr hsent,hne⟩
  obtain ⟨agentId,hid⟩ := hstored agentIdMetadataKey (by decide)
  obtain ⟨role,hrole⟩ := hstored agentRoleMetadataKey (by decide)
  obtain ⟨project,hproject⟩ := hstored agentProjectMetadataKey (by decide)
  obtain ⟨branch,hbranch⟩ := hstored agentBranchMetadataKey (by decide)
  obtain ⟨raw,hraw⟩ := hstored agentStatusMetadataKey (by decide)
  obtain ⟨text,hsent,hnormal⟩ := h.status
  have hsame := (getElem?_decoded hkeys hmetadata).mpr hsent
  rw [hraw.1,Option.some.injEq] at hsame
  obtain ⟨status,hstatus⟩ := exists_fromStr.mpr (hsame ▸ hnormal)
  let a : AgentAnnouncement :=
    { instanceName := trim instanceName, agentId := trim agentId, role := trim role
      project := trim project, branch := trim branch, status, capabilities := listed metadata, port
      addresses, metadata := syncCapabilitiesMetadata metadata (listed metadata) }
  have hblank := (noBlankKey_decoded hkeys hmetadata).mpr h.keys
  refine ⟨a,fromTxtProperties_iff.mpr ⟨metadata,hmetadata,?_⟩⟩
  exact ⟨⟨agentId,hid.1,hid.2,rfl⟩,⟨role,hrole.1,hrole.2,rfl⟩,⟨project,hproject.1,hproject.2,rfl⟩,
    ⟨branch,hbranch.1,hbranch.2,rfl⟩,⟨raw,hraw.1,hraw.2,fromStr_ok.mp hstatus⟩,
    ⟨h.instanceName,rfl⟩,⟨h.port,rfl,rfl⟩,hblank,rfl,rfl⟩

/-- Accepted property lists are in the grammar. -/
theorem grammar_of_accepted {instanceName : String} {port : UInt16} {addresses : List IpAddr}
    {properties : TxtProperties} {a : AgentAnnouncement}
    (hkeys : (properties.map TxtProperty.key).Nodup)
    (h : fromTxtProperties instanceName port addresses properties=.ok a) :
    Grammar instanceName port properties := by
  obtain ⟨metadata,hmetadata,hdecoded⟩ := fromTxtProperties_iff.mp h
  have hsent : ∀ {key text : String}, metadata[key]?=some text → Sent properties key text :=
    fun hstored => (getElem?_decoded hkeys hmetadata).mp hstored
  obtain ⟨agentId,hid,hidne,-⟩ := hdecoded.agentId
  obtain ⟨role,hrole,hrolene,-⟩ := hdecoded.role
  obtain ⟨project,hproject,hprojectne,-⟩ := hdecoded.project
  obtain ⟨branch,hbranch,hbranchne,-⟩ := hdecoded.branch
  obtain ⟨raw,hraw,hrawne,hstatus⟩ := hdecoded.status
  refine ⟨exists_decoded.mp ⟨metadata,hmetadata⟩,fun key hkey => ?_,
    ⟨raw,hsent hraw,exists_fromStr.mp ⟨a.status,fromStr_ok.mpr hstatus⟩⟩,
    (noBlankKey_decoded hkeys hmetadata).mp hdecoded.keys,hdecoded.endpoint.1,
    hdecoded.instanceName.1⟩
  simp only [requiredKeys,List.mem_cons,List.not_mem_nil,or_false] at hkey
  rcases hkey with rfl|rfl|rfl|rfl|rfl
  · exact ⟨agentId,hsent hid,hidne⟩
  · exact ⟨role,hsent hrole,hrolene⟩
  · exact ⟨project,hsent hproject,hprojectne⟩
  · exact ⟨branch,hsent hbranch,hbranchne⟩
  · exact ⟨raw,hsent hraw,hrawne⟩

/-- An accepted property list is parsed into its trimmed texts and its items. -/
theorem parsed_of_accepted {instanceName : String} {port : UInt16} {addresses : List IpAddr}
    {properties : TxtProperties} {a : AgentAnnouncement}
    (hkeys : (properties.map TxtProperty.key).Nodup)
    (h : fromTxtProperties instanceName port addresses properties=.ok a) :
    Parsed instanceName port addresses properties a := by
  obtain ⟨metadata,hmetadata,hdecoded⟩ := fromTxtProperties_iff.mp h
  have hsent : ∀ {key text : String}, metadata[key]?=some text ↔ Sent properties key text :=
    getElem?_decoded hkeys hmetadata
  obtain ⟨agentId,hid,-,hida⟩ := hdecoded.agentId
  obtain ⟨role,hrole,-,hrolea⟩ := hdecoded.role
  obtain ⟨project,hproject,-,hprojecta⟩ := hdecoded.project
  obtain ⟨branch,hbranch,-,hbrancha⟩ := hdecoded.branch
  obtain ⟨raw,hraw,-,hstatus⟩ := hdecoded.status
  refine ⟨hdecoded.instanceName.2,⟨agentId,hsent.mp hid,hida⟩,⟨role,hsent.mp hrole,hrolea⟩,
    ⟨project,hsent.mp hproject,hprojecta⟩,⟨branch,hsent.mp hbranch,hbrancha⟩,
    ⟨raw,hsent.mp hraw,hstatus.symm⟩,hdecoded.endpoint.2,?_,fun name => ?_⟩
  · rw [hdecoded.capabilities]
    exact pairwise_listed metadata
  · rw [hdecoded.capabilities,mem_listed]
    simp only [hsent,mem_items]
    constructor
    · rintro ⟨text,hm,hne,hitem⟩
      exact ⟨hne,text,hm,hitem⟩
    · rintro ⟨hne,text,hm,hitem⟩
      exact ⟨text,hm,hne,hitem⟩

/-- Replace the values of all properties that are not required. -/
def revalue (value : TxtProperty → Option ByteArray) (properties : TxtProperties) :
    TxtProperties :=
  properties.map fun property =>
    if property.key ∈ requiredKeys then property else { property with val := value property }

/-- New values keep the keys. -/
theorem keys_revalue (value : TxtProperty → Option ByteArray) (properties : TxtProperties) :
    (revalue value properties).map TxtProperty.key=properties.map TxtProperty.key := by
  rw [revalue,List.map_map]
  refine List.map_congr_left fun property _ => ?_
  rw [Function.comp_apply]
  split <;> rfl

/-- Required texts are still sent. -/
theorem Sent.revalue {properties : TxtProperties} {key text : String} (h : Sent properties key text)
    (hkey : key ∈ requiredKeys) (value : TxtProperty → Option ByteArray) :
    Sent (revalue value properties) key text := by
  obtain ⟨property,hproperty,rfl,htext⟩ := h
  refine ⟨property,List.mem_map.mpr ⟨property,hproperty,?_⟩,rfl,htext⟩
  rw [if_pos hkey]

/-- No UTF-8 value of another property leaves the grammar. -/
theorem Grammar.revalue {instanceName : String} {port : UInt16} {properties : TxtProperties}
    (h : Grammar instanceName port properties) {value : TxtProperty → Option ByteArray}
    (hvalue : ∀ property bytes, value property=some bytes → bytes.IsValidUTF8) :
    Grammar instanceName port (revalue value properties) := by
  refine ⟨fun property hproperty => ?_,fun key hkey => ?_,?_,fun property hproperty => ?_,h.port,
    h.instanceName⟩
  · obtain ⟨original,horiginal,rfl⟩ := List.mem_map.mp hproperty
    split
    · exact h.utf8 original horiginal
    · exact hvalue original
  · obtain ⟨text,hsent,hne⟩ := h.required key hkey
    exact ⟨text,hsent.revalue hkey value,hne⟩
  · obtain ⟨text,hsent,hnormal⟩ := h.status
    exact ⟨text,hsent.revalue (by decide) value,hnormal⟩
  · have hkey := List.mem_map_of_mem (f:=TxtProperty.key) hproperty
    rw [keys_revalue] at hkey
    obtain ⟨original,horiginal,he⟩ := List.mem_map.mp hkey
    exact he ▸ h.keys original horiginal

/-- The decoder accepts exactly its grammar, whatever the capabilities and the other metadata
contain, and what it builds are the trimmed texts and the items of the capability list. -/
theorem accepts_exactly_grammar (instanceName : String) (port : UInt16) (addresses : List IpAddr)
    {properties : TxtProperties} (hkeys : (properties.map TxtProperty.key).Nodup) :
    ((∃ a, fromTxtProperties instanceName port addresses properties=.ok a) ↔
      Grammar instanceName port properties) ∧
    (∀ a, fromTxtProperties instanceName port addresses properties=.ok a →
      Parsed instanceName port addresses properties a) ∧
    ∀ value : TxtProperty → Option ByteArray,
      (∀ property bytes, value property=some bytes → bytes.IsValidUTF8) →
      (∃ a, fromTxtProperties instanceName port addresses properties=.ok a) →
      ∃ a, fromTxtProperties instanceName port addresses (revalue value properties)=.ok a := by
  have hgrammar : (∃ a, fromTxtProperties instanceName port addresses properties=.ok a) →
      Grammar instanceName port properties := by
    rintro ⟨a,ha⟩
    exact grammar_of_accepted hkeys ha
  refine ⟨⟨hgrammar,fun h => h.accepted hkeys addresses⟩,fun a ha => parsed_of_accepted hkeys ha,
    fun value hvalue haccepted => ?_⟩
  have hrevalued := (hgrammar haccepted).revalue hvalue
  exact hrevalued.accepted (by rwa [keys_revalue]) addresses

/-- Properties with padded texts, an upper-case status and messy capabilities. -/
def paddedProperties : TxtProperties :=
  [("agent_id"," peer "),("role","coder"),("current_project","alpha"),("current_branch","main"),
   ("status"," BUSY "),("capabilities"," plan,, review ,plan"),("team","")].map TxtProperty.ofEntry

/-- The padded properties are accepted, and their capabilities are read. -/
theorem accepts_exactly_grammar_padded :
    Grammar "peer._agent-mesh._tcp.local." 8080 paddedProperties ∧
    ∃ a, fromTxtProperties "peer._agent-mesh._tcp.local." 8080 [] paddedProperties=.ok a ∧
      Parsed "peer._agent-mesh._tcp.local." 8080 [] paddedProperties a ∧
      a.capabilities=["plan","review"] := by
  have hkeys : (paddedProperties.map TxtProperty.key).Nodup := by decide +kernel
  have hread : (fromTxtProperties "peer._agent-mesh._tcp.local." 8080 []
      paddedProperties).toOption.map AgentAnnouncement.capabilities=some ["plan","review"] := by
    decide +kernel
  obtain ⟨a,ha,hcap⟩ := Option.map_eq_some_iff.mp hread
  have h := accepts_exactly_grammar "peer._agent-mesh._tcp.local." 8080 [] hkeys
  have hok := ok_of_toOption ha
  exact ⟨h.1.mp ⟨a,hok⟩,a,hok,h.2.1 a hok,hcap⟩

end MeshPresence.PeerGrammar

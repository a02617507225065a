import MeshPresence.AnnouncementInvariant

/-!
# Decoding undoes encoding

The encoder writes the mirrors of the typed fields over whatever the metadata
held under their keys. The decoder reads the typed fields back from the mirrors
and rebuilds the same metadata, so that encoding again gives the same
properties.
-/

namespace MeshPresence.WireRoundTrip

open TextOperations FiniteMaps FallibleSteps AgentTypes AgentConfig AgentWire AnnouncementInvariant

/-- Keys whose values the encoder takes from typed fields. -/
def canonicalKeys : List String :=
  [agentIdMetadataKey, agentRoleMetadataKey, agentProjectMetadataKey, agentBranchMetadataKey,
   agentStatusMetadataKey, agentCapabilitiesMetadataKey]

/-- The metadata of an announcement with the canonical keys set to the values of
its typed fields; an empty capability list has no entry. -/
structure MirrorsFields (a : AgentAnnouncement) (metadata : AgentMetadata) : Prop where
  /-- Agent identifier. -/
  agentId : metadata[agentIdMetadataKey]?=some a.agentId
  /-- Role. -/
  role : metadata[agentRoleMetadataKey]?=some a.role
  /-- Project. -/
  project : metadata[agentProjectMetadataKey]?=some a.project
  /-- Branch. -/
  branch : metadata[agentBranchMetadataKey]?=some a.branch
  /-- Status. -/
  status : metadata[agentStatusMetadataKey]?=some a.status.asStr
  /-- Capabilities. -/
  capabilities : metadata[agentCapabilitiesMetadataKey]?=
    if a.capabilities=[] then none else some (join "," a.capabilities)
  /-- Every other key is as in the announcement. -/
  other : ∀ key, key ∉ canonicalKeys → metadata[key]?=a.metadata[key]?

/-- Lookup after mirroring the capabilities. -/
theorem getElem?_sync (metadata : AgentMetadata) (capabilities : List String) (key : String) :
    (syncCapabilitiesMetadata metadata capabilities)[key]?=
      if agentCapabilitiesMetadataKey=key then
        if capabilities=[] then none else some (join "," capabilities)
      else metadata[key]? := by
  unfold syncCapabilitiesMetadata
  cases capabilities with
  | nil => simp only [List.isEmpty_nil,if_true,getElem?_erase]
  | cons c capabilities =>
    simp only [List.isEmpty_cons,Bool.false_eq_true,if_false,getElem?_insert,reduceCtorEq]

/-- The encoder's metadata mirrors the typed fields. -/
theorem canonicalMetadata_mirrors (a : AgentAnnouncement) :
    MirrorsFields a (canonicalMetadata a) := by
  constructor <;> simp only [canonicalMetadata,getElem?_sync,getElem?_insert]
  case other =>
    intro key hkey
    simp only [canonicalKeys,List.mem_cons,List.not_mem_nil,or_false,not_or] at hkey
    simp only [Ne.symm hkey.1,Ne.symm hkey.2.1,Ne.symm hkey.2.2.1,Ne.symm hkey.2.2.2.1,
      Ne.symm hkey.2.2.2.2.1,Ne.symm hkey.2.2.2.2.2,if_false]
  all_goals
    simp only [agentIdMetadataKey,agentRoleMetadataKey,agentProjectMetadataKey,
      agentBranchMetadataKey,agentStatusMetadataKey,agentCapabilitiesMetadataKey,
      String.reduceEq,if_true,if_false]

/-- The typed fields and the other keys determine mirrored metadata. -/
theorem MirrorsFields.unique {a : AgentAnnouncement} {m m' : AgentMetadata}
    (h : MirrorsFields a m) (h' : MirrorsFields a m') : m=m' := by
  apply Std.ExtTreeMap.ext_getElem?
  intro key
  by_cases hkey : key ∈ canonicalKeys
  · simp only [canonicalKeys,List.mem_cons,List.not_mem_nil,or_false] at hkey
    rcases hkey with rfl|rfl|rfl|rfl|rfl|rfl
    · rw [h.agentId,h'.agentId]
    · rw [h.role,h'.role]
    · rw [h.project,h'.project]
    · rw [h.branch,h'.branch]
    · rw [h.status,h'.status]
    · rw [h.capabilities,h'.capabilities]
  · rw [h.other key hkey,h'.other key hkey]

/-- Mirroring again, with any addresses, changes nothing. -/
theorem canonicalMetadata_canonicalMetadata (a : AgentAnnouncement) (addresses : List IpAddr) :
    canonicalMetadata { a with addresses, metadata := canonicalMetadata a }=canonicalMetadata a := by
  have hfirst := canonicalMetadata_mirrors a
  have hagain := canonicalMetadata_mirrors { a with addresses, metadata := canonicalMetadata a }
  refine MirrorsFields.unique (a:=a) ⟨hagain.agentId,hagain.role,hagain.project,hagain.branch,
    hagain.status,hagain.capabilities,fun key hkey => ?_⟩ hfirst
  exact (hagain.other key hkey).trans (hfirst.other key hkey)

/-- The capability mirror is already in place. -/
theorem sync_canonicalMetadata (a : AgentAnnouncement) :
    syncCapabilitiesMetadata (canonicalMetadata a) a.capabilities=canonicalMetadata a := by
  apply Std.ExtTreeMap.ext_getElem?
  intro key
  rw [getElem?_sync]
  split
  · next hkey => rw [←hkey,(canonicalMetadata_mirrors a).capabilities]
  · rfl

/-- Writing the mirrors introduces no blank key. -/
theorem canonicalMetadata_noBlankKey {a : AgentAnnouncement} (h : NoBlankKey a.metadata) :
    NoBlankKey (canonicalMetadata a) := by
  unfold canonicalMetadata
  exact (((((h.insert (by decide) _).insert (by decide) _).insert (by decide) _).insert
    (by decide) _).insert (by decide) _).sync _

/-- A capability list is read back from its joined mirror. -/
theorem split_join_capabilities {capabilities : List String}
    (h : CanonicalCapabilities capabilities) (hne : capabilities ≠ []) :
    ((split ',' (join "," capabilities)).map trim).filter (fun s => s ≠ "")=capabilities := by
  have hsplit : split ',' (join "," capabilities)=capabilities :=
    split_join ',' hne fun s hs => (h.names s hs).2
  have htrim : capabilities.map trim=capabilities :=
    (List.map_congr_left fun s hs => (h.names s hs).1.1).trans (List.map_id capabilities)
  rw [hsplit,htrim,List.filter_eq_self]
  exact fun s hs => decide_eq_true (h.names s hs).1.2

/-- The decoder finds the capability list of the encoded announcement. -/
theorem capabilitiesFromMetadata_canonicalMetadata {a : AgentAnnouncement}
    (h : CanonicalCapabilities a.capabilities) :
    capabilitiesFromMetadata (canonicalMetadata a)=.ok a.capabilities := by
  unfold capabilitiesFromMetadata
  rw [(canonicalMetadata_mirrors a).capabilities]
  by_cases hne : a.capabilities=[]
  · rw [if_pos hne,hne]
  · rw [if_neg hne]
    dsimp only
    rw [split_join_capabilities h hne,canonicalizeCapabilities_canonical h]

/-- Decoding the UTF-8 bytes of a text gives the text. -/
theorem fromUTF8?_toUTF8 (s : String) : String.fromUTF8? s.toUTF8=some s := by
  have hvalid : s.toUTF8.IsValidUTF8 := s.isValidUTF8
  rw [String.fromUTF8?,dif_pos hvalid]
  rfl

/-- The decoder collects the metadata that the encoder listed. -/
theorem metadataFromTxtProperties_toTxtProperties (a : AgentAnnouncement) :
    metadataFromTxtProperties (toTxtProperties a)=.ok (canonicalMetadata a) := by
  have hentry : ∀ entry, entryOfProperty (TxtProperty.ofEntry entry)=.ok entry := by
    intro entry
    simp only [entryOfProperty,TxtProperty.ofEntry,fromUTF8?_toUTF8]
  rw [metadataFromTxtProperties,toTxtProperties,mapM_map_ok hentry,ok_bind,ofList_toList]
  rfl

/-- A stored value that is not blank is found. -/
theorem requiredMetadata_ok {metadata : AgentMetadata} {key value : String}
    (h : metadata[key]?=some value) (hne : trim value ≠ "") :
    requiredMetadata metadata key=.ok value := by
  simp only [requiredMetadata,h,Option.filter_some,hne,ne_eq,not_false_eq_true,decide_true,if_true]

/-- A value that is found was stored. -/
theorem getElem?_of_requiredMetadata {metadata : AgentMetadata} {key value : String}
    (h : requiredMetadata metadata key=.ok value) : metadata[key]?=some value := by
  unfold requiredMetadata at h
  split at h
  · next stored hfilter =>
    cases h
    exact Option.eq_some_of_filter_eq_some hfilter
  · cases h

/-- Decoding metadata that holds the fields of a well-formed announcement gives the
announcement with the capabilities that the metadata lists. -/
theorem fromTxtProperties_of_metadata {a : AgentAnnouncement} (h : WellFormed a)
    {properties : TxtProperties} {metadata : AgentMetadata} {capabilities : List String}
    (hdecode : metadataFromTxtProperties properties=.ok metadata)
    (hid : metadata[agentIdMetadataKey]?=some a.agentId)
    (hrole : metadata[agentRoleMetadataKey]?=some a.role)
    (hproject : metadata[agentProjectMetadataKey]?=some a.project)
    (hbranch : metadata[agentBranchMetadataKey]?=some a.branch)
    (hstatus : metadata[agentStatusMetadataKey]?=some a.status.asStr) (hkeys : NoBlankKey metadata)
    (hcap : capabilitiesFromMetadata metadata=.ok capabilities) (addresses : List IpAddr) :
    fromTxtProperties a.instanceName a.port addresses properties=
      .ok { a with capabilities, addresses
                   metadata := syncCapabilitiesMetadata metadata capabilities } := by
  have hasStr : trim a.status.asStr ≠ "" := Normal.trim_ne (AgentStatus.asStr_trimmed a.status)
  rw [fromTxtProperties,hdecode,ok_bind,
    requiredMetadata_ok hid h.agentId.trim_ne,ok_bind,
    requiredMetadata_ok hrole h.role.trim_ne,ok_bind,
    requiredMetadata_ok hproject h.project.trim_ne,ok_bind,
    requiredMetadata_ok hbranch h.branch.trim_ne,ok_bind,
    requiredMetadata_ok hstatus hasStr,ok_bind,AgentStatus.fromStr_asStr,ok_bind,
    new_of_normal h.instanceName h.agentId h.role h.project h.branch h.port hkeys hcap]

/-- Decoding an encoded announcement gives it back with the mirrors in place and
the addresses of the resolution. -/
theorem fromTxtProperties_toTxtProperties {a : AgentAnnouncement} (h : WellFormed a)
    (addresses : List IpAddr) :
    fromTxtProperties a.instanceName a.port addresses (toTxtProperties a)=
      .ok { a with addresses, metadata := canonicalMetadata a } := by
  have hm := canonicalMetadata_mirrors a
  have hdecoded := fromTxtProperties_of_metadata h (metadataFromTxtProperties_toTxtProperties a)
    hm.agentId hm.role hm.project hm.branch hm.status (canonicalMetadata_noBlankKey h.keys)
    (capabilitiesFromMetadata_canonicalMetadata h.capabilities) addresses
  rw [hdecoded,sync_canonicalMetadata]

/-- Announcements built by the constructor and changed by any mutators survive
the wire: every typed field comes back, the metadata comes back with the
canonical keys set, and encoding again gives the same properties. -/
theorem txt_properties_round_trip (mac : Mac)
    {instanceName agentId role project branch : String} {status : AgentStatus} {port : UInt16}
    {addresses : List IpAddr} {metadata : AgentMetadata} {built : AgentAnnouncement}
    (h : AgentAnnouncement.new instanceName agentId role project branch status port addresses
      metadata=.ok built) (mutators : List Mutator) :
    let a := applyAll mac built mutators
    ∃ b, fromTxtProperties a.instanceName a.port a.addresses (toTxtProperties a)=.ok b ∧
      b={ a with metadata := b.metadata } ∧ MirrorsFields a b.metadata ∧
      toTxtProperties b=toTxtProperties a := by
  intro a
  have ha : WellFormed a := applyAll_wellFormed mac (new_ok h).1 mutators
  refine ⟨{ a with metadata := canonicalMetadata a },?_,rfl,canonicalMetadata_mirrors a,?_⟩
  · exact fromTxtProperties_toTxtProperties ha a.addresses
  · rw [toTxtProperties,canonicalMetadata_canonicalMetadata a a.addresses]
    rfl

/-- A signed announcement with capabilities and metadata survives the wire. -/
theorem txt_properties_round_trip_sample :
    let a := applyAll Mac.recorded sampleAnnouncement
      (sampleUpdates ++ [.applySharedSecretAuth sampleAuth])
    ∃ b, fromTxtProperties a.instanceName a.port a.addresses (toTxtProperties a)=.ok b ∧
      b={ a with metadata := b.metadata } ∧ MirrorsFields a b.metadata ∧
      toTxtProperties b=toTxtProperties a := by
  have h := txt_properties_round_trip Mac.recorded sampleAnnouncement_new
    (sampleUpdates ++ [.applySharedSecretAuth sampleAuth])
  exact h

end MeshPresence.WireRoundTrip

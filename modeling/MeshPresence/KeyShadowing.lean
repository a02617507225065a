import MeshPresence.ValidatedConfig
import MeshPresence.FirstOccurrences

/-!
# Free-form keys against canonical keys on the wire

A TXT transport keeps the first of several properties whose keys agree up to ASCII
case. Properties are sent in ascending order of their keys, and every other spelling of
a lower-case key comes before it. A canonical field is therefore lost exactly when the
metadata holds another spelling of its key. The reserved-key guard compares exact
spellings and lets such keys in.
-/

namespace MeshPresence.KeyShadowing

open TextOperations FallibleSteps AgentTypes AgentConfig AgentWire
open AnnouncementInvariant WireRoundTrip ValidatedConfig FirstOccurrences

/-- What the transport delivers: of properties whose keys agree up to ASCII case the
first one, and the properties in their order. -/
def transported (properties : TxtProperties) : TxtProperties :=
  keepFirst (fun property => toAsciiLowercase property.key) properties

/-- The decoder collects the first entry of every class of keys. -/
theorem metadataFromTxtProperties_transported (a : AgentAnnouncement) :
    metadataFromTxtProperties (transported (toTxtProperties a))=
      .ok (rebuildFirst toAsciiLowercase (canonicalMetadata a)) := by
  have hentry : ∀ entry, entryOfProperty (TxtProperty.ofEntry entry)=.ok entry := by
    intro entry
    simp only [entryOfProperty,TxtProperty.ofEntry,fromUTF8?_toUTF8]
  have hmap : transported (toTxtProperties a)=
      (keepFirst (fun entry => toAsciiLowercase entry.1) (canonicalMetadata a).toList).map
        TxtProperty.ofEntry := keepFirst_map _ TxtProperty.ofEntry _
  rw [hmap,metadataFromTxtProperties,mapM_map_ok hentry,ok_bind]
  rfl

/-- Canonical keys whose value the peer reads: the five text fields, and the
capabilities when there are any. -/
def coveredKeys (a : AgentAnnouncement) : List String :=
  [agentIdMetadataKey, agentRoleMetadataKey, agentProjectMetadataKey, agentBranchMetadataKey,
   agentStatusMetadataKey] ++ if a.capabilities=[] then [] else [agentCapabilitiesMetadataKey]

/-- No metadata key is another spelling of a covered canonical key. -/
def Unshadowed (a : AgentAnnouncement) : Prop :=
  ∀ key ∈ a.metadata.keys, ∀ canonical ∈ coveredKeys a,
    toAsciiLowercase key=canonical → key=canonical

instance (a : AgentAnnouncement) : Decidable (Unshadowed a) :=
  inferInstanceAs (Decidable (∀ key ∈ a.metadata.keys, ∀ canonical ∈ coveredKeys a,
    toAsciiLowercase key=canonical → key=canonical))

/-- What a peer decodes from the transported properties of an announcement. -/
def received (a : AgentAnnouncement) (addresses : List IpAddr) :
    Except ZeroConfError AgentAnnouncement :=
  fromTxtProperties a.instanceName a.port addresses (transported (toTxtProperties a))

/-- The peer decodes the sender's identity, status and capabilities. -/
def Delivered (a : AgentAnnouncement) (addresses : List IpAddr) : Prop :=
  ∃ b, received a addresses=.ok b ∧ b.agentId=a.agentId ∧ b.role=a.role ∧ b.project=a.project ∧
    b.branch=a.branch ∧ b.status=a.status ∧ b.capabilities=a.capabilities

/-- Canonical keys are lower-case. -/
theorem toAsciiLowercase_canonical {key : String} (h : key ∈ canonicalKeys) :
    toAsciiLowercase key=key := by
  have hall : ∀ key ∈ canonicalKeys, toAsciiLowercase key=key := by decide
  exact hall key h

/-- Covered keys are canonical. -/
theorem canonical_of_covered {a : AgentAnnouncement} {key : String} (h : key ∈ coveredKeys a) :
    key ∈ canonicalKeys := by
  unfold coveredKeys at h
  rcases List.mem_append.mp h with h|h
  · exact List.mem_append_left [agentCapabilitiesMetadataKey] h
  · split at h
    · exact absurd h List.not_mem_nil
    · exact List.mem_append_right
        [agentIdMetadataKey, agentRoleMetadataKey, agentProjectMetadataKey, agentBranchMetadataKey,
          agentStatusMetadataKey] h

/-- A key that the encoder sends is canonical or a metadata key. -/
theorem mem_of_mem_canonicalMetadata {a : AgentAnnouncement} {key : String}
    (h : key ∈ canonicalMetadata a) : key ∈ canonicalKeys ∨ key ∈ a.metadata := by
  by_cases hkey : key ∈ canonicalKeys
  · exact Or.inl hkey
  · have hsome := Std.ExtTreeMap.mem_iff_isSome_getElem?.mp h
    rw [(canonicalMetadata_mirrors a).other key hkey] at hsome
    exact Or.inr (Std.ExtTreeMap.mem_iff_isSome_getElem?.mpr hsome)

/-- A covered key of an unshadowed announcement keeps its value on the wire. -/
theorem Unshadowed.getElem? {a : AgentAnnouncement} (h : Unshadowed a) {canonical : String}
    (hc : canonical ∈ coveredKeys a) :
    (rebuildFirst toAsciiLowercase (canonicalMetadata a))[canonical]?=
      (canonicalMetadata a)[canonical]? := by
  refine getElem?_rebuildFirst_of_first toAsciiLowercase fun key hkey hlt hclass => ?_
  have hlower := toAsciiLowercase_canonical (canonical_of_covered hc)
  have heq : key=canonical := by
    rcases mem_of_mem_canonicalMetadata hkey with hkey|hkey
    · rw [←toAsciiLowercase_canonical hkey,hclass,hlower]
    · exact h key (Std.ExtTreeMap.mem_keys.mpr hkey) canonical hc (hclass.trans hlower)
  rw [heq,Std.LawfulEqOrd.compare_eq_iff_eq.mpr rfl] at hlt
  cases hlt

/-- Another spelling of a canonical key displaces it on the wire. -/
theorem getElem?_shadowed {a : AgentAnnouncement} {key canonical : String}
    (hkey : key ∈ a.metadata) (hc : canonical ∈ canonicalKeys)
    (hclass : toAsciiLowercase key=canonical) (hne : key ≠ canonical) :
    (rebuildFirst toAsciiLowercase (canonicalMetadata a))[canonical]?=none := by
  have hother : key ∉ canonicalKeys := fun hm =>
    hne ((toAsciiLowercase_canonical hm).symm.trans hclass)
  have hsent : key ∈ canonicalMetadata a := by
    rw [Std.ExtTreeMap.mem_iff_isSome_getElem?,(canonicalMetadata_mirrors a).other key hother]
    exact Std.ExtTreeMap.mem_iff_isSome_getElem?.mp hkey
  have hlt : key<canonical := by
    have hbefore : key<toAsciiLowercase key := lt_toAsciiLowercase fun he => hne (he.symm.trans hclass)
    rwa [hclass] at hbefore
  refine getElem?_rebuildFirst_of_later toAsciiLowercase hsent ?_ ?_
  · exact compare_lt_iff_lt.mpr hlt
  · rw [hclass,toAsciiLowercase_canonical hc]

/-- The delivered metadata has no blank key. -/
theorem rebuildFirst_noBlankKey {a : AgentAnnouncement} (h : NoBlankKey a.metadata) :
    NoBlankKey (rebuildFirst toAsciiLowercase (canonicalMetadata a)) := by
  intro key hkey
  obtain ⟨value,hvalue⟩ := Option.isSome_iff_exists.mp (Std.ExtTreeMap.mem_iff_isSome_getElem?.mp hkey)
  have hsent := ((getElem?_rebuildFirst toAsciiLowercase).mp hvalue).1
  have hmem : key ∈ canonicalMetadata a := Std.ExtTreeMap.mem_iff_isSome_getElem?.mpr (hsent ▸ rfl)
  exact canonicalMetadata_noBlankKey h key hmem

/-- The peer reads the capabilities of an unshadowed announcement. -/
theorem Unshadowed.capabilities {a : AgentAnnouncement} (h : Unshadowed a) (ha : WellFormed a) :
    capabilitiesFromMetadata (rebuildFirst toAsciiLowercase (canonicalMetadata a))=
      .ok a.capabilities := by
  by_cases hnil : a.capabilities=[]
  · have hsent : (canonicalMetadata a)[agentCapabilitiesMetadataKey]?=none := by
      rw [(canonicalMetadata_mirrors a).capabilities,if_pos hnil]
    have hnone : (rebuildFirst toAsciiLowercase (canonicalMetadata a))[
        agentCapabilitiesMetadataKey]?=none := by
      rw [Option.eq_none_iff_forall_ne_some]
      intro value hvalue
      have hstored := ((getElem?_rebuildFirst toAsciiLowercase).mp hvalue).1
      rw [hsent] at hstored
      cases hstored
    rw [capabilitiesFromMetadata,hnone,hnil]
  · have hcovered : agentCapabilitiesMetadataKey ∈ coveredKeys a := by
      rw [coveredKeys,if_neg hnil]
      exact List.mem_append_right _ (List.mem_singleton_self _)
    have hread := capabilitiesFromMetadata_canonicalMetadata ha.capabilities
    rwa [capabilitiesFromMetadata,h.getElem? hcovered]

/-- An unshadowed announcement reaches the peer with its canonical fields. -/
theorem Unshadowed.delivered {a : AgentAnnouncement} (h : Unshadowed a) (ha : WellFormed a)
    (addresses : List IpAddr) : Delivered a addresses := by
  have hm := canonicalMetadata_mirrors a
  have hrequired : ∀ canonical ∈ [agentIdMetadataKey, agentRoleMetadataKey,
      agentProjectMetadataKey, agentBranchMetadataKey, agentStatusMetadataKey],
      (rebuildFirst toAsciiLowercase (canonicalMetadata a))[canonical]?=
        (canonicalMetadata a)[canonical]? := fun canonical hc =>
    h.getElem? (List.mem_append_left _ hc)
  simp only [List.forall_mem_cons] at hrequired
  obtain ⟨hid,hrole,hproject,hbranch,hstatus,-⟩ := hrequired
  have hdecoded := fromTxtProperties_of_metadata ha (metadataFromTxtProperties_transported a)
    (hid.trans hm.agentId) (hrole.trans hm.role) (hproject.trans hm.project)
    (hbranch.trans hm.branch) (hstatus.trans hm.status) (rebuildFirst_noBlankKey ha.keys)
    (h.capabilities ha) addresses
  exact ⟨_,hdecoded,rfl,rfl,rfl,rfl,rfl,rfl⟩

/-- A peer that decodes an announcement found all required keys and read its capabilities
from the capabilities key. -/
theorem fromTxtProperties_reads {instanceName : String} {port : UInt16} {addresses : List IpAddr}
    {properties : TxtProperties} {metadata : AgentMetadata} {b : AgentAnnouncement}
    (hdecode : metadataFromTxtProperties properties=.ok metadata)
    (h : fromTxtProperties instanceName port addresses properties=.ok b) :
    (∀ key ∈ [agentIdMetadataKey, agentRoleMetadataKey, agentProjectMetadataKey,
      agentBranchMetadataKey, agentStatusMetadataKey], metadata[key]? ≠ none) ∧
    capabilitiesFromMetadata metadata=.ok b.capabilities := by
  obtain ⟨decoded,_,_,_,_,_,_,hdecoded,hid,hrole,hproject,hbranch,hstatus,-,hnew⟩ :=
    fromTxtProperties_new h
  cases hdecode.symm.trans hdecoded
  refine ⟨?_,new_capabilities hnew⟩
  simp only [List.forall_mem_cons,getElem?_of_requiredMetadata hid,
    getElem?_of_requiredMetadata hrole,getElem?_of_requiredMetadata hproject,
    getElem?_of_requiredMetadata hbranch,getElem?_of_requiredMetadata hstatus]
  simp only [ne_eq,reduceCtorEq,not_false_eq_true,List.not_mem_nil,false_implies,implies_true,
    and_self]

/-- An announcement that reaches the peer with its canonical fields is unshadowed. -/
theorem Delivered.unshadowed {a : AgentAnnouncement} {addresses : List IpAddr}
    (h : Delivered a addresses) : Unshadowed a := by
  obtain ⟨b,hb,-,-,-,-,-,hcapabilities⟩ := h
  intro key hkey canonical hc hclass
  by_contra hne
  have hlost := getElem?_shadowed (Std.ExtTreeMap.mem_keys.mp hkey) (canonical_of_covered hc)
    hclass hne
  obtain ⟨hrequired,hread⟩ := fromTxtProperties_reads (metadataFromTxtProperties_transported a) hb
  unfold coveredKeys at hc
  rcases List.mem_append.mp hc with hc|hc
  · exact hrequired canonical hc hlost
  · split at hc
    · exact List.not_mem_nil hc
    · next hnil =>
      rw [List.mem_singleton] at hc
      rw [hc] at hlost
      rw [capabilitiesFromMetadata,hlost] at hread
      exact hnil (hcapabilities.symm.trans (Except.ok.inj hread).symm)

/-- The announcement of an accepted configuration, changed by any mutator calls, reaches
the peer with its canonical fields exactly when none of its metadata keys is another
spelling of a canonical key that is sent. -/
theorem delivered_iff_unshadowed (mac : Mac) {agentId role project branch : String}
    {port mdnsPort : UInt16} {serviceType : String} {initialStatus : AgentStatus}
    {heartbeatInterval ttl : Duration} {eventCapacity : UInt64} {capabilities : List String}
    {metadata : AgentMetadata} {config : ZeroConfConfig}
    (h : ZeroConfConfig.new agentId role project branch port mdnsPort serviceType initialStatus
      heartbeatInterval ttl eventCapacity capabilities metadata=.ok config) :
    ∃ built, config.localAnnouncement=.ok built ∧
      ∀ (mutators : List Mutator) (addresses : List IpAddr),
        Delivered (applyAll mac built mutators) addresses ↔
          Unshadowed (applyAll mac built mutators) := by
  obtain ⟨built,hbuilt,hdescribes⟩ := localAnnouncement_describes (new_sound h)
  refine ⟨built,hbuilt,fun mutators addresses => ⟨Delivered.unshadowed,fun hu => ?_⟩⟩
  exact hu.delivered (applyAll_wellFormed mac hdescribes.wellFormed mutators) addresses

/-- The small configuration without free-form metadata, under every sequence of calls. -/
theorem delivered_iff_unshadowed_sample :
    ∃ built, sampleConfig.localAnnouncement=.ok built ∧
      ∀ (mutators : List Mutator) (addresses : List IpAddr),
        Delivered (applyAll Mac.recorded built mutators) addresses ↔
          Unshadowed (applyAll Mac.recorded built mutators) :=
  delivered_iff_unshadowed Mac.recorded sampleConfig_new

/-- The constructor accepts the metadata key `Role`, and no peer can decode the announcement.
After `set_metadata("Status", "busy")` the status is missing, and after
`set_metadata("CAPABILITIES", "none")` the peer sees no capabilities. -/
theorem canonical_fields_shadowed :
    (do let config ← ZeroConfConfig.new "agent-local" "coder" "alpha" "main" 8080 5353
          "_agent-mesh._tcp.local." .idle 30000000000 120000000000 256 []
          (Std.ExtTreeMap.ofList [("Role","lead")])
        let built ← config.localAnnouncement
        received built [])=.error (.missingTxtProperty "role") ∧
    (do let built ← sampleConfig.localAnnouncement
        let a ← setMetadata built "Status" "busy"
        received a [])=.error (.missingTxtProperty "status") ∧
    (do let built ← { sampleConfig with capabilities := ["plan"] }.localAnnouncement
        let a ← setMetadata built "CAPABILITIES" "none"
        let b ← received a []
        return (a.capabilities,b.capabilities))=.ok (["plan"],[]) := by
  refine ⟨?_,?_,?_⟩ <;> decide +kernel

end MeshPresence.KeyShadowing

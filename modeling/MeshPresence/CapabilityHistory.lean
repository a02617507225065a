import Mathlib.Data.Finset.Sort
import MeshPresence.ValidatedConfig
import MeshPresence.AnnouncementMethods

/-!
# Announcements over their whole history

From the announcement of a validated configuration, any sequence of method calls keeps
the text fields normal, the mirrors equal to the typed fields, and the capability list
equal to the sorted set that the successful capability calls describe as replacement,
insertion and deletion of trimmed names. A failing call changes nothing.
-/

namespace MeshPresence.CapabilityHistory

open TextOperations FiniteMaps FallibleSteps AgentTypes AgentConfig AgentWire
open AnnouncementInvariant WireRoundTrip ValidatedConfig AnnouncementMethods

section Mirrors

variable {a : AgentAnnouncement}

/-- What a canonical key mirrors. -/
def mirrorOf (a : AgentAnnouncement) (key : String) : Option String :=
  if key=agentIdMetadataKey then some a.agentId
  else if key=agentRoleMetadataKey then some a.role
  else if key=agentProjectMetadataKey then some a.project
  else if key=agentBranchMetadataKey then some a.branch
  else if key=agentStatusMetadataKey then some a.status.asStr
  else if key=agentCapabilitiesMetadataKey then
    if a.capabilities=[] then none else some (join "," a.capabilities)
  else none

/-- The metadata mirrors the fields when every canonical key has its mirror. -/
theorem mirrors_iff :
    MirrorsFields a a.metadata ↔ ∀ key ∈ canonicalKeys, a.metadata[key]?=mirrorOf a key := by
  have hmirror : mirrorOf a agentIdMetadataKey=some a.agentId ∧
      mirrorOf a agentRoleMetadataKey=some a.role ∧
      mirrorOf a agentProjectMetadataKey=some a.project ∧
      mirrorOf a agentBranchMetadataKey=some a.branch ∧
      mirrorOf a agentStatusMetadataKey=some a.status.asStr ∧
      mirrorOf a agentCapabilitiesMetadataKey=
        if a.capabilities=[] then none else some (join "," a.capabilities) :=
    ⟨rfl,rfl,rfl,rfl,rfl,rfl⟩
  obtain ⟨hid,hrole,hproject,hbranch,hstatus,hcapabilities⟩ := hmirror
  simp only [canonicalKeys,List.forall_mem_cons,hid,hrole,hproject,hbranch,hstatus,hcapabilities]
  constructor
  · intro h
    exact ⟨h.agentId,h.role,h.project,h.branch,h.status,h.capabilities,
      fun _ hk => absurd hk List.not_mem_nil⟩
  · rintro ⟨hid,hrole,hproject,hbranch,hstatus,hcapabilities,-⟩
    exact ⟨hid,hrole,hproject,hbranch,hstatus,hcapabilities,fun _ _ => rfl⟩

/-- An announcement with new metadata mirrors its fields when the other keys are those of one
that mirrors its own, and the fields that they mirror are the same. -/
theorem mirrors_replace (h : MirrorsFields a a.metadata) {b : AgentAnnouncement} (changed : String)
    (hnew : changed ∈ canonicalKeys → b.metadata[changed]?=mirrorOf b changed)
    (hkept : ∀ key, changed ≠ key → b.metadata[key]?=a.metadata[key]?)
    (hsame : ∀ key, key ≠ changed → mirrorOf b key=mirrorOf a key) :
    MirrorsFields b b.metadata := by
  rw [mirrors_iff] at h ⊢
  intro key hkey
  by_cases he : changed=key
  · subst he
    exact hnew hkey
  · rw [hkept key he,hsame key (Ne.symm he)]
    exact h key hkey

/-- Writing under a key that mirrors no field keeps the mirrors. -/
theorem mirrors_insert (h : MirrorsFields a a.metadata) {key : String} (hkey : key ∉ canonicalKeys)
    (value : String) :
    MirrorsFields { a with metadata := a.metadata.insert key value }
      (a.metadata.insert key value) :=
  mirrors_replace h key (fun hm => absurd hm hkey)
    (fun _ he => getElem?_insert_ne a.metadata value he) fun _ _ => rfl

/-- Removing a key that mirrors no field keeps the mirrors. -/
theorem mirrors_erase (h : MirrorsFields a a.metadata) {key : String} (hkey : key ∉ canonicalKeys) :
    MirrorsFields { a with metadata := a.metadata.erase key } (a.metadata.erase key) :=
  mirrors_replace h key (fun hm => absurd hm hkey)
    (fun _ he => getElem?_erase_ne a.metadata he) fun _ _ => rfl

/-- Replacing the status with its mirror keeps the mirrors. -/
theorem mirrors_setStatus (h : MirrorsFields a a.metadata) (status : AgentStatus) :
    MirrorsFields (AgentTypes.setStatus a status) (AgentTypes.setStatus a status).metadata := by
  refine mirrors_replace h agentStatusMetadataKey (fun _ => ?_)
    (fun _ he => getElem?_insert_ne a.metadata _ he) fun key he => ?_
  · exact Std.ExtTreeMap.getElem?_insert_self
  · simp only [mirrorOf,if_neg he]
    rfl

/-- Replacing the project with its mirror keeps the mirrors. -/
theorem mirrors_project (h : MirrorsFields a a.metadata) (project : String) :
    MirrorsFields
      { a with project, metadata := a.metadata.insert agentProjectMetadataKey project }
      (a.metadata.insert agentProjectMetadataKey project) := by
  refine mirrors_replace h agentProjectMetadataKey (fun _ => ?_)
    (fun _ he => getElem?_insert_ne a.metadata _ he) fun key he => ?_
  · exact Std.ExtTreeMap.getElem?_insert_self
  · simp only [mirrorOf,if_neg he]

/-- Replacing the branch with its mirror keeps the mirrors. -/
theorem mirrors_branch (h : MirrorsFields a a.metadata) (branch : String) :
    MirrorsFields
      { a with branch, metadata := a.metadata.insert agentBranchMetadataKey branch }
      (a.metadata.insert agentBranchMetadataKey branch) := by
  refine mirrors_replace h agentBranchMetadataKey (fun _ => ?_)
    (fun _ he => getElem?_insert_ne a.metadata _ he) fun key he => ?_
  · exact Std.ExtTreeMap.getElem?_insert_self
  · simp only [mirrorOf,if_neg he]

/-- Replacing the capabilities with their mirror keeps the mirrors. -/
theorem mirrors_capabilities (h : MirrorsFields a a.metadata) (capabilities : List String) :
    MirrorsFields
      { a with capabilities, metadata := syncCapabilitiesMetadata a.metadata capabilities }
      (syncCapabilitiesMetadata a.metadata capabilities) := by
  refine mirrors_replace h agentCapabilitiesMetadataKey (fun _ => ?_) (fun key he => ?_)
    fun key he => ?_
  · rw [getElem?_sync,if_pos rfl]
    rfl
  · rw [getElem?_sync,if_neg he]
  · simp only [mirrorOf,if_neg he]

end Mirrors

/-- Keys that are not reserved mirror no field. -/
theorem unreserved_notMem {key : String} (h : isReservedMetadataKey key=false) :
    key ∉ canonicalKeys := by
  have hall : ∀ key ∈ canonicalKeys, isReservedMetadataKey key=true := by decide
  intro hkey
  rw [hall key hkey] at h
  cases h

/-- A successful runtime update keeps the mirrors. -/
theorem mirrors_update {a b : AgentAnnouncement} (h : MirrorsFields a a.metadata)
    {update : LocalUpdate} (hb : update.apply a=.ok b) : MirrorsFields b b.metadata := by
  cases update with
  | status status =>
    cases hb
    exact mirrors_setStatus h status
  | project value =>
    obtain ⟨project,-,hb⟩ := bind_ok hb
    cases hb
    exact mirrors_project h project
  | branch value =>
    obtain ⟨branch,-,hb⟩ := bind_ok hb
    cases hb
    exact mirrors_branch h branch
  | metadata key value =>
    obtain ⟨key,-,hb⟩ := bind_ok hb
    obtain ⟨hreserved,hb⟩ := reject_ok hb
    cases hb
    exact mirrors_insert h (unreserved_notMem (Bool.eq_false_iff.mpr hreserved)) value
  | removeMetadata key =>
    obtain ⟨key,-,hb⟩ := bind_ok hb
    obtain ⟨hreserved,hb⟩ := reject_ok hb
    cases hb
    exact mirrors_erase h (unreserved_notMem (Bool.eq_false_iff.mpr hreserved))
  | capabilities values =>
    obtain ⟨capabilities,-,hb⟩ := bind_ok hb
    cases hb
    exact mirrors_capabilities h capabilities
  | addCapability value =>
    obtain ⟨name,-,hb⟩ := bind_ok hb
    split at hb
    · cases hb
      exact h
    · cases hb
      exact mirrors_capabilities h _
  | removeCapability value =>
    obtain ⟨name,-,hb⟩ := bind_ok hb
    cases hb
    exact mirrors_capabilities h _

/-- Signing keeps the mirrors. -/
theorem mirrors_sign {a : AgentAnnouncement} (h : MirrorsFields a a.metadata) (mac : Mac)
    (auth : SharedSecretAuth) :
    MirrorsFields (AgentWire.applySharedSecretAuth mac a auth)
      (AgentWire.applySharedSecretAuth mac a auth).metadata :=
  mirrors_insert (mirrors_insert h (by decide) _) (by decide) _

/-- A successful mutator keeps the mirrors. -/
theorem mirrors_outcome {mac : Mac} {mutator : Mutator} {a b : AgentAnnouncement}
    (h : MirrorsFields a a.metadata) (hb : outcome mac a mutator=.ok b) :
    MirrorsFields b b.metadata := by
  cases mutator with
  | update call => exact mirrors_update h hb
  | applySharedSecretAuth auth =>
    cases hb
    exact mirrors_sign h mac auth

/-- The set that a capability call describes, from the set before it. -/
def interpretUpdate (names : Finset String) : LocalUpdate → Finset String
  | .capabilities values => (values.map trim).toFinset
  | .addCapability value => insert (trim value) names
  | .removeCapability value => names.erase (trim value)
  | _ => names

/-- The set that a mutator describes; signing names no capability. -/
def interpretCall (names : Finset String) : Mutator → Finset String
  | .update call => interpretUpdate names call
  | .applySharedSecretAuth _ => names

/-- The set that the successful calls of a sequence describe. -/
def capabilityHistory (mac : Mac) : AgentAnnouncement → Finset String → List Mutator →
    Finset String
  | _, names, [] => names
  | a, names, mutator :: rest =>
    let method := mutatorMethod mac mutator
    capabilityHistory mac (method.leaves a)
      (if method.succeeds a then interpretCall names mutator else names) rest

/-- Canonicalization lists the trimmed names. -/
theorem toFinset_canonicalizeCapabilities {values capabilities : List String}
    (h : canonicalizeCapabilities values=.ok capabilities) :
    capabilities.toFinset=(values.map trim).toFinset := by
  obtain ⟨normalized,hn,h⟩ := bind_ok h
  cases h
  ext name
  rw [List.mem_toFinset,mem_sortDedup,List.mem_toFinset,List.mem_map]
  constructor
  · intro hname
    obtain ⟨value,hvalue,hok⟩ := exists_of_mem_mapM hn hname
    exact ⟨value,hvalue,(normalizeCapability_iff.mp hok).2.symm⟩
  · rintro ⟨value,hvalue,rfl⟩
    obtain ⟨name,hname,hok⟩ := exists_mem_of_mapM hn hvalue
    rwa [←(normalizeCapability_iff.mp hok).2]

/-- A successful runtime update changes the set of capabilities as it describes. -/
theorem toFinset_update {a b : AgentAnnouncement} {update : LocalUpdate}
    (hb : update.apply a=.ok b) :
    b.capabilities.toFinset=interpretUpdate a.capabilities.toFinset update := by
  cases update with
  | status status =>
    cases hb
    rfl
  | project value =>
    obtain ⟨project,-,hb⟩ := bind_ok hb
    cases hb
    rfl
  | branch value =>
    obtain ⟨branch,-,hb⟩ := bind_ok hb
    cases hb
    rfl
  | metadata key value =>
    obtain ⟨key,-,hb⟩ := bind_ok hb
    obtain ⟨-,hb⟩ := reject_ok hb
    cases hb
    rfl
  | removeMetadata key =>
    obtain ⟨key,-,hb⟩ := bind_ok hb
    obtain ⟨-,hb⟩ := reject_ok hb
    cases hb
    rfl
  | capabilities values =>
    obtain ⟨capabilities,hc,hb⟩ := bind_ok hb
    cases hb
    exact toFinset_canonicalizeCapabilities hc
  | addCapability value =>
    obtain ⟨name,hname,hb⟩ := bind_ok hb
    rw [interpretUpdate,←(normalizeCapability_iff.mp hname).2]
    split at hb
    · next hlisted =>
      cases hb
      obtain ⟨entry,hentry,he⟩ := List.any_eq_true.mp hlisted
      rw [of_decide_eq_true he] at hentry
      exact (Finset.insert_eq_self.mpr (List.mem_toFinset.mpr hentry)).symm
    · cases hb
      ext entry
      rw [List.mem_toFinset,List.mem_insertionSort,List.mem_append,List.mem_singleton,
        Finset.mem_insert,List.mem_toFinset]
      exact or_comm
  | removeCapability value =>
    obtain ⟨name,hname,hb⟩ := bind_ok hb
    cases hb
    ext entry
    rw [interpretUpdate,←(normalizeCapability_iff.mp hname).2,List.mem_toFinset,List.mem_filter,
      Finset.mem_erase,List.mem_toFinset,decide_eq_true_eq]
    exact and_comm

/-- The strictly ascending listing of a set is its sorted list. -/
theorem sort_toFinset_of_ascending {names : List String} (h : names.Pairwise (· < ·)) :
    names.toFinset.sort (· ≤ ·)=names :=
  (List.toFinset_sort (· ≤ ·) (h.imp ne_of_lt)).mpr (h.imp le_of_lt)

/-- An announcement whose fields, mirrors and capability set belong together. -/
structure Consistent (names : Finset String) (a : AgentAnnouncement) : Prop where
  /-- Text fields are normal, capabilities canonical and keys nonblank. -/
  wellFormed : WellFormed a
  /-- The metadata mirrors the fields. -/
  mirrors : MirrorsFields a a.metadata
  /-- The capabilities list the set in ascending order. -/
  capabilities : a.capabilities=names.sort (· ≤ ·)

/-- The announcement of a sound configuration is consistent with the configured names. -/
theorem consistent_of_describes {config : ZeroConfConfig} {a : AgentAnnouncement}
    (h : Describes config a) : Consistent (configuredNames config).toFinset a := by
  refine ⟨h.wellFormed,h.mirrors,?_⟩
  have hset : (configuredNames config).toFinset=(sortDedup (configuredNames config)).toFinset := by
    ext name
    rw [List.mem_toFinset,List.mem_toFinset,mem_sortDedup]
  rw [h.capabilities,hset,sort_toFinset_of_ascending (pairwise_sortDedup _)]

/-- A successful mutator keeps an announcement consistent with the set it describes. -/
theorem Consistent.outcome {mac : Mac} {mutator : Mutator} {names : Finset String}
    {a b : AgentAnnouncement} (h : Consistent names a) (hb : outcome mac a mutator=.ok b) :
    Consistent (interpretCall names mutator) b := by
  have hmirrors := mirrors_outcome h.mirrors hb
  cases mutator with
  | update call =>
    have hwf : WellFormed b := update_wellFormed h.wellFormed hb
    have hset := toFinset_update hb
    rw [h.capabilities,Finset.sort_toFinset] at hset
    refine ⟨hwf,hmirrors,?_⟩
    rw [interpretCall,←hset,sort_toFinset_of_ascending hwf.capabilities.ascending]
  | applySharedSecretAuth auth =>
    cases hb
    exact ⟨applySharedSecretAuth_wellFormed h.wellFormed mac auth,hmirrors,h.capabilities⟩

/-- One method call keeps an announcement consistent; a failing call describes nothing. -/
theorem Consistent.call {mac : Mac} {names : Finset String} {a : AgentAnnouncement}
    (h : Consistent names a) (mutator : Mutator) :
    Consistent (if (mutatorMethod mac mutator).succeeds a then interpretCall names mutator
      else names) ((mutatorMethod mac mutator).leaves a) := by
  cases hs : (mutatorMethod mac mutator).succeeds a with
  | true => exact h.outcome (outcome_of_succeeds hs)
  | false =>
    rw [leaves_of_not_succeeds hs]
    exact h

/-- Every sequence of method calls keeps an announcement consistent with its history. -/
theorem Consistent.callAll {mac : Mac} {names : Finset String} {a : AgentAnnouncement}
    (h : Consistent names a) (mutators : List Mutator) :
    Consistent (capabilityHistory mac a names mutators) (callAll mac a mutators) := by
  induction mutators generalizing a names with
  | nil => exact h
  | cons mutator rest ih => exact ih (h.call mutator)

/-- The announcement of a validated configuration keeps its invariant through every
sequence of method calls, succeeding or failing: text fields are normal, the metadata
mirrors them, the capabilities are the sorted set that the successful calls describe, no
key is blank, and a call that fails leaves the announcement unchanged. -/
theorem announcement_invariant (mac : Mac) {config : ZeroConfConfig} (h : Validated config) :
    ∃ built, config.localAnnouncement=.ok built ∧ ∀ mutators : List Mutator,
      let a := callAll mac built mutators
      (Normal a.agentId ∧ Normal a.role ∧ Normal a.project ∧ Normal a.branch ∧
        Normal a.instanceName) ∧
      (a.metadata[agentIdMetadataKey]?=some a.agentId ∧
        a.metadata[agentRoleMetadataKey]?=some a.role ∧
        a.metadata[agentProjectMetadataKey]?=some a.project ∧
        a.metadata[agentBranchMetadataKey]?=some a.branch ∧
        a.metadata[agentStatusMetadataKey]?=some a.status.asStr) ∧
      CanonicalCapabilities a.capabilities ∧
      a.capabilities=(capabilityHistory mac built (configuredNames config).toFinset
        mutators).sort (· ≤ ·) ∧
      a.metadata[agentCapabilitiesMetadataKey]?=
        (if a.capabilities=[] then none else some (join "," a.capabilities)) ∧
      NoBlankKey a.metadata ∧
      ∀ (mutator : Mutator) (e : ZeroConfError) (b : AgentAnnouncement),
        (mutatorMethod mac mutator).run a=.error e b → b=a := by
  obtain ⟨built,hbuilt,hdescribes⟩ := localAnnouncement_describes (sound_of_validated h)
  refine ⟨built,hbuilt,fun mutators => ?_⟩
  have hc : Consistent (capabilityHistory mac built (configuredNames config).toFinset mutators)
      (callAll mac built mutators) := (consistent_of_describes hdescribes).callAll mutators
  have hw := hc.wellFormed
  have hm := hc.mirrors
  exact ⟨⟨hw.agentId,hw.role,hw.project,hw.branch,hw.instanceName⟩,
    ⟨hm.agentId,hm.role,hm.project,hm.branch,hm.status⟩,hw.capabilities,hc.capabilities,
    hm.capabilities,hw.keys,fun _ _ _ => run_error⟩

/-- The small configuration after updates of status, capabilities and metadata, and a
rejected write of a reserved key. -/
theorem announcement_invariant_sample :
    ∃ built, sampleConfig.localAnnouncement=.ok built ∧
      let a := callAll Mac.recorded built sampleUpdates
      Normal a.agentId ∧ a.metadata[agentStatusMetadataKey]?=some a.status.asStr ∧
      a.capabilities=(capabilityHistory Mac.recorded built (configuredNames sampleConfig).toFinset
        sampleUpdates).sort (· ≤ ·) := by
  obtain ⟨built,hbuilt,hall⟩ := announcement_invariant Mac.recorded sampleConfig_validated
  obtain ⟨hfields,hmirrors,-,hset,-⟩ := hall sampleUpdates
  exact ⟨built,hbuilt,hfields.1,hmirrors.2.2.2.2,hset⟩

end MeshPresence.CapabilityHistory

import MeshPresence.AgentWire
import MeshPresence.FallibleSteps

/-!
# What the constructor establishes and the mutators keep

Announcements accepted by the constructor have trimmed nonempty text fields, a
nonzero port, no blank metadata key and a canonical capability list. Every
mutator keeps this, and a mutator that fails changes nothing. Announcements are
therefore well formed after any sequence of mutators.
-/

namespace MeshPresence.AnnouncementInvariant

open TextOperations FiniteMaps FallibleSteps AgentTypes AgentConfig AgentWire

/-- Text that trimming keeps and that is not blank. -/
def Normal (s : String) : Prop := Trimmed s ∧ s ≠ ""

instance (s : String) : Decidable (Normal s) := inferInstanceAs (Decidable (_ ∧ _))

/-- Normal text is not blank. -/
theorem Normal.trim_ne {s : String} (h : Normal s) : trim s ≠ "" := by
  rw [show trim s=s from h.1]
  exact h.2

/-- What remains of nonblank text after trimming is normal. -/
theorem normal_trim {s : String} (h : trim s ≠ "") : Normal (trim s) := ⟨trimmed_trim s,h⟩

/-- The field check accepts exactly nonblank text, and trims it. -/
theorem normalizeRequired_iff {value field result : String} :
    normalizeRequired value field=.ok result ↔ trim value ≠ "" ∧ result=trim value := by
  unfold normalizeRequired
  split
  · next h => simp only [reduceCtorEq,ne_eq,h,not_true_eq_false,false_and]
  · next h => simp only [Except.ok.injEq,ne_eq,h,not_false_eq_true,true_and,eq_comm]

/-- A required field is normalized to normal text, namely its trimmed input. -/
theorem normalizeRequired_ok {value field result : String}
    (h : normalizeRequired value field=.ok result) : result=trim value ∧ Normal result := by
  obtain ⟨hne,rfl⟩ := normalizeRequired_iff.mp h
  exact ⟨rfl,normal_trim hne⟩

/-- A metadata key passes exactly when it is not blank, and is trimmed. -/
theorem normalizeMetadataKey_iff {key result : String} :
    normalizeMetadataKey key=.ok result ↔ trim key ≠ "" ∧ result=trim key := by
  unfold normalizeMetadataKey
  split
  · next h => simp only [reduceCtorEq,ne_eq,h,not_true_eq_false,false_and]
  · next h => simp only [Except.ok.injEq,ne_eq,h,not_false_eq_true,true_and,eq_comm]

/-- A metadata key is normalized to normal text. -/
theorem normalizeMetadataKey_ok {key result : String} (h : normalizeMetadataKey key=.ok result) :
    Normal result := by
  obtain ⟨hne,rfl⟩ := normalizeMetadataKey_iff.mp h
  exact normal_trim hne

/-- A capability name: normal text without the list separator. -/
def CapabilityName (s : String) : Prop := Normal s ∧ ',' ∉ s.toList

/-- A capability passes exactly when it is neither blank nor has a comma, and is trimmed. -/
theorem normalizeCapability_iff {capability result : String} :
    normalizeCapability capability=.ok result ↔
      (trim capability ≠ "" ∧ ',' ∉ (trim capability).toList) ∧ result=trim capability := by
  simp only [normalizeCapability]
  split
  · next h => simp only [reduceCtorEq,ne_eq,h,not_true_eq_false,false_and]
  · next h =>
    split
    · next hc => simp only [reduceCtorEq,hc,not_true_eq_false,and_false,false_and]
    · next hc => simp only [Except.ok.injEq,ne_eq,h,hc,not_false_eq_true,true_and,eq_comm]

/-- A capability is normalized to a capability name. -/
theorem normalizeCapability_ok {capability result : String}
    (h : normalizeCapability capability=.ok result) : CapabilityName result := by
  obtain ⟨⟨hne,hc⟩,rfl⟩ := normalizeCapability_iff.mp h
  exact ⟨normal_trim hne,hc⟩

/-- Capability names pass the capability check unchanged. -/
theorem normalizeCapability_name {s : String} (h : CapabilityName s) :
    normalizeCapability s=.ok s := by
  have ht : trim s=s := h.1.1
  simp only [normalizeCapability,ht,if_neg h.1.2,if_neg h.2]

/-- Capability lists as they are advertised: names in strictly ascending order. -/
structure CanonicalCapabilities (capabilities : List String) : Prop where
  /-- Every entry is a capability name. -/
  names : ∀ capability ∈ capabilities, CapabilityName capability
  /-- The entries ascend strictly. -/
  ascending : capabilities.Pairwise (· < ·)

/-- The empty list is canonical. -/
theorem CanonicalCapabilities.nil : CanonicalCapabilities [] where
  names := fun _ h => absurd h List.not_mem_nil
  ascending := List.Pairwise.nil

/-- Canonicalization produces canonical lists. -/
theorem canonicalizeCapabilities_ok {capabilities result : List String}
    (h : canonicalizeCapabilities capabilities=.ok result) : CanonicalCapabilities result := by
  obtain ⟨normalized,hn,h⟩ := bind_ok h
  cases h
  refine ⟨fun capability hc => ?_,pairwise_sortDedup normalized⟩
  obtain ⟨raw,-,hraw⟩ := exists_of_mem_mapM hn (mem_sortDedup.mp hc)
  exact normalizeCapability_ok hraw

/-- Canonical lists pass canonicalization unchanged. -/
theorem canonicalizeCapabilities_canonical {capabilities : List String}
    (h : CanonicalCapabilities capabilities) :
    canonicalizeCapabilities capabilities=.ok capabilities := by
  have hm : capabilities.mapM normalizeCapability=.ok capabilities :=
    mapM_of_forall₂ (List.forall₂_same.mpr fun c hc => normalizeCapability_name (h.names c hc))
  rw [canonicalizeCapabilities,hm,ok_bind,sortDedup_of_pairwise h.ascending]
  rfl

/-- Adding a missing name in its place keeps a list canonical. -/
theorem CanonicalCapabilities.add {capabilities : List String}
    (h : CanonicalCapabilities capabilities) {capability : String}
    (hname : CapabilityName capability) (hnew : capability ∉ capabilities) :
    CanonicalCapabilities ((capabilities ++ [capability]).insertionSort (· ≤ ·)) where
  names := fun c hc => by
    rw [List.mem_insertionSort,List.mem_append,List.mem_singleton] at hc
    rcases hc with hc|rfl
    · exact h.names c hc
    · exact hname
  ascending := by
    have hnodup : (capabilities ++ [capability]).Nodup := by
      rw [←List.concat_eq_append]
      exact List.Nodup.concat hnew (h.ascending.imp ne_of_lt)
    have hsorted := List.pairwise_insertionSort (· ≤ ·) (capabilities ++ [capability])
    have hdistinct : ((capabilities ++ [capability]).insertionSort (· ≤ ·)).Pairwise (· ≠ ·) :=
      (List.perm_insertionSort (· ≤ ·) _).nodup_iff.mpr hnodup
    exact (hsorted.and hdistinct).imp fun h => lt_of_le_of_ne h.1 h.2

/-- Dropping entries keeps a list canonical. -/
theorem CanonicalCapabilities.filter {capabilities : List String}
    (h : CanonicalCapabilities capabilities) (p : String → Bool) :
    CanonicalCapabilities (capabilities.filter p) where
  names := fun c hc => h.names c (List.mem_of_mem_filter hc)
  ascending := h.ascending.filter p

/-- No metadata key is blank. -/
def NoBlankKey (metadata : AgentMetadata) : Prop := ∀ key ∈ metadata, trim key ≠ ""

/-- Writing under a key that is not blank keeps the keys nonblank. -/
theorem NoBlankKey.insert {metadata : AgentMetadata} (h : NoBlankKey metadata) {key : String}
    (hkey : trim key ≠ "") (value : String) : NoBlankKey (metadata.insert key value) := by
  intro k hk
  rcases Std.ExtTreeMap.mem_insert.mp hk with he|hm
  · rwa [←Std.LawfulEqOrd.compare_eq_iff_eq.mp he]
  · exact h k hm

/-- Removing an entry keeps the keys nonblank. -/
theorem NoBlankKey.erase {metadata : AgentMetadata} (h : NoBlankKey metadata) (key : String) :
    NoBlankKey (metadata.erase key) := fun k hk => h k (Std.ExtTreeMap.mem_of_mem_erase hk)

/-- Mirroring the capabilities keeps the keys nonblank. -/
theorem NoBlankKey.sync {metadata : AgentMetadata} (h : NoBlankKey metadata)
    (capabilities : List String) : NoBlankKey (syncCapabilitiesMetadata metadata capabilities) := by
  unfold syncCapabilitiesMetadata
  split
  · exact h.erase _
  · exact h.insert (by decide) _

/-- The check of the constructor is the absence of blank keys. -/
theorem anyBlankKey_iff {metadata : AgentMetadata} :
    (metadata.keys.any fun key => trim key="")=true ↔ ¬NoBlankKey metadata := by
  simp only [List.any_eq_true,Std.ExtTreeMap.mem_keys,decide_eq_true_eq,NoBlankKey,not_forall,
    not_not,exists_prop]

/-- Announcements as the constructor and the mutators leave them. -/
structure WellFormed (a : AgentAnnouncement) : Prop where
  /-- Trimmed nonempty instance name. -/
  instanceName : Normal a.instanceName
  /-- Trimmed nonempty agent identifier. -/
  agentId : Normal a.agentId
  /-- Trimmed nonempty role. -/
  role : Normal a.role
  /-- Trimmed nonempty project. -/
  project : Normal a.project
  /-- Trimmed nonempty branch. -/
  branch : Normal a.branch
  /-- The advertised port is not zero. -/
  port : a.port ≠ 0
  /-- The capability list is canonical. -/
  capabilities : CanonicalCapabilities a.capabilities
  /-- No metadata key is blank. -/
  keys : NoBlankKey a.metadata

/-- The constructor accepts exactly nonblank fields with a port, nonblank keys and a readable
capability list, trims the fields and mirrors the capabilities. -/
theorem new_iff {instanceName agentId role project branch : String} {status : AgentStatus}
    {port : UInt16} {addresses : List IpAddr} {metadata : AgentMetadata} {a : AgentAnnouncement} :
    AgentAnnouncement.new instanceName agentId role project branch status port addresses metadata=
        .ok a ↔
      (trim instanceName ≠ "" ∧ trim agentId ≠ "" ∧ trim role ≠ "" ∧ trim project ≠ "" ∧
        trim branch ≠ "" ∧ port ≠ 0 ∧ NoBlankKey metadata) ∧
      ∃ capabilities, capabilitiesFromMetadata metadata=.ok capabilities ∧
        a={ instanceName := trim instanceName, agentId := trim agentId, role := trim role
            project := trim project, branch := trim branch, status, capabilities, port, addresses
            metadata := syncCapabilitiesMetadata metadata capabilities } := by
  constructor
  · intro h
    obtain ⟨_,hinstance,h⟩ := bind_ok h
    obtain ⟨_,hid,h⟩ := bind_ok h
    obtain ⟨_,hrole,h⟩ := bind_ok h
    obtain ⟨_,hproject,h⟩ := bind_ok h
    obtain ⟨_,hbranch,h⟩ := bind_ok h
    obtain ⟨hport,h⟩ := reject_ok h
    obtain ⟨hkeys,h⟩ := reject_ok h
    obtain ⟨capabilities,hcap,h⟩ := bind_ok h
    obtain ⟨hinstancene,rfl⟩ := normalizeRequired_iff.mp hinstance
    obtain ⟨hidne,rfl⟩ := normalizeRequired_iff.mp hid
    obtain ⟨hrolene,rfl⟩ := normalizeRequired_iff.mp hrole
    obtain ⟨hprojectne,rfl⟩ := normalizeRequired_iff.mp hproject
    obtain ⟨hbranchne,rfl⟩ := normalizeRequired_iff.mp hbranch
    have hblank : NoBlankKey metadata := not_not.mp fun hb => hkeys (anyBlankKey_iff.mpr hb)
    exact ⟨⟨hinstancene,hidne,hrolene,hprojectne,hbranchne,hport,hblank⟩,capabilities,hcap,
      (Except.ok.inj h).symm⟩
  · rintro ⟨⟨hinstance,hid,hrole,hproject,hbranch,hport,hblank⟩,capabilities,hcap,rfl⟩
    have hany : ¬(metadata.keys.any fun key => trim key="")=true := fun h =>
      anyBlankKey_iff.mp h hblank
    simp only [AgentAnnouncement.new,normalizeRequired,if_neg hinstance,if_neg hid,if_neg hrole,
      if_neg hproject,if_neg hbranch,ok_bind,if_neg hport,if_neg hany,hcap]
    rfl

/-- What the constructor checked and what it built. -/
theorem new_ok {instanceName agentId role project branch : String} {status : AgentStatus}
    {port : UInt16} {addresses : List IpAddr} {metadata : AgentMetadata} {a : AgentAnnouncement}
    (h : AgentAnnouncement.new instanceName agentId role project branch status port addresses
      metadata=.ok a) :
    WellFormed a ∧ a.instanceName=trim instanceName ∧ a.agentId=trim agentId ∧
      a.metadata=syncCapabilitiesMetadata metadata a.capabilities := by
  obtain ⟨⟨hinstance,hid,hrole,hproject,hbranch,hport,hblank⟩,capabilities,hcap,rfl⟩ :=
    new_iff.mp h
  have hcanonical : CanonicalCapabilities capabilities := by
    unfold capabilitiesFromMetadata at hcap
    split at hcap
    · exact canonicalizeCapabilities_ok hcap
    · cases hcap
      exact CanonicalCapabilities.nil
  exact ⟨⟨normal_trim hinstance,normal_trim hid,normal_trim hrole,normal_trim hproject,
    normal_trim hbranch,hport,hcanonical,hblank.sync capabilities⟩,rfl,rfl,rfl⟩

/-- The decoder calls the constructor with the required values of the decoded metadata. -/
theorem fromTxtProperties_new {instanceName : String} {port : UInt16} {addresses : List IpAddr}
    {properties : TxtProperties} {a : AgentAnnouncement}
    (h : fromTxtProperties instanceName port addresses properties=.ok a) :
    ∃ metadata agentId role project branch text status,
      metadataFromTxtProperties properties=.ok metadata ∧
      requiredMetadata metadata agentIdMetadataKey=.ok agentId ∧
      requiredMetadata metadata agentRoleMetadataKey=.ok role ∧
      requiredMetadata metadata agentProjectMetadataKey=.ok project ∧
      requiredMetadata metadata agentBranchMetadataKey=.ok branch ∧
      requiredMetadata metadata agentStatusMetadataKey=.ok text ∧
      AgentStatus.fromStr text=.ok status ∧
      AgentAnnouncement.new instanceName agentId role project branch status port addresses
        metadata=.ok a := by
  obtain ⟨metadata,hmetadata,h⟩ := bind_ok h
  obtain ⟨agentId,hid,h⟩ := bind_ok h
  obtain ⟨role,hrole,h⟩ := bind_ok h
  obtain ⟨project,hproject,h⟩ := bind_ok h
  obtain ⟨branch,hbranch,h⟩ := bind_ok h
  obtain ⟨text,htext,h⟩ := bind_ok h
  obtain ⟨status,hstatus,hnew⟩ := bind_ok h
  exact ⟨metadata,agentId,role,project,branch,text,status,hmetadata,hid,hrole,hproject,hbranch,htext,
    hstatus,hnew⟩

/-- The constructor reads the capabilities from the metadata. -/
theorem new_capabilities {instanceName agentId role project branch : String} {status : AgentStatus}
    {port : UInt16} {addresses : List IpAddr} {metadata : AgentMetadata} {a : AgentAnnouncement}
    (h : AgentAnnouncement.new instanceName agentId role project branch status port addresses
      metadata=.ok a) : capabilitiesFromMetadata metadata=.ok a.capabilities := by
  obtain ⟨-,capabilities,hcap,rfl⟩ := new_iff.mp h
  exact hcap

/-- The constructor accepts normal fields, a nonzero port and nonblank keys, and
keeps the fields. -/
theorem new_of_normal {instanceName agentId role project branch : String} {status : AgentStatus}
    {port : UInt16} {addresses : List IpAddr} {metadata : AgentMetadata}
    {capabilities : List String} (hinstance : Normal instanceName) (hid : Normal agentId)
    (hrole : Normal role) (hproject : Normal project) (hbranch : Normal branch) (hport : port ≠ 0)
    (hkeys : NoBlankKey metadata) (hcap : capabilitiesFromMetadata metadata=.ok capabilities) :
    AgentAnnouncement.new instanceName agentId role project branch status port addresses metadata=
      .ok { instanceName, agentId, role, project, branch, status, capabilities, port, addresses,
            metadata := syncCapabilitiesMetadata metadata capabilities } := by
  refine new_iff.mpr ⟨⟨hinstance.trim_ne,hid.trim_ne,hrole.trim_ne,hproject.trim_ne,
    hbranch.trim_ne,hport,hkeys⟩,capabilities,hcap,?_⟩
  rw [show trim instanceName=instanceName from hinstance.1,show trim agentId=agentId from hid.1,
    show trim role=role from hrole.1,show trim project=project from hproject.1,
    show trim branch=branch from hbranch.1]

/-- Replacing the status keeps an announcement well formed. -/
theorem setStatus_wellFormed {a : AgentAnnouncement} (h : WellFormed a) (status : AgentStatus) :
    WellFormed (setStatus a status) :=
  { h with keys := h.keys.insert (by decide) _ }

/-- Installing canonical capabilities keeps an announcement well formed. -/
theorem WellFormed.withCapabilities {a : AgentAnnouncement} (h : WellFormed a)
    {capabilities : List String} (hc : CanonicalCapabilities capabilities) :
    WellFormed { a with capabilities
                        metadata := syncCapabilitiesMetadata a.metadata capabilities } :=
  { h with capabilities := hc, keys := h.keys.sync capabilities }

/-- Replacing the capabilities keeps an announcement well formed. -/
theorem setCapabilities_wellFormed {a b : AgentAnnouncement} (h : WellFormed a)
    {capabilities : List String} (hb : setCapabilities a capabilities=.ok b) : WellFormed b := by
  obtain ⟨canonical,hc,hb⟩ := bind_ok hb
  cases hb
  exact h.withCapabilities (canonicalizeCapabilities_ok hc)

/-- Adding a capability keeps an announcement well formed. -/
theorem addCapability_wellFormed {a b : AgentAnnouncement} (h : WellFormed a) {capability : String}
    (hb : addCapability a capability=.ok b) : WellFormed b := by
  obtain ⟨name,hname,hb⟩ := bind_ok hb
  split at hb
  · cases hb
    exact h
  · next hnew =>
    cases hb
    refine h.withCapabilities (h.capabilities.add (normalizeCapability_ok hname) fun hm => ?_)
    exact hnew (List.any_eq_true.mpr ⟨name,hm,decide_eq_true rfl⟩)

/-- Removing a capability keeps an announcement well formed. -/
theorem removeCapability_wellFormed {a b : AgentAnnouncement} (h : WellFormed a)
    {capability : String} (hb : removeCapability a capability=.ok b) : WellFormed b := by
  obtain ⟨name,-,hb⟩ := bind_ok hb
  cases hb
  exact h.withCapabilities (h.capabilities.filter _)

/-- Replacing the project keeps an announcement well formed. -/
theorem setProject_wellFormed {a b : AgentAnnouncement} (h : WellFormed a) {project : String}
    (hb : setProject a project=.ok b) : WellFormed b := by
  obtain ⟨project',hp,hb⟩ := bind_ok hb
  cases hb
  exact { h with project := (normalizeRequired_ok hp).2, keys := h.keys.insert (by decide) _ }

/-- Replacing the branch keeps an announcement well formed. -/
theorem setBranch_wellFormed {a b : AgentAnnouncement} (h : WellFormed a) {branch : String}
    (hb : setBranch a branch=.ok b) : WellFormed b := by
  obtain ⟨branch',hp,hb⟩ := bind_ok hb
  cases hb
  exact { h with branch := (normalizeRequired_ok hp).2, keys := h.keys.insert (by decide) _ }

/-- Writing metadata keeps an announcement well formed. -/
theorem setMetadata_wellFormed {a b : AgentAnnouncement} (h : WellFormed a) {key value : String}
    (hb : setMetadata a key value=.ok b) : WellFormed b := by
  obtain ⟨key',hk,hb⟩ := bind_ok hb
  obtain ⟨-,hb⟩ := reject_ok hb
  cases hb
  exact { h with keys := h.keys.insert (normalizeMetadataKey_ok hk).trim_ne _ }

/-- Removing metadata keeps an announcement well formed. -/
theorem removeMetadata_wellFormed {a b : AgentAnnouncement} (h : WellFormed a) {key : String}
    (hb : removeMetadata a key=.ok b) : WellFormed b := by
  obtain ⟨key',-,hb⟩ := bind_ok hb
  obtain ⟨-,hb⟩ := reject_ok hb
  cases hb
  exact { h with keys := h.keys.erase _ }

/-- Signing keeps an announcement well formed. -/
theorem applySharedSecretAuth_wellFormed {a : AgentAnnouncement} (h : WellFormed a) (mac : Mac)
    (auth : SharedSecretAuth) : WellFormed (applySharedSecretAuth mac a auth) :=
  { h with keys := (h.keys.insert (by decide) _).insert (by decide) _ }

/-- A successful runtime update keeps an announcement well formed. -/
theorem update_wellFormed {a b : AgentAnnouncement} (h : WellFormed a) {update : LocalUpdate}
    (hb : update.apply a=.ok b) : WellFormed b := by
  cases update with
  | status status =>
    cases hb
    exact setStatus_wellFormed h status
  | project project => exact setProject_wellFormed h hb
  | branch branch => exact setBranch_wellFormed h hb
  | metadata key value => exact setMetadata_wellFormed h hb
  | removeMetadata key => exact removeMetadata_wellFormed h hb
  | capabilities capabilities => exact setCapabilities_wellFormed h hb
  | addCapability capability => exact addCapability_wellFormed h hb
  | removeCapability capability => exact removeCapability_wellFormed h hb

/-- The mutators of an announcement. -/
inductive Mutator where
  /-- One of the fallible updates. -/
  | update (call : LocalUpdate)
  /-- `apply_shared_secret_auth`. -/
  | applySharedSecretAuth (auth : SharedSecretAuth)
  deriving DecidableEq

/-- The announcement after one mutator call; a failing call changes nothing. -/
def Mutator.apply (mac : Mac) (a : AgentAnnouncement) : Mutator → AgentAnnouncement
  | .update call => (call.apply a).toOption.getD a
  | .applySharedSecretAuth auth => AgentWire.applySharedSecretAuth mac a auth

/-- The announcement after a sequence of mutator calls. -/
def applyAll (mac : Mac) (a : AgentAnnouncement) (mutators : List Mutator) : AgentAnnouncement :=
  mutators.foldl (Mutator.apply mac) a

/-- Any sequence of mutator calls keeps an announcement well formed. -/
theorem applyAll_wellFormed (mac : Mac) {a : AgentAnnouncement} (h : WellFormed a)
    (mutators : List Mutator) : WellFormed (applyAll mac a mutators) := by
  refine List.foldlRecOn mutators (Mutator.apply mac) h fun b hb mutator _ => ?_
  cases mutator with
  | update call =>
    cases hu : call.apply b with
    | error e => simpa only [Mutator.apply,hu,Except.toOption,Option.getD_none] using hb
    | ok c =>
      simpa only [Mutator.apply,hu,Except.toOption,Option.getD_some] using update_wellFormed hb hu
  | applySharedSecretAuth auth => exact applySharedSecretAuth_wellFormed hb mac auth

/-- Updates of status, capabilities and metadata. -/
def sampleUpdates : List Mutator :=
  [.update (.status .busy),.update (.capabilities ["review "," plan","plan"]),
   .update (.metadata " team" "blue"),.update (.metadata "status" "idle")]

end MeshPresence.AnnouncementInvariant

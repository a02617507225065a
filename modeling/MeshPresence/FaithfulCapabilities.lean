import MeshPresence.ValidatedConfig

/-!
# When the local announcement lists the configured capabilities

The validation does not look at the capabilities. They reach the announcement
as one comma-separated text that is split again, so a name that contains a
comma falls into pieces and a blank one disappears. The announcement lists
exactly the configured names when every name is nonblank and free of commas,
which is what the builder checks before it constructs the configuration.
-/

namespace MeshPresence.FaithfulCapabilities

open TextOperations FiniteMaps FallibleSteps AgentTypes AgentConfig AnnouncementInvariant
open WireRoundTrip ValidatedConfig

/-- The local announcement says what the configuration says. -/
structure SaysConfig (config : ZeroConfConfig) (a : AgentAnnouncement) : Prop where
  /-- Identity, status and port are those of the configuration. -/
  fields : a.agentId=config.agentId ∧ a.role=config.role ∧ a.project=config.project ∧
    a.branch=config.branch ∧ a.status=config.initialStatus ∧ a.port=config.port
  /-- The capabilities are sorted and free of duplicates. -/
  ascending : a.capabilities.Pairwise (· < ·)
  /-- The capabilities are the trimmed configured names. -/
  capabilities : ∀ name, name ∈ a.capabilities ↔ ∃ raw ∈ config.capabilities, name=trim raw
  /-- The canonical keys of the metadata mirror the fields. -/
  mirrors : MirrorsFields a a.metadata
  /-- Every other key of the metadata is as configured. -/
  metadata : ∀ key, key ∉ canonicalKeys → a.metadata[key]?=config.metadata[key]?

/-- The configured names can be joined with commas and split again. -/
def Advertisable (capabilities : List String) : Prop :=
  ∀ raw ∈ capabilities, trim raw ≠ "" ∧ ',' ∉ raw.toList

instance (capabilities : List String) : Decidable (Advertisable capabilities) :=
  inferInstanceAs (Decidable (∀ raw ∈ capabilities, _))

/-- Names are advertisable exactly when the check of the builder accepts them. -/
theorem advertisable_iff {capabilities : List String} :
    Advertisable capabilities ↔ ∃ names, canonicalizeCapabilities capabilities=.ok names := by
  have hcomma : ∀ raw : String, ',' ∈ (trim raw).toList ↔ ',' ∈ raw.toList := fun raw =>
    ⟨mem_of_mem_trim,fun h => mem_trim_of_mem h (by decide)⟩
  constructor
  · intro h
    have heach : ∀ raw ∈ capabilities, ∃ name, normalizeCapability raw=.ok name := by
      intro raw hraw
      obtain ⟨hne,hfree⟩ := h raw hraw
      exact ⟨trim raw,normalizeCapability_iff.mpr ⟨⟨hne,mt (hcomma raw).mp hfree⟩,rfl⟩⟩
    obtain ⟨names,hnames⟩ := exists_mapM_ok heach
    exact ⟨sortDedup names,by rw [canonicalizeCapabilities,hnames]; rfl⟩
  · rintro ⟨names,h⟩ raw hraw
    obtain ⟨normalized,hn,-⟩ := bind_ok h
    obtain ⟨name,-,hname⟩ := exists_mem_of_mapM hn hraw
    obtain ⟨⟨hne,hfree⟩,-⟩ := normalizeCapability_iff.mp hname
    exact ⟨hne,mt (hcomma raw).mpr hfree⟩

/-- A text without commas is its only piece. -/
theorem split_of_notMem {raw : String} (h : ',' ∉ raw.toList) : split ',' raw=[raw] := by
  have hjoin := split_join ',' (List.cons_ne_nil raw []) fun s hs => List.mem_singleton.mp hs ▸ h
  rwa [join,String.intercalate_singleton] at hjoin

/-- The pieces of advertisable names are the trimmed names. -/
theorem mem_configuredNames {config : ZeroConfConfig} (h : Advertisable config.capabilities)
    {name : String} :
    name ∈ configuredNames config ↔ ∃ raw ∈ config.capabilities, name=trim raw := by
  simp only [configuredNames,List.mem_filter,List.mem_map,List.mem_flatMap,decide_eq_true_eq]
  constructor
  · rintro ⟨⟨piece,⟨raw,hraw,hpiece⟩,rfl⟩,-⟩
    rw [split_of_notMem (h raw hraw).2,List.mem_singleton] at hpiece
    exact ⟨raw,hraw,hpiece ▸ rfl⟩
  · rintro ⟨raw,hraw,rfl⟩
    obtain ⟨hne,hfree⟩ := h raw hraw
    exact ⟨⟨raw,⟨raw,hraw,split_of_notMem hfree ▸ List.mem_singleton_self raw⟩,rfl⟩,hne⟩

/-- An announcement that describes a configuration with advertisable names says what it says. -/
theorem Describes.faithful {config : ZeroConfConfig} {a : AgentAnnouncement} (h : Describes config a)
    (hadvertisable : Advertisable config.capabilities) : SaysConfig config a where
  fields := h.fields.2
  ascending := h.wellFormed.capabilities.ascending
  capabilities := fun name => by
    rw [h.capabilities,mem_sortDedup,mem_configuredNames hadvertisable]
  mirrors := h.mirrors
  metadata := h.configured

/-- A listing of all trimmed names as capability names makes them advertisable. -/
theorem SaysConfig.advertisable {config : ZeroConfConfig} {a : AgentAnnouncement}
    (h : SaysConfig config a) (ha : WellFormed a) : Advertisable config.capabilities := by
  intro raw hraw
  have hlisted : trim raw ∈ a.capabilities := (h.capabilities _).mpr ⟨raw,hraw,rfl⟩
  have hname : CapabilityName (trim raw) := ha.capabilities.names _ hlisted
  exact ⟨hname.1.2,fun hcomma => hname.2 (mem_trim_of_mem hcomma (by decide))⟩

/-- An accepted configuration is announced as it says exactly when every configured capability
is nonblank and free of commas. -/
theorem saysConfig_iff_advertisable {agentId role project branch : String}
    {port mdnsPort : UInt16} {serviceType : String} {initialStatus : AgentStatus}
    {heartbeatInterval ttl : Duration} {eventCapacity : UInt64} {capabilities : List String}
    {metadata : AgentMetadata} {config : ZeroConfConfig}
    (h : ZeroConfConfig.new agentId role project branch port mdnsPort serviceType initialStatus
      heartbeatInterval ttl eventCapacity capabilities metadata=.ok config) :
    (∃ a, config.localAnnouncement=.ok a ∧ SaysConfig config a) ↔
      ∀ raw ∈ config.capabilities, trim raw ≠ "" ∧ ',' ∉ raw.toList := by
  obtain ⟨a,ha,hdescribes⟩ := localAnnouncement_describes (new_sound h)
  constructor
  · rintro ⟨b,hb,hfaithful⟩
    cases ha.symm.trans hb
    exact hfaithful.advertisable hdescribes.wellFormed
  · exact fun hadvertisable => ⟨a,ha,Describes.faithful hdescribes hadvertisable⟩

/-- Arguments with padded and repeated capabilities. -/
def untidyConfig : Except ZeroConfError ZeroConfConfig :=
  ZeroConfConfig.new "agent-local" "coder" "alpha" "main" 8080 5353 "_agent-mesh._tcp.local." .idle
    30000000000 120000000000 256 [" review","plan","review "] (Std.ExtTreeMap.ofList [("team","blue")])

/-- They are announced in canonical form. -/
theorem saysConfig_iff_advertisable_untidy :
    ∃ config, untidyConfig=.ok config ∧
      ∃ a, config.localAnnouncement=.ok a ∧ SaysConfig config a := by
  have hread : untidyConfig.toOption.map (fun config => config.capabilities)=
      some [" review","plan","review "] := by
    decide +kernel
  obtain ⟨config,hconfig,hcap⟩ := Option.map_eq_some_iff.mp hread
  have hok := ok_of_toOption hconfig
  refine ⟨config,hok,(saysConfig_iff_advertisable hok).mpr ?_⟩
  rw [hcap]
  decide +kernel

/-- Arguments with a capability that contains a comma and a blank one. -/
def unfaithfulConfig : Except ZeroConfError ZeroConfConfig :=
  ZeroConfConfig.new "agent-local" "coder" "alpha" "main" 8080 5353 "_agent-mesh._tcp.local." .idle
    30000000000 120000000000 256 ["plan,review"," "] ∅

/-- The constructor accepts them, the announcement lists two other names, and the check of the
builder rejects them. -/
theorem unfaithful_config_accepted :
    ∃ config, unfaithfulConfig=.ok config ∧ config.capabilities=["plan,review"," "] ∧
      (∃ a, config.localAnnouncement=.ok a ∧ a.capabilities=["plan","review"]) ∧
      (¬∃ a, config.localAnnouncement=.ok a ∧ SaysConfig config a) ∧
      canonicalizeCapabilities config.capabilities=.error (.invalidCapability "plan,review") := by
  have hread : unfaithfulConfig.toOption.map (fun config =>
      (config.capabilities,config.localAnnouncement.toOption.map AgentAnnouncement.capabilities))=
        some (["plan,review"," "],some ["plan","review"]) := by
    decide +kernel
  obtain ⟨config,hconfig,hpair⟩ := Option.map_eq_some_iff.mp hread
  obtain ⟨hcap,hannounced⟩ := Prod.mk.inj hpair
  obtain ⟨a,ha,hlisted⟩ := Option.map_eq_some_iff.mp hannounced
  have hok := ok_of_toOption ha
  refine ⟨config,ok_of_toOption hconfig,hcap,⟨a,hok,hlisted⟩,?_,by rw [hcap]; decide +kernel⟩
  rintro ⟨b,hb,hfaithful⟩
  cases hok.symm.trans hb
  have hmem := (hfaithful.capabilities "plan,review").mpr
    ⟨"plan,review",hcap ▸ List.mem_cons_self,by decide +kernel⟩
  rw [hlisted] at hmem
  exact absurd hmem (by decide)

end MeshPresence.FaithfulCapabilities

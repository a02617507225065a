import MeshPresence.PeerGrammar

/-!
# Build-time and run-time rules for metadata keys

The validation of a configuration looks at metadata keys as they are written;
the runtime update trims a key before it checks and stores it. The two agree on
a key that is blank or has no white space at its ends. A padded reserved key is
accepted at build time and refused at run time, and any other padded key is
stored under two different keys.
-/

namespace MeshPresence.MetadataRules

open TextOperations FiniteMaps FallibleSteps AgentTypes AgentConfig AnnouncementInvariant
open WireRoundTrip ValidatedConfig PeerGrammar

/-- A configuration with one more metadata entry. -/
def carrying (config : ZeroConfConfig) (key value : String) : ZeroConfConfig :=
  { config with metadata := config.metadata.insert key value }

/-- The rules for one entry agree on a configuration and its local announcement. -/
structure RulesAgree (config : ZeroConfConfig) (a : AgentAnnouncement) (key value : String) :
    Prop where
  /-- The entry is accepted at build time exactly when it is accepted at run time. -/
  accepted : (carrying config key value).validate=.ok () ↔ ∃ b, setMetadata a key value=.ok b
  /-- Both ways give the same announcement. -/
  equal : (carrying config key value).validate=.ok () → ∀ b, setMetadata a key value=.ok b →
    (carrying config key value).localAnnouncement=.ok b
  /-- An accepted entry can be overwritten at run time. -/
  overwritten : (carrying config key value).validate=.ok () → ∀ value', ∃ built b,
    (carrying config key value).localAnnouncement=.ok built ∧
    setMetadata built key value'=.ok b ∧ (carrying config key value').localAnnouncement=.ok b
  /-- An accepted entry can be deleted at run time. -/
  deleted : (carrying config key value).validate=.ok () → ∃ built,
    (carrying config key value).localAnnouncement=.ok built ∧ removeMetadata built key=.ok a

/-- The canonical keys are reserved. -/
theorem reserved_of_canonical {key : String} (h : key ∈ canonicalKeys) :
    isReservedMetadataKey key=true := by
  simp only [canonicalKeys,List.mem_cons,List.not_mem_nil,or_false] at h
  rcases h with rfl|rfl|rfl|rfl|rfl|rfl <;> decide

/-- Reserved keys have no white space at their ends. -/
theorem trimmed_of_reserved {key : String} (h : isReservedMetadataKey key=true) : Trimmed key := by
  simp only [isReservedMetadataKey,Bool.or_eq_true,decide_eq_true_eq] at h
  rcases h with ((((((rfl|rfl)|rfl)|rfl)|rfl)|rfl)|rfl)|rfl <;> decide

/-- Writing metadata succeeds for keys that are neither blank nor reserved when trimmed, and
writes under the trimmed key. -/
theorem setMetadata_iff {a b : AgentAnnouncement} {key value : String} :
    setMetadata a key value=.ok b ↔ trim key ≠ "" ∧ isReservedMetadataKey (trim key)=false ∧
      b={ a with metadata := a.metadata.insert (trim key) value } := by
  constructor
  · intro h
    obtain ⟨trimmed,hkey,h⟩ := bind_ok h
    obtain ⟨hne,rfl⟩ := normalizeMetadataKey_iff.mp hkey
    obtain ⟨hfree,h⟩ := reject_ok h
    exact ⟨hne,Bool.eq_false_iff.mpr hfree,(Except.ok.inj h).symm⟩
  · rintro ⟨hne,hfree,rfl⟩
    rw [setMetadata,normalizeMetadataKey_iff.mpr ⟨hne,rfl⟩,ok_bind,hfree]
    rfl

/-- Removing metadata succeeds for the same keys and removes the trimmed key. -/
theorem removeMetadata_iff {a b : AgentAnnouncement} {key : String} :
    removeMetadata a key=.ok b ↔ trim key ≠ "" ∧ isReservedMetadataKey (trim key)=false ∧
      b={ a with metadata := a.metadata.erase (trim key) } := by
  constructor
  · intro h
    obtain ⟨trimmed,hkey,h⟩ := bind_ok h
    obtain ⟨hne,rfl⟩ := normalizeMetadataKey_iff.mp hkey
    obtain ⟨hfree,h⟩ := reject_ok h
    exact ⟨hne,Bool.eq_false_iff.mpr hfree,(Except.ok.inj h).symm⟩
  · rintro ⟨hne,hfree,rfl⟩
    rw [removeMetadata,normalizeMetadataKey_iff.mpr ⟨hne,rfl⟩,ok_bind,hfree]
    rfl

/-- Configurations that the crate builds pass the validation. -/
theorem validate_of_validated {config : ZeroConfConfig} (h : Validated config) :
    config.validate=.ok () := by
  induction h with
  | new h => exact (new_config h).2.1
  | advertiseLocal _ _ ih => exact ih
  | enabledInterfaces _ _ ih => exact ih
  | disabledInterfaces _ _ ih => exact ih
  | sharedSecretAuth _ _ ih => exact ih

/-- One more entry is accepted at build time when its key, as written, is neither blank nor
reserved. -/
theorem carrying_validate_iff {config : ZeroConfConfig} (h : Validated config)
    {key value : String} :
    (carrying config key value).validate=.ok () ↔
      trim key ≠ "" ∧ isReservedMetadataKey key=false := by
  obtain ⟨hport,hmdns,htiming,hcapacity,htype,hkeys,hreserved⟩ :=
    validate_iff.mp (validate_of_validated h)
  have hself : key ∈ (carrying config key value).metadata := Std.ExtTreeMap.mem_insert_self
  constructor
  · intro hvalidate
    obtain ⟨-,-,-,-,-,hkeys',hreserved'⟩ := validate_iff.mp hvalidate
    exact ⟨hkeys' key hself,hreserved' key hself⟩
  · rintro ⟨hne,hfree⟩
    refine validate_iff.mpr ⟨hport,hmdns,htiming,hcapacity,htype,hkeys.insert hne value,?_⟩
    intro k hk
    rcases Std.ExtTreeMap.mem_insert.mp hk with he|hm
    · rwa [←Std.LawfulEqOrd.compare_eq_iff_eq.mp he]
    · exact hreserved k hm

/-- An accepted entry keeps a configuration sound. -/
theorem Sound.carrying {config : ZeroConfConfig} (h : Sound config) {key value : String}
    (hvalidate : (carrying config key value).validate=.ok ()) :
    Sound (carrying config key value) :=
  validate_sound hvalidate h.agentId h.role h.project h.branch h.serviceType

/-- The addresses of a local announcement are not known yet. -/
theorem localAnnouncement_addresses {config : ZeroConfConfig} {a : AgentAnnouncement}
    (h : config.localAnnouncement=.ok a) : a.addresses=[] := by
  obtain ⟨-,-,-,rfl⟩ := new_iff.mp h
  rfl

/-- With an entry under an accepted key that is stored as written, the local announcement has
one more entry. -/
theorem carrying_localAnnouncement {config : ZeroConfConfig} {a : AgentAnnouncement}
    (h : Sound config) (ha : config.localAnnouncement=.ok a) {key value : String}
    (hne : isReservedMetadataKey key=false)
    (hvalidate : (carrying config key value).validate=.ok ()) :
    (carrying config key value).localAnnouncement=
      .ok { a with metadata := a.metadata.insert key value } := by
  obtain ⟨a',ha',hdescribes⟩ := localAnnouncement_describes h
  cases ha.symm.trans ha'
  obtain ⟨b,hb,hcarries⟩ := localAnnouncement_describes (Sound.carrying h hvalidate)
  have hother : ∀ canonical ∈ canonicalKeys, key ≠ canonical := by
    rintro canonical hcanonical rfl
    rw [reserved_of_canonical hcanonical] at hne
    cases hne
  obtain ⟨hinstance,hid,hrole,hproject,hbranch,hstatus,hport⟩ := hdescribes.fields
  obtain ⟨hinstance',hid',hrole',hproject',hbranch',hstatus',hport'⟩ := hcarries.fields
  have hcap : b.capabilities=a.capabilities := by
    rw [hcarries.capabilities,hdescribes.capabilities]
    rfl
  have hm := hdescribes.mirrors
  have hmirrors : MirrorsFields b (a.metadata.insert key value) := by
    refine ⟨?_,?_,?_,?_,?_,?_,fun k hk => ?_⟩
    · rw [getElem?_insert_ne _ _ (hother _ (by decide)),hm.agentId,hid',hid]
      rfl
    · rw [getElem?_insert_ne _ _ (hother _ (by decide)),hm.role,hrole',hrole]
      rfl
    · rw [getElem?_insert_ne _ _ (hother _ (by decide)),hm.project,hproject',hproject]
      rfl
    · rw [getElem?_insert_ne _ _ (hother _ (by decide)),hm.branch,hbranch',hbranch]
      rfl
    · rw [getElem?_insert_ne _ _ (hother _ (by decide)),hm.status,hstatus',hstatus]
      rfl
    · rw [getElem?_insert_ne _ _ (hother _ (by decide)),hm.capabilities,hcap]
    · rw [hcarries.configured k hk,carrying,getElem?_insert,getElem?_insert,
        hdescribes.configured k hk]
  have hmetadata := hcarries.mirrors.unique hmirrors
  have haddresses := localAnnouncement_addresses hb
  have haddresses' := localAnnouncement_addresses ha
  rw [hb]
  refine congrArg Except.ok ?_
  cases a
  cases b
  rw [AgentAnnouncement.mk.injEq]
  exact ⟨hinstance'.trans hinstance.symm,hid'.trans hid.symm,hrole'.trans hrole.symm,
    hproject'.trans hproject.symm,hbranch'.trans hbranch.symm,hstatus'.trans hstatus.symm,hcap,
    hport'.trans hport.symm,haddresses.trans haddresses'.symm,hmetadata⟩

/-- A key that is neither configured nor reserved is not in the local announcement. -/
theorem absent_of_unconfigured {config : ZeroConfConfig} {a : AgentAnnouncement}
    (h : Describes config a) {key : String} (hnew : key ∉ config.metadata)
    (hfree : isReservedMetadataKey key=false) : a.metadata[key]?=none := by
  have hother : key ∉ canonicalKeys := fun hcanonical => by
    rw [reserved_of_canonical hcanonical] at hfree
    cases hfree
  rw [h.configured key hother]
  exact Std.ExtTreeMap.getElem?_eq_none hnew

/-- The rules agree on keys that are stored as they are written. -/
theorem rulesAgree_of_trimmed {config : ZeroConfConfig} {a : AgentAnnouncement}
    (h : Validated config) (ha : config.localAnnouncement=.ok a) {key : String}
    (hnew : key ∉ config.metadata) (ht : trim key=key) (value : String) :
    RulesAgree config a key value := by
  have hsound : Sound config := sound_of_validated h
  obtain ⟨a',ha',hdescribes⟩ := localAnnouncement_describes hsound
  cases ha.symm.trans ha'
  have hbuilt : ∀ value', trim key ≠ "" ∧ isReservedMetadataKey key=false →
      (carrying config key value').localAnnouncement=
        .ok { a with metadata := a.metadata.insert key value' } := fun value' hk =>
    carrying_localAnnouncement hsound ha hk.2 ((carrying_validate_iff h).mpr hk)
  refine ⟨?_,fun hvalidate b hb => ?_,fun hvalidate value' => ?_,fun hvalidate => ?_⟩
  · rw [carrying_validate_iff h]
    simp only [setMetadata_iff,ht,exists_and_left,exists_eq,and_true]
  · obtain ⟨-,-,rfl⟩ := setMetadata_iff.mp hb
    rw [hbuilt value ((carrying_validate_iff h).mp hvalidate),ht]
  · have hk := (carrying_validate_iff h).mp hvalidate
    refine ⟨_,_,hbuilt value hk,setMetadata_iff.mpr ⟨hk.1,ht.symm ▸ hk.2,rfl⟩,?_⟩
    have hagain : (a.metadata.insert key value).insert key value'=a.metadata.insert key value' := by
      apply Std.ExtTreeMap.ext_getElem?
      intro k
      simp only [getElem?_insert]
      split <;> rfl
    dsimp only
    rw [ht,hagain,hbuilt value' hk]
  · have hk := (carrying_validate_iff h).mp hvalidate
    refine ⟨_,hbuilt value hk,removeMetadata_iff.mpr ⟨hk.1,ht.symm ▸ hk.2,?_⟩⟩
    have hrestored : (a.metadata.insert key value).erase key=a.metadata := by
      apply Std.ExtTreeMap.ext_getElem?
      intro k
      rw [getElem?_erase,getElem?_insert]
      split
      · next he => rw [←he,absent_of_unconfigured hdescribes hnew hk.2]
      · rfl
    dsimp only
    rw [ht,hrestored]

/-- Blank keys are refused by both rules. -/
theorem rulesAgree_of_blank {config : ZeroConfConfig} {a : AgentAnnouncement}
    (h : Validated config) {key : String} (hblank : trim key="") (value : String) :
    RulesAgree config a key value := by
  have hrefused : ¬(carrying config key value).validate=.ok () := fun hvalidate =>
    ((carrying_validate_iff h).mp hvalidate).1 hblank
  refine ⟨⟨fun hvalidate => absurd hvalidate hrefused,?_⟩,fun hvalidate => absurd hvalidate hrefused,
    fun hvalidate => absurd hvalidate hrefused,fun hvalidate => absurd hvalidate hrefused⟩
  rintro ⟨b,hb⟩
  exact absurd hblank (setMetadata_iff.mp hb).1

/-- Rules that agree on a padded key are those for blank keys. -/
theorem RulesAgree.trimmed {config : ZeroConfConfig} {a : AgentAnnouncement} {key value : String}
    (hr : RulesAgree config a key value) (h : Validated config)
    (ha : config.localAnnouncement=.ok a) (hnew : key ∉ config.metadata) (hne : trim key ≠ "") :
    trim key=key := by
  by_contra hpadded
  have hfree : isReservedMetadataKey key=false :=
    Bool.eq_false_iff.mpr fun hreserved => hpadded (trimmed_of_reserved hreserved)
  have hvalidate : (carrying config key value).validate=.ok () :=
    (carrying_validate_iff h).mpr ⟨hne,hfree⟩
  obtain ⟨b,hb⟩ := hr.accepted.mp hvalidate
  have hsound : Sound config := sound_of_validated h
  obtain ⟨a',ha',hdescribes⟩ := localAnnouncement_describes hsound
  cases ha.symm.trans ha'
  have hbuilt := carrying_localAnnouncement hsound ha hfree hvalidate
  rw [hr.equal hvalidate b hb] at hbuilt
  obtain ⟨-,-,rfl⟩ := setMetadata_iff.mp hb
  have hmetadata := congrArg AgentAnnouncement.metadata (Except.ok.inj hbuilt)
  have hstored := congrArg (fun m : AgentMetadata => m[key]?) hmetadata
  dsimp only at hstored
  rw [getElem?_insert_ne _ _ hpadded,absent_of_unconfigured hdescribes hnew hfree,
    Std.ExtTreeMap.getElem?_insert_self] at hstored
  cases hstored

/-- The rules for a metadata entry at build time and at run time agree exactly when its key is
blank or has no white space at its ends. -/
theorem rulesAgree_iff {config : ZeroConfConfig} {a : AgentAnnouncement} (h : Validated config)
    (ha : config.localAnnouncement=.ok a) {key : String} (hnew : key ∉ config.metadata)
    (value : String) : RulesAgree config a key value ↔ trim key="" ∨ trim key=key := by
  constructor
  · intro hr
    by_cases hblank : trim key=""
    · exact Or.inl hblank
    · exact Or.inr (hr.trimmed h ha hnew hblank)
  · rintro (hblank|ht)
    · exact rulesAgree_of_blank h hblank value
    · exact rulesAgree_of_trimmed h ha hnew ht value

/-- An unpadded key of the small configuration. -/
theorem rulesAgree_iff_team :
    ∃ a, sampleConfig.localAnnouncement=.ok a ∧ RulesAgree sampleConfig a "team" "blue" := by
  obtain ⟨a,ha,-⟩ := localAnnouncement_describes (sound_of_validated sampleConfig_validated)
  have hnew : "team" ∉ sampleConfig.metadata := by decide +kernel
  exact ⟨a,ha,(rulesAgree_iff sampleConfig_validated ha hnew "blue").mpr (Or.inr (by decide))⟩

/-- The local announcement of the small configuration. -/
def plainAnnouncement : AgentAnnouncement :=
  sampleConfig.localAnnouncement.toOption.get (by decide +kernel)

/-- A padded reserved key is accepted at build time and refused at run time; another padded key
is accepted by both and stored under different keys. -/
theorem padded_keys_disagree :
    Validated sampleConfig ∧ sampleConfig.localAnnouncement=.ok plainAnnouncement ∧
    (carrying sampleConfig " status " "lost").validate=.ok () ∧
    setMetadata plainAnnouncement " status " "lost"=.error (.reservedMetadataKey "status") ∧
    (carrying sampleConfig " team " "blue").validate=.ok () ∧
    ((carrying sampleConfig " team " "blue").localAnnouncement.toOption.map fun b =>
      (b.metadata[" team "]?,b.metadata["team"]?))=some (some "blue",none) ∧
    ((setMetadata plainAnnouncement " team " "blue").toOption.map fun b =>
      (b.metadata[" team "]?,b.metadata["team"]?))=some (none,some "blue") ∧
    ¬RulesAgree sampleConfig plainAnnouncement " status " "lost" ∧
    ¬RulesAgree sampleConfig plainAnnouncement " team " "blue" := by
  have hstatus : (carrying sampleConfig " status " "lost").validate=.ok () := by decide +kernel
  have hrefused : setMetadata plainAnnouncement " status " "lost"=
      .error (.reservedMetadataKey "status") := by
    decide +kernel
  have hteam : (carrying sampleConfig " team " "blue").validate=.ok () := by decide +kernel
  have hbuilt : ((carrying sampleConfig " team " "blue").localAnnouncement.toOption.map fun b =>
      (b.metadata[" team "]?,b.metadata["team"]?))=some (some "blue",none) := by
    decide +kernel
  have hset : ((setMetadata plainAnnouncement " team " "blue").toOption.map fun b =>
      (b.metadata[" team "]?,b.metadata["team"]?))=some (none,some "blue") := by
    decide +kernel
  refine ⟨sampleConfig_validated,ok_of_toOption (Option.some_get _).symm,hstatus,hrefused,hteam,
    hbuilt,hset,fun h => ?_,fun h => ?_⟩
  · obtain ⟨b,hb⟩ := h.accepted.mp hstatus
    cases hrefused.symm.trans hb
  · obtain ⟨b,hb⟩ := h.accepted.mp hteam
    rw [h.equal hteam b hb] at hbuilt
    rw [hb] at hset
    cases hbuilt.symm.trans hset

end MeshPresence.MetadataRules

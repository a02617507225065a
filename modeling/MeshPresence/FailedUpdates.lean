import MeshPresence.CapabilityHistory
import MeshPresence.LocalPublication
import MeshPresence.SignatureVerification

/-!
# What a failed update leaves behind

The mutator of an update writes the local announcement before it is signed and
announced, and a failing announcement does not take the write back. An update that
returns an error has changed nothing exactly when its mutator rejected the argument, or
when the argument described what the announcement said already. The registry is never
touched by an update that fails.
-/

namespace MeshPresence.FailedUpdates

open TextOperations FiniteMaps FallibleSteps GuardedRuns AgentTypes AgentConfig AgentWire
open AnnouncementInvariant WireRoundTrip SignatureVerification ValidatedConfig
open CapabilityHistory MeshRuntime MeshEffects LocalEntry LocalPublication

/-- A metadata key that the updaters refuse. -/
def BadKey (key : String) : Prop := trim key="" ∨ isReservedMetadataKey (trim key)=true

/-- A capability that is refused. -/
def BadCapability (value : String) : Prop := trim value="" ∨ ',' ∈ (trim value).toList

/-- The arguments that the mutator of an update refuses. -/
def Rejected : LocalUpdate → Prop
  | .status _ => False
  | .project value => trim value=""
  | .branch value => trim value=""
  | .metadata key _ => BadKey key
  | .removeMetadata key => BadKey key
  | .capabilities values => ∃ value ∈ values, BadCapability value
  | .addCapability value => BadCapability value
  | .removeCapability value => BadCapability value

/-- The update describes what the announcement says already. -/
def Redundant (a : AgentAnnouncement) : LocalUpdate → Prop
  | .status status => status=a.status
  | .project value => trim value=a.project
  | .branch value => trim value=a.branch
  | .metadata key value => a.metadata[trim key]?=some value
  | .removeMetadata key => a.metadata[trim key]?=none
  | .capabilities values => (values.map trim).toFinset=a.capabilities.toFinset
  | .addCapability value => trim value ∈ a.capabilities
  | .removeCapability value => trim value ∉ a.capabilities

/-- A required field is refused exactly when it is blank. -/
theorem normalizeRequired_cases (value field : String) :
    (trim value="" ∧ ∃ e, normalizeRequired value field=.error e) ∨
      (trim value ≠ "" ∧ normalizeRequired value field=.ok (trim value)) :=
  (fails_or_succeeds normalizeRequired_iff).imp_left (And.imp_left not_not.mp)

/-- A metadata key is refused exactly when it is blank. -/
theorem normalizeMetadataKey_cases (key : String) :
    (trim key="" ∧ ∃ e, normalizeMetadataKey key=.error e) ∨
      (trim key ≠ "" ∧ normalizeMetadataKey key=.ok (trim key)) :=
  (fails_or_succeeds normalizeMetadataKey_iff).imp_left (And.imp_left not_not.mp)

/-- A capability is refused exactly when it is blank or contains a comma. -/
theorem normalizeCapability_cases (value : String) :
    (BadCapability value ∧ ∃ e, normalizeCapability value=.error e) ∨
      (¬BadCapability value ∧ normalizeCapability value=.ok (trim value)) := by
  have hgood : ¬BadCapability value ↔ trim value ≠ "" ∧ ',' ∉ (trim value).toList := not_or
  rw [hgood]
  exact (fails_or_succeeds normalizeCapability_iff).imp_left
    (And.imp_left fun hbad => not_not.mp (mt hgood.mp hbad))

/-- A list of capabilities is refused exactly when one of them is. -/
theorem canonicalizeCapabilities_cases (values : List String) :
    ((∃ value ∈ values, BadCapability value) ∧ ∃ e, canonicalizeCapabilities values=.error e) ∨
      ((¬∃ value ∈ values, BadCapability value) ∧
        ∃ names, canonicalizeCapabilities values=.ok names) := by
  cases h : canonicalizeCapabilities values with
  | error e =>
    refine Or.inl ⟨?_,e,rfl⟩
    by_contra hgood
    have hall : List.Forall₂ (fun value name => normalizeCapability value=.ok name) values
        (values.map trim) := by
      rw [List.forall₂_map_right_iff,List.forall₂_same]
      intro value hvalue
      rcases normalizeCapability_cases value with ⟨hbad,-⟩|⟨-,hok⟩
      · exact absurd ⟨value,hvalue,hbad⟩ hgood
      · exact hok
    rw [canonicalizeCapabilities,mapM_of_forall₂ hall] at h
    cases h
  | ok names =>
    refine Or.inr ⟨?_,names,rfl⟩
    rintro ⟨value,hvalue,hbad⟩
    obtain ⟨normalized,hn,-⟩ := bind_ok h
    obtain ⟨name,-,hname⟩ := exists_mem_of_mapM hn hvalue
    rcases normalizeCapability_cases value with ⟨-,e,he⟩|⟨hgood,-⟩
    · cases he.symm.trans hname
    · exact hgood hbad

/-- The mutator of an update fails exactly on a refused argument. -/
theorem apply_cases (a : AgentAnnouncement) (update : LocalUpdate) :
    (Rejected update ∧ ∃ e, update.apply a=.error e) ∨
      (¬Rejected update ∧ ∃ b, update.apply a=.ok b) := by
  cases update with
  | status status => exact Or.inr ⟨id,_,rfl⟩
  | project value =>
    rcases normalizeRequired_cases value "project" with ⟨h,e,he⟩|⟨h,hok⟩
    · exact Or.inl ⟨h,e,by rw [LocalUpdate.apply,setProject,he,error_bind]⟩
    · exact Or.inr ⟨h,_,by rw [LocalUpdate.apply,setProject,hok]; rfl⟩
  | branch value =>
    rcases normalizeRequired_cases value "branch" with ⟨h,e,he⟩|⟨h,hok⟩
    · exact Or.inl ⟨h,e,by rw [LocalUpdate.apply,setBranch,he,error_bind]⟩
    · exact Or.inr ⟨h,_,by rw [LocalUpdate.apply,setBranch,hok]; rfl⟩
  | metadata key value =>
    rcases normalizeMetadataKey_cases key with ⟨h,e,he⟩|⟨h,hok⟩
    · exact Or.inl ⟨Or.inl h,e,by rw [LocalUpdate.apply,setMetadata,he,error_bind]⟩
    · rw [LocalUpdate.apply,setMetadata,hok,ok_bind]
      by_cases hreserved : isReservedMetadataKey (trim key)=true
      · exact Or.inl ⟨Or.inr hreserved,_,if_pos hreserved⟩
      · exact Or.inr ⟨not_or.mpr ⟨h,hreserved⟩,_,if_neg hreserved⟩
  | removeMetadata key =>
    rcases normalizeMetadataKey_cases key with ⟨h,e,he⟩|⟨h,hok⟩
    · exact Or.inl ⟨Or.inl h,e,by rw [LocalUpdate.apply,AgentTypes.removeMetadata,he,error_bind]⟩
    · rw [LocalUpdate.apply,AgentTypes.removeMetadata,hok,ok_bind]
      by_cases hreserved : isReservedMetadataKey (trim key)=true
      · exact Or.inl ⟨Or.inr hreserved,_,if_pos hreserved⟩
      · exact Or.inr ⟨not_or.mpr ⟨h,hreserved⟩,_,if_neg hreserved⟩
  | capabilities values =>
    rcases canonicalizeCapabilities_cases values with ⟨h,e,he⟩|⟨h,names,hok⟩
    · exact Or.inl ⟨h,e,by rw [LocalUpdate.apply,setCapabilities,he,error_bind]⟩
    · exact Or.inr ⟨h,_,by rw [LocalUpdate.apply,setCapabilities,hok]; rfl⟩
  | addCapability value =>
    rcases normalizeCapability_cases value with ⟨h,e,he⟩|⟨h,hok⟩
    · exact Or.inl ⟨h,e,by rw [LocalUpdate.apply,AgentTypes.addCapability,he,error_bind]⟩
    · rw [LocalUpdate.apply,AgentTypes.addCapability,hok,ok_bind]
      split
      · exact Or.inr ⟨h,_,rfl⟩
      · exact Or.inr ⟨h,_,rfl⟩
  | removeCapability value =>
    rcases normalizeCapability_cases value with ⟨h,e,he⟩|⟨h,hok⟩
    · exact Or.inl ⟨h,e,by rw [LocalUpdate.apply,AgentTypes.removeCapability,he,error_bind]⟩
    · exact Or.inr ⟨h,_,by rw [LocalUpdate.apply,AgentTypes.removeCapability,hok]; rfl⟩

section Writes

variable {a b : AgentAnnouncement} {update : LocalUpdate}

/-- Mirroring the listed capabilities again changes nothing. -/
theorem sync_eq_self (hm : MirrorsFields a a.metadata) :
    syncCapabilitiesMetadata a.metadata a.capabilities=a.metadata := by
  apply Std.ExtTreeMap.ext_getElem?
  intro key
  rw [getElem?_sync]
  split
  · next he => rw [←he,hm.capabilities]
  · rfl

/-- Canonical lists of one set are equal. -/
theorem canonical_ext {first second : List String} (h : CanonicalCapabilities first)
    (h' : CanonicalCapabilities second) (hset : first.toFinset=second.toFinset) :
    first=second := by
  rw [←sort_toFinset_of_ascending h.ascending,hset,sort_toFinset_of_ascending h'.ascending]

/-- An update that replaces the capabilities and their mirror changes nothing exactly when
it describes the set that is listed. -/
theorem capabilities_eq_self_iff (hw : WellFormed a) (hm : MirrorsFields a a.metadata)
    (hb : update.apply a=.ok b)
    (hshape : b={ a with capabilities := b.capabilities
                         metadata := syncCapabilitiesMetadata a.metadata b.capabilities }) :
    b=a ↔ interpretUpdate a.capabilities.toFinset update=a.capabilities.toFinset := by
  rw [←toFinset_update hb]
  constructor
  · intro h
    rw [h]
  · intro hset
    have hcapabilities : b.capabilities=a.capabilities :=
      canonical_ext (update_wellFormed hw hb).capabilities hw.capabilities hset
    refine hshape.trans ?_
    rw [hcapabilities,sync_eq_self hm]

/-- A successful mutator changes nothing exactly when its argument describes what the
announcement says already. -/
theorem apply_eq_self_iff (hw : WellFormed a) (hm : MirrorsFields a a.metadata)
    (hb : update.apply a=.ok b) : b=a ↔ Redundant a update := by
  have hwrites := capabilities_eq_self_iff hw hm hb
  cases update with
  | status status =>
    cases hb
    constructor
    · exact fun h => congrArg AgentAnnouncement.status h
    · rintro rfl
      rw [setStatus,insert_eq_self hm.status]
  | project value =>
    obtain ⟨project,hproject,hb⟩ := bind_ok hb
    cases hb
    obtain rfl := (normalizeRequired_ok hproject).1
    constructor
    · exact fun h => congrArg AgentAnnouncement.project h
    · intro h
      rw [show trim value=a.project from h,insert_eq_self hm.project]
  | branch value =>
    obtain ⟨branch,hbranch,hb⟩ := bind_ok hb
    cases hb
    obtain rfl := (normalizeRequired_ok hbranch).1
    constructor
    · exact fun h => congrArg AgentAnnouncement.branch h
    · intro h
      rw [show trim value=a.branch from h,insert_eq_self hm.branch]
  | metadata key value =>
    obtain ⟨name,hname,hb⟩ := bind_ok hb
    obtain ⟨-,hb⟩ := reject_ok hb
    cases hb
    obtain ⟨-,rfl⟩ := normalizeMetadataKey_iff.mp hname
    constructor
    · intro h
      have hmetadata := congrArg AgentAnnouncement.metadata h
      rw [Redundant,←hmetadata]
      exact Std.ExtTreeMap.getElem?_insert_self
    · intro h
      rw [insert_eq_self h]
  | removeMetadata key =>
    obtain ⟨name,hname,hb⟩ := bind_ok hb
    obtain ⟨-,hb⟩ := reject_ok hb
    cases hb
    obtain ⟨-,rfl⟩ := normalizeMetadataKey_iff.mp hname
    constructor
    · intro h
      have hmetadata := congrArg AgentAnnouncement.metadata h
      rw [Redundant,←hmetadata]
      exact Std.ExtTreeMap.getElem?_erase_self
    · intro h
      rw [erase_eq_self h]
  | capabilities values =>
    obtain ⟨capabilities,hc,hb⟩ := bind_ok hb
    cases hb
    exact hwrites rfl
  | addCapability value =>
    refine (hwrites ?_).trans ?_
    · obtain ⟨name,hname,hb⟩ := bind_ok hb
      split at hb
      · cases hb
        rw [sync_eq_self hm]
      · cases hb
        rfl
    · rw [interpretUpdate,Finset.insert_eq_self,List.mem_toFinset,Redundant]
  | removeCapability value =>
    obtain ⟨name,hname,hb⟩ := bind_ok hb
    cases hb
    refine (hwrites rfl).trans ?_
    rw [interpretUpdate,Finset.erase_eq_self,List.mem_toFinset,Redundant]

/-- No update writes the authentication metadata. -/
theorem update_auth (hb : update.apply a=.ok b) {key : String}
    (hkey : isAuthMetadataKey key=true) : b.metadata[key]?=a.metadata[key]? := by
  have hreserved : isReservedMetadataKey key=true := by
    have hsigned := isSignedKey_eq key
    rw [isSignedKey,hkey,Bool.not_true,Bool.and_false] at hsigned
    simpa using hsigned
  have hcanonical : ∀ name ∈ canonicalKeys, ¬isAuthMetadataKey name=true := by decide
  have hne : ∀ name ∈ canonicalKeys, name ≠ key := by
    rintro name hname rfl
    exact hcanonical name hname hkey
  have hsync : ∀ capabilities,
      (syncCapabilitiesMetadata a.metadata capabilities)[key]?=a.metadata[key]? := by
    intro capabilities
    rw [getElem?_sync,if_neg (hne _ (by decide))]
  cases update with
  | status status =>
    cases hb
    exact getElem?_insert_ne _ _ (hne _ (by decide))
  | project value =>
    obtain ⟨project,-,hb⟩ := bind_ok hb
    cases hb
    exact getElem?_insert_ne _ _ (hne _ (by decide))
  | branch value =>
    obtain ⟨branch,-,hb⟩ := bind_ok hb
    cases hb
    exact getElem?_insert_ne _ _ (hne _ (by decide))
  | metadata name value =>
    obtain ⟨name,-,hb⟩ := bind_ok hb
    obtain ⟨hfree,hb⟩ := reject_ok hb
    cases hb
    refine getElem?_insert_ne _ _ ?_
    rintro rfl
    exact hfree hreserved
  | removeMetadata name =>
    obtain ⟨name,-,hb⟩ := bind_ok hb
    obtain ⟨hfree,hb⟩ := reject_ok hb
    cases hb
    refine getElem?_erase_ne _ ?_
    rintro rfl
    exact hfree hreserved
  | capabilities values =>
    obtain ⟨capabilities,-,hb⟩ := bind_ok hb
    cases hb
    exact hsync _
  | addCapability value =>
    obtain ⟨name,-,hb⟩ := bind_ok hb
    split at hb
    · cases hb
      rfl
    · cases hb
      exact hsync _
  | removeCapability value =>
    obtain ⟨name,-,hb⟩ := bind_ok hb
    cases hb
    exact hsync _

/-- Signing with the settings of a node, where it has some. -/
def signWith (mac : Mac) (auth : Option SharedSecretAuth) (a : AgentAnnouncement) :
    AgentAnnouncement :=
  match auth with
  | some auth => applySharedSecretAuth mac a auth
  | none => a

/-- The signing section signs with the settings of the node. -/
theorem localAgent_sign (mac : Mac) (s : Shared) (auth : Option SharedSecretAuth) :
    (s.sign mac auth).localAgent=signWith mac auth s.localAgent := by
  cases auth <;> rfl

/-- An announcement that carries the scheme and its own tag is signed already. -/
theorem applySharedSecretAuth_eq_self {mac : Mac} {auth : SharedSecretAuth}
    (hscheme : a.metadata[agentAuthSchemeMetadataKey]?=some sharedSecretScheme)
    (hsignature : a.metadata[agentSignatureMetadataKey]?=
      some (mac.tag auth.signingSecret (signaturePayload a))) :
    applySharedSecretAuth mac a auth=a := by
  simp only [applySharedSecretAuth,sharedSecretSignature]
  rw [insert_eq_self hscheme,insert_eq_self hsignature]

/-- Signing a signed announcement changes nothing. -/
theorem signWith_signWith (mac : Mac) (auth : Option SharedSecretAuth) (a : AgentAnnouncement) :
    signWith mac auth (signWith mac auth a)=signWith mac auth a := by
  cases auth with
  | none => rfl
  | some auth =>
    apply applySharedSecretAuth_eq_self (applySharedSecretAuth_scheme mac a auth)
    have hsignature := applySharedSecretAuth_signature mac a auth
    rw [←signaturePayload_applySharedSecretAuth mac a auth] at hsignature
    exact hsignature

/-- Signing the result of an update gives the signed announcement back only when the update
changed nothing. -/
theorem signWith_update_iff {mac : Mac} {auth : Option SharedSecretAuth}
    (hsigned : signWith mac auth a=a) (hb : update.apply a=.ok b) :
    signWith mac auth b=a ↔ b=a := by
  constructor
  · intro h
    cases auth with
    | none => exact h
    | some auth =>
      have hshape : b={ a with metadata := b.metadata } :=
        congrArg (fun c : AgentAnnouncement => { c with metadata := b.metadata }) h
      have hmetadata : b.metadata=a.metadata := by
        apply Std.ExtTreeMap.ext_getElem?
        intro key
        cases hkey : isAuthMetadataKey key with
        | true => exact update_auth hb hkey
        | false =>
          rw [isAuthMetadataKey,Bool.or_eq_false_iff,decide_eq_false_iff_not,
            decide_eq_false_iff_not] at hkey
          have hkept : (applySharedSecretAuth mac b auth).metadata[key]?=b.metadata[key]? := by
            simp only [applySharedSecretAuth]
            rw [getElem?_insert_ne _ _ (Ne.symm hkey.2),getElem?_insert_ne _ _ (Ne.symm hkey.1)]
          rw [←hkept]
          exact congrArg (fun c : AgentAnnouncement => c.metadata[key]?) h
      rw [hshape,hmetadata]
  · rintro rfl
    exact hsigned

end Writes

section Runs

variable {mac : Mac} {config : ZeroConfConfig} {m m' : Mesh} {action : Action}

/-- The local announcement is a signed one, or a call still has to sign it. -/
def SignedUnlessPending (mac : Mac) (m : Mesh) : Prop :=
  ∃ latest, signWith mac m.config.sharedSecretAuth latest=latest ∧
    (m.shared.localAgent=latest ∨ Pending.refresh ∈ m.pendings)

/-- Every step of an advertising node leaves the announcement signed unless it is to sign. -/
theorem SignedUnlessPending.step (hadvertise : m.config.advertiseLocal=true)
    (h : SignedUnlessPending mac m) (hs : MeshRuntime.step mac m action=some m') :
    SignedUnlessPending mac m' := by
  obtain ⟨latest,hsigned,hlatest⟩ := h
  have hconfig := (step_frame hs).config
  rw [←hconfig] at hsigned
  cases step_effect hs with
  | quiet shared work =>
    exact ⟨latest,hsigned,newest_kept hlatest work (by rintro ⟨⟩) (by rw [shared])⟩
  | abandon snapshot error source shared work =>
    exact ⟨latest,hsigned,newest_kept hlatest work (by rintro ⟨⟩) (by rw [shared]; rfl)⟩
  | skip discovery shared work =>
    rw [hadvertise] at discovery
    cases discovery
  | mutate i call source hcall succeeds shared work =>
    exact ⟨latest,hsigned,Or.inr (work.now _ rfl)⟩
  | clone tick waiting shared work =>
    exact ⟨latest,hsigned,newest_kept hlatest work (by rintro ⟨⟩) (by rw [shared]; rfl)⟩
  | refresh advertises shared work =>
    refine ⟨m'.shared.localAgent,?_,Or.inl rfl⟩
    rw [hconfig,shared,Shared.copied,localAgent_sign,signWith_signWith]
  | announce snapshot source shared next hnext work =>
    exact ⟨latest,hsigned,newest_kept hlatest work (by rintro ⟨⟩) (by rw [shared]; rfl)⟩
  | upsert snapshot now source shared work =>
    exact ⟨latest,hsigned,newest_kept hlatest work (by rintro ⟨⟩) (by rw [shared]; rfl)⟩
  | browse event task shared work =>
    exact ⟨latest,hsigned,newest_kept hlatest work (by rintro ⟨⟩) (by rw [shared])⟩
  | sweep order now task shared work =>
    exact ⟨latest,hsigned,newest_kept hlatest work (by rintro ⟨⟩) (by rw [shared])⟩
  | withdraw announcement source shared work =>
    exact ⟨latest,hsigned,newest_kept hlatest work (by rintro ⟨⟩) (by rw [shared]; rfl)⟩
  | remove announcement source shared work =>
    exact ⟨latest,hsigned,newest_kept hlatest work (by rintro ⟨⟩) (by rw [shared])⟩

/-- Start-up begins with a signed announcement. -/
theorem SignedUnlessPending.init (h : Mesh.init mac config=.ok m) : SignedUnlessPending mac m := by
  obtain ⟨a,-,rfl⟩ := init_ok h
  exact ⟨signWith mac config.sharedSecretAuth a,signWith_signWith mac _ a,
    Or.inl (localAgent_sign mac (unsigned config a) config.sharedSecretAuth)⟩

/-- No update call is in progress. -/
def Idle (m : Mesh) : Prop := ∀ call ∈ m.calls, ∃ result, call.phase=.returned result

instance (m : Mesh) : Decidable (Idle m) := inferInstanceAs (Decidable (∀ _ ∈ _, _))

/-- Only calls in progress have something to sign. -/
theorem Idle.refresh_notMem (h : Idle m) : Pending.refresh ∉ m.pendings := by
  rw [mem_pendings]
  rintro (hp|hp|hp)
  · cases hstart : m.start <;> rw [hstart] at hp <;> cases hp
  · cases hheartbeat : m.heartbeat <;> rw [hheartbeat] at hp <;> cases hp
  · obtain ⟨call,hcall,hphase⟩ := List.mem_filterMap.mp hp
    obtain ⟨result,hr⟩ := h call hcall
    rw [hr] at hphase
    cases hphase

/-- The local announcement of an idle advertising node is signed and consistent. -/
theorem idle_localAgent (hvalid : Validated config) {m₀ : Mesh} (h₀ : Mesh.init mac config=.ok m₀)
    {actions : List Action} (hrun : exec (MeshRuntime.step mac) m₀ actions=some m)
    (hidle : Idle m) :
    WellFormed m.shared.localAgent ∧
      MirrorsFields m.shared.localAgent m.shared.localAgent.metadata ∧
      (m.config.advertiseLocal=true →
        signWith mac m.config.sharedSecretAuth m.shared.localAgent=m.shared.localAgent) := by
  obtain ⟨built,hbuilt,hrecorded⟩ := Recorded.run h₀ hrun
  obtain ⟨a,ha,hdescribes⟩ := localAnnouncement_describes (sound_of_validated hvalid)
  obtain rfl : a=built := Except.ok.inj (ha.symm.trans hbuilt)
  have hconsistent : Consistent _ (AnnouncementMethods.callAll mac a m.shared.sections) :=
    (consistent_of_describes hdescribes).callAll m.shared.sections
  rw [AnnouncementMethods.callAll_eq_applyAll,←hrecorded.localAgent] at hconsistent
  refine ⟨hconsistent.wellFormed,hconsistent.mirrors,fun hadvertise => ?_⟩
  have hconfig : m.config=m₀.config :=
    invariant_of_exec (fun k : Mesh => k.config=m₀.config)
      (fun _ _ _ h hs => (step_frame hs).config.trans h) hrun rfl
  have hsigned : m.config=m₀.config ∧ SignedUnlessPending mac m := by
    refine invariant_of_exec (fun k : Mesh => k.config=m₀.config ∧ SignedUnlessPending mac k)
      (fun k _ _ h hs => ?_) hrun ⟨rfl,.init h₀⟩
    have hk : k.config.advertiseLocal=true := by rw [h.1,←hconfig,hadvertise]
    exact ⟨(step_frame hs).config.trans h.1,h.2.step hk hs⟩
  obtain ⟨latest,hlatest,hlocal⟩ := hsigned.2
  rw [hlocal.resolve_right hidle.refresh_notMem,hlatest]

/-- The local announcement when a call has come to a phase, from what it was before. -/
inductive Reached (mac : Mac) (config : ZeroConfConfig) (a : AgentAnnouncement)
    (update : LocalUpdate) (now : AgentAnnouncement) : CallPhase → Prop where
  /-- Nothing has happened yet. -/
  | mutate (unchanged : now=a) : Reached mac config a update now .mutate
  /-- The mutator has written. -/
  | refresh (written : update.apply a=.ok now) : Reached mac config a update now .refresh
  /-- The write was signed. -/
  | announce (snapshot : Snapshot) (advertises : config.advertiseLocal=true)
      (written : ∃ b, update.apply a=.ok b ∧ now=signWith mac config.sharedSecretAuth b) :
      Reached mac config a update now (.announce snapshot)
  /-- The write was announced. -/
  | upsert (snapshot : Snapshot) (advertises : config.advertiseLocal=true)
      (written : ∃ b, update.apply a=.ok b ∧ now=signWith mac config.sharedSecretAuth b) :
      Reached mac config a update now (.upsert snapshot)
  /-- The call succeeded. -/
  | succeeded : Reached mac config a update now (.returned (.ok ()))
  /-- The mutator refused the argument. -/
  | rejected (error : ZeroConfError) (refused : Rejected update) (unchanged : now=a) :
      Reached mac config a update now (.returned (.error error))
  /-- The announcement of the write failed. -/
  | failed (error : ZeroConfError) (advertises : config.advertiseLocal=true)
      (written : ∃ b, update.apply a=.ok b ∧ now=signWith mac config.sharedSecretAuth b) :
      Reached mac config a update now (.returned (.error error))

/-- A node during the last of its calls, which began in an idle node. -/
structure Progress (mac : Mac) (m : Mesh) (update : LocalUpdate) (phase : CallPhase) (k : Mesh) :
    Prop where
  /-- The configuration is the same. -/
  config : k.config=m.config
  /-- The call is the only new one. -/
  calls : k.calls=m.calls ++ [⟨update,phase⟩]
  /-- The local announcement is what the call has made of it. -/
  reached : Reached mac m.config m.shared.localAgent update k.shared.localAgent phase

/-- Steps of the call leave the registry alone. -/
def RegistryUntouched (mac : Mac) (m : Mesh) (action : Action) : Prop :=
  party action=.call → ∀ m', step mac m action=some m' → m'.shared.registry=m.shared.registry

/-- A call that returned has no further moves. -/
theorem callMove_active {i : ℕ} {call : Call} {action : CallAction} {phase : CallPhase}
    {shared : Shared} (h : CallMove mac m i call action phase shared)
    (result : Except ZeroConfError Unit) : call.phase ≠ .returned result := by
  intro hr
  cases h with
  | mutate hphase | reject hphase | refresh hphase | skip hphase | announce _ hphase
  | announceFailed _ hphase | upsert _ _ hphase => cases hphase.symm.trans hr

/-- A mutator that accepts its argument takes its call on to the refresh. -/
theorem mutate_accepted {i : ℕ} {call : Call} (hcall : m.calls[i]?=some call)
    (hphase : call.phase=.mutate) (hok : (call.update.apply m.shared.localAgent).isOk=true) :
    m.callStep mac (.mutate i)=some { m.setPhase i call .refresh with
      shared := m.shared.write mac (.update call.update) } := by
  simp only [Mesh.callStep,hcall,hphase]
  cases hb : call.update.apply m.shared.localAgent with
  | error e =>
    rw [hb] at hok
    cases hok
  | ok b => rfl

/-- A move that the step function makes refuses only what the mutator rejects. -/
theorem reject_rejected {i : ℕ} {call : Call} {error : ZeroConfError} (hcall : m.calls[i]?=some call)
    (hphase : call.phase=.mutate)
    (hs : m.callStep mac (.mutate i)=some (m.setPhase i call (.returned (.error error)))) :
    Rejected call.update := by
  rcases apply_cases m.shared.localAgent call.update with ⟨hrejected,-⟩|⟨-,b,hb⟩
  · exact hrejected
  · rw [mutate_accepted hcall hphase (by rw [hb]; rfl)] at hs
    have hcalls := congrArg (fun k : Mesh => k.calls[i]?.map Call.phase) (Option.some.inj hs)
    have hlt : i < m.calls.length := (List.getElem?_eq_some_iff.mp hcall).1
    simp only [Mesh.setPhase,List.getElem?_set_self hlt,Option.map_some,reduceCtorEq,
      Option.some.injEq] at hcalls

/-- A move takes the call on as the phases say, and leaves the registry alone unless the
call succeeds by it. -/
theorem Reached.move {a : AgentAnnouncement} {update : LocalUpdate} {phase phase' : CallPhase}
    {i : ℕ} {action : CallAction} {shared : Shared}
    (h : Reached mac m.config a update m.shared.localAgent phase)
    (hcall : m.calls[i]?=some ⟨update,phase⟩)
    (hmove : CallMove mac m i ⟨update,phase⟩ action phase' shared)
    (hs : m.callStep mac action=some { m.setPhase i ⟨update,phase⟩ phase' with shared }) :
    Reached mac m.config a update shared.localAgent phase' ∧
      (phase' ≠ .returned (.ok ()) → shared.registry=m.shared.registry) := by
  cases hmove with
  | mutate hphase succeeds =>
    cases hphase
    cases h with
    | mutate unchanged =>
      refine ⟨.refresh ?_,fun _ => rfl⟩
      rw [unchanged] at succeeds
      rw [Shared.write,Mutator.apply,unchanged]
      cases hb : update.apply a with
      | error e =>
        rw [hb] at succeeds
        cases succeeds
      | ok b => rfl
  | reject hphase error =>
    cases hphase
    cases h with
    | mutate unchanged => exact ⟨.rejected error (reject_rejected hcall rfl hs) unchanged,fun _ => rfl⟩
  | refresh hphase advertises =>
    cases hphase
    cases h with
    | refresh written =>
      refine ⟨.announce _ advertises ⟨_,written,localAgent_sign mac m.shared _⟩,fun _ => ?_⟩
      exact (sign_frame mac m.shared m.config.sharedSecretAuth).1
  | skip hphase discovery => exact ⟨.succeeded,fun _ => rfl⟩
  | announce snapshot hphase =>
    cases hphase
    cases h with
    | announce snapshot advertises written => exact ⟨.upsert snapshot advertises written,fun _ => rfl⟩
  | announceFailed snapshot hphase error =>
    cases hphase
    cases h with
    | announce snapshot advertises written => exact ⟨.failed error advertises written,fun _ => rfl⟩
  | upsert snapshot now hphase => exact ⟨.succeeded,fun h => absurd rfl h⟩

/-- One step of a node during the call: the call is in progress as before or moved on, and
its own steps leave the registry alone unless it succeeds. -/
theorem Progress.step {update : LocalUpdate} {phase : CallPhase} {k k' : Mesh} (hidle : Idle m)
    (h : Progress mac m update phase k) (hs : MeshRuntime.step mac k action=some k')
    (hbegin : ∀ other, action ≠ .call (.begin other)) :
    ∃ phase', Progress mac m update phase' k' ∧
      (∀ result, phase=.returned result → phase'=phase) ∧
      (phase' ≠ .returned (.ok ()) → RegistryUntouched mac k action) := by
  have huntouched : party action ≠ .call → RegistryUntouched mac k action :=
    fun hparty hcall => absurd hcall hparty
  by_cases hparty : party action=.call
  · cases action with
    | start action | tick action | task action | shutdown action => cases hparty
    | call action =>
      rcases callStep_cases hs with ⟨other,ha,-⟩|⟨i,call,phase',shared,hcall,hmove,rfl⟩
      · exact absurd (congrArg Action.call ha) (hbegin other)
      · have hactive := callMove_active hmove
        have hi : ¬i < m.calls.length := by
          intro hi
          rw [h.calls,List.getElem?_append_left hi] at hcall
          obtain ⟨result,hr⟩ := hidle call (List.mem_of_getElem? hcall)
          exact hactive result hr
        have hlast : i=m.calls.length := by
          have hlt := (List.getElem?_eq_some_iff.mp hcall).1
          rw [h.calls,List.length_append,List.length_singleton] at hlt
          omega
        subst hlast
        have hown := hcall
        rw [h.calls,List.getElem?_concat_length] at hown
        obtain rfl : Call.mk update phase=call := Option.some.inj hown
        have hreached := h.reached
        rw [←h.config] at hreached
        obtain ⟨hnow,hregistry⟩ := hreached.move hcall hmove hs
        refine ⟨phase',⟨h.config,?_,h.config ▸ hnow⟩,fun result hr => absurd hr (hactive result),?_⟩
        · simp only [Mesh.setPhase,h.calls]
          rw [List.set_append_right _ _ le_rfl,Nat.sub_self,List.set_cons_zero]
        · intro hne _ k'' hk
          rw [hs] at hk
          cases hk
          exact hregistry hne
  · obtain ⟨hcalls,hlocal,-⟩ := (step_frame hs).calls hparty
    refine ⟨phase,⟨(step_frame hs).config.trans h.config,hcalls.trans h.calls,?_⟩,fun _ _ => rfl,
      fun _ => huntouched hparty⟩
    rw [hlocal]
    exact h.reached

/-- A whole run of a node during the call: the call is at some phase, the one before if it had
returned, and its own steps have left the registry alone unless it succeeded. -/
theorem Progress.run {update : LocalUpdate} {phase : CallPhase} {k k' : Mesh} (hidle : Idle m)
    (h : Progress mac m update phase k) {steps : List Action}
    (hbegin : ∀ action ∈ steps, ∀ other, action ≠ .call (.begin other))
    (hrun : exec (MeshRuntime.step mac) k steps=some k') :
    ∃ phase', Progress mac m update phase' k' ∧
      (∀ result, phase=.returned result → phase'=phase) ∧
      (phase' ≠ .returned (.ok ()) →
        Guarded (MeshRuntime.step mac) (RegistryUntouched mac) k steps) := by
  induction steps generalizing k phase with
  | nil =>
    cases hrun
    exact ⟨phase,h,fun _ _ => rfl,fun _ => trivial⟩
  | cons action rest ih =>
    obtain ⟨u,hu,hrest⟩ := exec_cons hrun
    rw [List.forall_mem_cons] at hbegin
    obtain ⟨middle,hmiddle,hreturned,htouched⟩ := h.step hidle hu hbegin.1
    obtain ⟨last,hlast,hfinal,hguarded⟩ := ih hmiddle hbegin.2 hrest
    refine ⟨last,hlast,fun result hr => ?_,fun hne => ?_⟩
    · have hm := hreturned result hr
      exact (hfinal result (hm.trans hr)).trans hm
    · have hmiddle : middle ≠ .returned (.ok ()) := fun hm => hne ((hfinal _ hm).trans hm)
      refine ⟨htouched hmiddle,?_⟩
      rw [hu]
      exact hguarded hne

/-- A failed call has changed nothing. -/
structure ChangesNothing (mac : Mac) (m : Mesh) (actions : List Action) (m' : Mesh) : Prop where
  /-- The local announcement is the one before the call. -/
  localAgent : m'.shared.localAgent=m.shared.localAgent
  /-- No step of the call changed the registry or sent an event. -/
  registry : Guarded (MeshRuntime.step mac) (RegistryUntouched mac) m actions
  /-- Without steps of other parties, the registry and its events are those before the call. -/
  undisturbed : (∀ action ∈ actions, party action=.call) → m'.shared.registry=m.shared.registry
  /-- The next heartbeat copies the announcement before the call. -/
  heartbeat : ∀ k, MeshRuntime.step mac m' (.tick .clone)=some k →
    ∃ ticket, k.heartbeat=.announce ⟨m.shared.localAgent,ticket⟩

/-- Steps of a call that each leave the registry alone leave it alone together. -/
theorem registry_of_untouched {steps : List Action}
    (hg : Guarded (MeshRuntime.step mac) (RegistryUntouched mac) m steps)
    (hall : ∀ action ∈ steps, party action=.call)
    (hrun : exec (MeshRuntime.step mac) m steps=some m') : m'.shared.registry=m.shared.registry := by
  induction steps generalizing m with
  | nil =>
    cases hrun
    rfl
  | cons action rest ih =>
    obtain ⟨u,hu,hrest⟩ := exec_cons hrun
    obtain ⟨huntouched,hg⟩ := hg.cons hu
    rw [List.forall_mem_cons] at hall
    rw [ih hg hall.2 hrest,huntouched hall.1 u hu]

/-- A call begins without touching what the parties share. -/
theorem begin_step {update : LocalUpdate}
    (h : MeshRuntime.step mac m (.call (.begin update))=some m') :
    m'={ m with calls := m.calls ++ [⟨update,.mutate⟩] } := by
  have hcall : m.callStep mac (.begin update)=some m' := h
  rcases callStep_cases hcall with ⟨other,ha,hm⟩|⟨i,call,phase,shared,-,hmove,-⟩
  · cases ha
    exact hm
  · cases hmove

/-- A tick copies the local announcement. -/
theorem clone_heartbeat (h : MeshRuntime.step mac m (.tick .clone)=some m') :
    m'.heartbeat=.announce m.shared.snapshot := by
  simp only [MeshRuntime.step,Mesh.tickStep] at h
  split at h <;> cases h
  rfl

end Runs

/-- In every reachable state without a call in progress, and for every update that returns an
error from there, whatever the other parties do meanwhile: the update has changed nothing
exactly when its mutator refuses the argument or the argument describes what the local
announcement says already. -/
theorem unchanged_iff_rejected_or_redundant (mac : Mac) (config : ZeroConfConfig)
    (hvalid : Validated config) {m₀ m m' : Mesh} (h₀ : Mesh.init mac config=.ok m₀)
    (actions : List Action) (hreach : exec (step mac) m₀ actions=some m) (hidle : Idle m)
    (update : LocalUpdate) (steps : List Action)
    (hbegin : ∀ action ∈ steps, ∀ other, action ≠ .call (.begin other))
    (hrun : exec (step mac) m (.call (.begin update) :: steps)=some m') (error : ZeroConfError)
    (hfail : m'.calls[m.calls.length]?=some ⟨update,.returned (.error error)⟩) :
    ChangesNothing mac m (.call (.begin update) :: steps) m' ↔
      Rejected update ∨ Redundant m.shared.localAgent update := by
  obtain ⟨hwf,hmirrors,hsigned⟩ := idle_localAgent hvalid h₀ hreach hidle
  obtain ⟨k,hk,hrest⟩ := exec_cons hrun
  have hbegun : Progress mac m update .mutate k := by
    rw [begin_step hk]
    exact ⟨rfl,rfl,.mutate rfl⟩
  obtain ⟨phase,hlast,-,hguarded⟩ := hbegun.run hidle hbegin hrest
  rw [hlast.calls,List.getElem?_concat_length] at hfail
  obtain rfl : phase=.returned (.error error) := congrArg Call.phase (Option.some.inj hfail)
  have hregistry : Guarded (step mac) (RegistryUntouched mac) m (.call (.begin update) :: steps) := by
    refine ⟨fun _ m' hm => by rw [begin_step hm],?_⟩
    rw [hk]
    exact hguarded nofun
  have hnothing : ChangesNothing mac m (.call (.begin update) :: steps) m' ↔
      m'.shared.localAgent=m.shared.localAgent := by
    refine ⟨ChangesNothing.localAgent,fun hlocal => ⟨hlocal,hregistry,fun hall => ?_,?_⟩⟩
    · exact registry_of_untouched hregistry hall hrun
    · intro k hk
      rw [clone_heartbeat hk,Shared.snapshot,hlocal]
      exact ⟨_,rfl⟩
  rw [hnothing]
  cases hlast.reached with
  | rejected _ refused unchanged => exact iff_of_true unchanged (Or.inl refused)
  | failed _ advertises written =>
    obtain ⟨b,hb,hnow⟩ := written
    have haccepted : ¬Rejected update := by
      rcases apply_cases m.shared.localAgent update with ⟨-,e,he⟩|⟨haccepted,-⟩
      · cases he.symm.trans hb
      · exact haccepted
    rw [hnow,signWith_update_iff (hsigned advertises) hb,apply_eq_self_iff hwf hmirrors hb,
      or_iff_right haccepted]

/-- The small node after start-up and one successful update. -/
def runningNode : Mesh :=
  (exec (step Mac.recorded) sampleNode (startUp ++ [.call (.begin (.project "beta")),
    .call (.mutate 0),.call (.refresh 0),.call (.announce 0 (.ok ())),.call (.upsert 0 1)])).get
    (by decide +kernel)

/-- An update to the project it has already cannot be announced; a tick runs meanwhile. -/
def redundantFailure : List Action :=
  [.call (.mutate 1),.tick .clone,.call (.refresh 1),.tick (.announce (.ok ())),
   .call (.announce 1 (.error (.mdns "closed"))),.tick (.upsert 2)]

/-- The node after the failed update. -/
def redundantNode : Mesh :=
  (exec (step Mac.recorded) runningNode
    (.call (.begin (.project " beta ")) :: redundantFailure)).get (by decide +kernel)

/-- The failed update to the same project has changed nothing. -/
theorem unchanged_iff_rejected_or_redundant_sample :
    ChangesNothing Mac.recorded runningNode (.call (.begin (.project " beta ")) :: redundantFailure)
      redundantNode := by
  have hsame : Redundant runningNode.shared.localAgent (.project " beta ") :=
    show trim " beta "=runningNode.shared.localAgent.project by decide +kernel
  exact (unchanged_iff_rejected_or_redundant Mac.recorded sampleConfig sampleConfig_validated
    (Mesh.init_initial _) _ (Option.some_get _).symm (by decide +kernel) (.project " beta ")
    redundantFailure (by simp [redundantFailure]) (Option.some_get _).symm (.mdns "closed")
    (by decide +kernel)).mpr (Or.inr hsame)

/-- The daemon refuses the announcement of a new status; a tick follows. -/
def refusedStatus : List Action :=
  [.call (.mutate 1),.call (.refresh 1),.call (.announce 1 (.error (.mdns "closed")))]

/-- The node when the call has returned. -/
def refusedNode : Mesh :=
  (exec (step Mac.recorded) runningNode (.call (.begin (.status .busy)) :: refusedStatus)).get
    (by decide +kernel)

/-- The node after the next tick. -/
def republishedNode : Mesh :=
  (exec (step Mac.recorded) refusedNode
    [.tick .clone,.tick (.announce (.ok ())),.tick (.upsert 2)]).get (by decide +kernel)

/-- An update that returns an error has replaced the local status, and the next heartbeat
announces and records it. -/
theorem refused_update_is_published :
    Validated sampleConfig ∧ Idle runningNode ∧
    exec (step Mac.recorded) runningNode (.call (.begin (.status .busy)) :: refusedStatus)=
      some refusedNode ∧
    refusedNode.calls[1]?=some ⟨.status .busy,.returned (.error (.mdns "closed"))⟩ ∧
    runningNode.shared.localAgent.status=.idle ∧ refusedNode.shared.localAgent.status=.busy ∧
    (lastAnnounced republishedNode.shared.wire).map AgentAnnouncement.status=some .busy ∧
    (localPayload sampleConfig republishedNode).map AgentAnnouncement.status=some .busy ∧
    republishedNode.shared.registry.events.length=refusedNode.shared.registry.events.length+1 ∧
    ¬ChangesNothing Mac.recorded runningNode (.call (.begin (.status .busy)) :: refusedStatus)
      refusedNode := by
  refine ⟨sampleConfig_validated,by decide +kernel,(Option.some_get _).symm,?_,?_,?_,?_,?_,?_,?_⟩
  case refine_7 =>
    intro h
    have hstatus := congrArg AgentAnnouncement.status h.localAgent
    have hbusy : refusedNode.shared.localAgent.status ≠ runningNode.shared.localAgent.status := by
      decide +kernel
    exact hbusy hstatus
  all_goals decide +kernel

end MeshPresence.FailedUpdates

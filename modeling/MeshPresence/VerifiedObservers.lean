import MeshPresence.LocalEntry
import MeshPresence.ListenerAdmission
import MeshPresence.CampDiscovery

/-!
# Which observers hold only verified peers

An observer reads its secrets from one source, the config file when it is named and the
options otherwise, and drops accepted secrets that come without a shared secret. Outside
sign-only mode it therefore holds only peers that verify under a supplied secret exactly when
it is not built or that source supplies the shared secret itself: the listener of any other
observer verifies nothing, and the first unsigned peer enters its registry.
-/

namespace MeshPresence.VerifiedObservers

open TextOperations FallibleSteps GuardedRuns AgentTypes AgentConfig AgentWire AgentRegistry
open AgentListener MeshBuilder ListenerAdmission SignatureVerification MeshRuntime MeshEffects
open LocalEntry CampDiscovery

/-- Settings that accept one secret. -/
def onlySecret (secret : String) : SharedSecretAuth where
  signingSecret := secret
  verificationSecrets := [secret]
  mode := .signAndVerify
  signing_mem := List.mem_singleton_self secret

/-- The config file that the options name, when it can be read. -/
def namedConfig (readCampConfig : ReadCampConfig) (options : DiscoveryOptions) :
    Option CampConfigFile :=
  options.config.bind fun path => (readCampConfig path).toOption

/-- Every secret that the options or the named config file supply, trimmed. -/
def suppliedSecrets (readCampConfig : ReadCampConfig) (options : DiscoveryOptions) : List String :=
  let ofOptions := options.sharedSecret.toList ++ options.sharedSecretAccept
  let ofConfig := (namedConfig readCampConfig options).elim [] fun config =>
    config.discovery.sharedSecret.toList ++ config.discovery.sharedSecretAccept
  (ofOptions ++ ofConfig).map trim

/-- The options or the named config file select sign-only mode. -/
def SignOnlySelected (readCampConfig : ReadCampConfig) (options : DiscoveryOptions) : Prop :=
  options.sharedSecretMode=.signOnly ∨ ∃ config, namedConfig readCampConfig options=some config ∧
    config.discovery.sharedSecretMode=.signOnly

/-- The shared secret of the source that is read: the config file when one is named. -/
def sourceSecret (readCampConfig : ReadCampConfig) (options : DiscoveryOptions) : Option String :=
  match options.config with
  | some _ => (namedConfig readCampConfig options).bind fun config => config.discovery.sharedSecret
  | none => options.sharedSecret

/-- In every state that a node can reach, every agent it holds verifies under one of the
secrets. -/
def HoldsOnlyVerified (mac : Mac) (secrets : List String) (m₀ : Mesh) : Prop :=
  ∀ (actions : List Action) (m : Mesh), exec (step mac) m₀ actions=some m →
    ∀ (id : String) (agent : AgentInfo), m.shared.registry.inner[id]?=some agent →
      ∃ secret ∈ secrets, verifySharedSecretAuth mac agent.payload (onlySecret secret)=.ok ()

/-- What resolution reads is what one source supplies. -/
structure ReadFrom (readCampConfig : ReadCampConfig) (options : DiscoveryOptions)
    (resolved : ResolvedDiscoveryOptions) : Prop where
  /-- The shared secret is that of the source. -/
  secret : resolved.sharedSecret=sourceSecret readCampConfig options
  /-- All secrets are supplied. -/
  supplied : ∀ secret ∈ resolved.sharedSecret.toList ++ resolved.sharedSecretAccept,
    trim secret ∈ suppliedSecrets readCampConfig options
  /-- The mode is sign-only only when that is selected. -/
  mode : resolved.sharedSecretMode=.signOnly → SignOnlySelected readCampConfig options

/-- Resolution reads one source. -/
theorem resolve_readFrom {readCampConfig : ReadCampConfig} {options : DiscoveryOptions}
    {resolved : ResolvedDiscoveryOptions}
    (h : resolveDiscoveryOptions readCampConfig options=.ok resolved) :
    ReadFrom readCampConfig options resolved := by
  have hmode : ∀ arg : SharedSecretModeArg, arg.toMode=.signOnly → arg=.signOnly := by
    intro arg harg
    cases arg with
    | signOnly => rfl
    | signAndVerify => cases harg
  rw [resolveDiscoveryOptions] at h
  split at h
  · next path hpath =>
    obtain ⟨config,hread,h⟩ := bind_ok h
    cases h
    have hnamed : namedConfig readCampConfig options=some config := by
      rw [namedConfig,hpath,Option.bind_some,hread]
      rfl
    refine ⟨?_,fun secret hsecret => ?_,fun h => Or.inr ⟨config,hnamed,hmode _ h⟩⟩
    · simp only [sourceSecret,hpath,hnamed,Option.bind_some]
    · rw [suppliedSecrets,hnamed]
      exact List.mem_map_of_mem (List.mem_append_right _ hsecret)
  · next hpath =>
    cases h
    refine ⟨?_,fun secret hsecret => ?_,fun h => Or.inl (hmode _ h)⟩
    · simp only [sourceSecret,hpath]
    · exact List.mem_map_of_mem (List.mem_append_left _ hsecret)

/-- The configuration of an observer with given secrets. -/
structure ObserverConfig (resolved : ResolvedDiscoveryOptions) (config : ZeroConfConfig) :
    Prop where
  /-- It is validated. -/
  validated : Validated config
  /-- It only discovers. -/
  discovers : config.advertiseLocal=false
  /-- Without the shared secret, accepted secrets are dropped. -/
  unsecured : resolved.sharedSecret=none → config.sharedSecretAuth=none
  /-- With it, all secrets are accepted. -/
  secured : ∀ secret, resolved.sharedSecret=some secret → ∃ auth,
    config.sharedSecretAuth=some auth ∧ auth.mode=resolved.sharedSecretMode ∧
    ∀ accepted ∈ auth.verificationSecrets, accepted ∈
      (resolved.sharedSecret.toList ++ resolved.sharedSecretAccept).map trim

/-- Secrets that the builder is handed. -/
def handedSecrets (resolved : ResolvedDiscoveryOptions) : Option SharedSecretBuilderConfig :=
  resolved.sharedSecret.map fun signingSecret =>
    { signingSecret, verificationSecrets := resolved.sharedSecretAccept
      mode := resolved.sharedSecretMode }

/-- The builder is handed the secrets exactly when there is a shared secret. -/
theorem applySharedSecret_eq (builder : ZeroConfMeshBuilder) (resolved : ResolvedDiscoveryOptions)
    (h : builder.sharedSecretAuth=none) :
    applySharedSecret builder resolved.sharedSecret resolved.sharedSecretAccept
      resolved.sharedSecretMode={ builder with sharedSecretAuth := handedSecrets resolved } := by
  cases hs : resolved.sharedSecret with
  | none =>
    rw [handedSecrets,hs,Option.map_none,←h]
    rfl
  | some secret =>
    rw [handedSecrets,hs,Option.map_some]
    cases ha : resolved.sharedSecretAccept with
    | nil => rfl
    | cons accepted rest => rfl

/-- Interface rules change neither the secrets nor the announcement policy. -/
theorem applyInterfaces_keeps {builder result : ZeroConfMeshBuilder} {enabled disabled : List String}
    (h : applyInterfaces builder enabled disabled=.ok result) :
    result.sharedSecretAuth=builder.sharedSecretAuth ∧
      result.advertiseLocal=builder.advertiseLocal := by
  let Kept (b : ZeroConfMeshBuilder) : Prop :=
    b.sharedSecretAuth=builder.sharedSecretAuth ∧ b.advertiseLocal=builder.advertiseLocal
  obtain ⟨between,henabled,hdisabled⟩ := bind_ok h
  have hbetween : Kept between := by
    refine foldlM_ok (P:=Kept) (fun {b selector c} hb hc => ?_) ⟨rfl,rfl⟩ henabled
    obtain ⟨interface,-,hc⟩ := bind_ok hc
    cases hc
    exact hb
  refine foldlM_ok (P:=Kept) (fun {b selector c} hb hc => ?_) hbetween hdisabled
  obtain ⟨interface,-,hc⟩ := bind_ok hc
  cases hc
  exact hb

/-- A built observer starts from a configuration with the secrets of its source. -/
theorem buildObserver_ok {mac : Mac} {readCampConfig : ReadCampConfig} {observerId : String}
    {port : UInt16} {options : DiscoveryOptions} {m₀ : Mesh}
    (h : buildObserver mac readCampConfig observerId port options=.ok m₀) :
    ∃ resolved config, ReadFrom readCampConfig options resolved ∧
      ObserverConfig resolved config ∧ Mesh.init mac config=.ok m₀ := by
  obtain ⟨resolved,hresolved,h⟩ := bind_ok h
  obtain ⟨builder,hinterfaces,h⟩ := bind_ok h
  obtain ⟨config,hconfig,h⟩ := bind_ok h
  rw [applySharedSecret_eq _ _ rfl] at hinterfaces
  obtain ⟨hsecrets,hadvertise⟩ := applyInterfaces_keeps hinterfaces
  have hbuilt := buildConfig_built (mapError_ok hconfig)
  refine ⟨resolved,config,resolve_readFrom hresolved,?_,mapError_ok h⟩
  refine ⟨hbuilt.validated,hbuilt.advertiseLocal.trans hadvertise,fun hnone => ?_,
    fun secret hsecret => ?_⟩
  · apply hbuilt.unsecured
    rw [hsecrets,handedSecrets,hnone,Option.map_none]
  · obtain ⟨auth,hrotation,hauth⟩ := hbuilt.secured
      { signingSecret := secret, verificationSecrets := resolved.sharedSecretAccept
        mode := resolved.sharedSecretMode } (by rw [hsecrets,handedSecrets,hsecret,Option.map_some])
    obtain ⟨hmode,haccepted⟩ := withRotation_ok hrotation
    refine ⟨auth,hauth,hmode,fun accepted hm => ?_⟩
    rw [hsecret]
    exact (haccepted accepted).mp hm

section Runs

variable {mac : Mac} {config : ZeroConfConfig} {auth : SharedSecretAuth} {m m' : Mesh}
  {action : Action}

/-- Every step of a verifying discovery-only node keeps its registry admitted. -/
theorem admitted_step (hdiscovers : config.advertiseLocal=false)
    (hauth : config.sharedSecretAuth=some auth) (hverify : auth.verifiesIncoming=true)
    (hlocal : LocalInvariant config m)
    (h : Admitted mac auth config.agentId m.shared.registry) (hs : step mac m action=some m') :
    Admitted mac auth config.agentId m'.shared.registry := by
  have hconfig := hlocal.unchanged
  cases step_effect hs with
  | quiet shared => rwa [shared]
  | abandon snapshot error source shared => rwa [shared]
  | skip discovery shared => rwa [shared]
  | mutate i call source hcall succeeds shared => rwa [shared]
  | clone tick waiting shared => rwa [shared]
  | refresh advertises =>
    rw [hconfig,hdiscovers] at advertises
    cases advertises
  | announce snapshot source shared => rwa [shared]
  | upsert snapshot now source shared work =>
    exact absurd hdiscovers (hlocal.advertises (work.was _ rfl) rfl)
  | browse event task shared =>
    rw [hconfig] at shared
    rw [shared]
    have hlistener : (Listener.ofConfig config).sharedSecretAuth=some auth := hauth
    exact Admitted.handle hlistener hverify h event
  | sweep order now task shared =>
    rw [shared]
    exact fun id agent hid hne => h id agent (evictStaleAt_subset m.shared.registry hid) hne
  | withdraw announcement source shared => rwa [shared]
  | remove announcement source shared =>
    rw [shared]
    exact fun id agent hid hne => h id agent (removeWithOrigin_subset m.shared.registry hid) hne

/-- A verifying discovery-only node holds only agents that verify, in every reachable state. -/
theorem observer_run (hvalid : Validated config) (hdiscovers : config.advertiseLocal=false)
    (hauth : config.sharedSecretAuth=some auth) (hverify : auth.verifiesIncoming=true)
    {m₀ : Mesh} (h₀ : Mesh.init mac config=.ok m₀) {actions : List Action}
    (hrun : exec (step mac) m₀ actions=some m) {id : String} {agent : AgentInfo}
    (hid : m.shared.registry.inner[id]?=some agent) :
    verifySharedSecretAuth mac agent.payload auth=.ok () := by
  have hempty : Admitted mac auth config.agentId m₀.shared.registry := by
    obtain ⟨a,-,rfl⟩ := init_ok h₀
    intro id agent hid
    simp only [Shared.copied,(sign_frame mac _ _).1,unsigned,Registry.new,
      Std.ExtTreeMap.getElem?_empty,reduceCtorEq] at hid
  have hinvariant : LocalInvariant config m ∧ Admitted mac auth config.agentId m.shared.registry :=
    invariant_of_exec (fun m => LocalInvariant config m ∧
      Admitted mac auth config.agentId m.shared.registry)
      (fun _ _ _ h hs => ⟨h.1.step hs,admitted_step hdiscovers hauth hverify h.1 h.2 hs⟩)
      hrun ⟨LocalInvariant.init hvalid h₀,hempty⟩
  refine hinvariant.2 id agent hid fun hlocal => ?_
  rw [hlocal,hinvariant.1.noEntry hdiscovers] at hid
  cases hid

end Runs

/-- A peer without a signature. -/
def unsignedPeer (agentId : String) : ResolvedService where
  fullname := "agent-peer._agent-mesh._tcp.local."
  port := 8081
  addresses := [.v4 0x7f000001#32]
  properties := [("agent_id",agentId),("current_branch","main"),("current_project","alpha"),
    ("role","reviewer"),("status","idle")].map TxtProperty.ofEntry

/-- A listener without shared-secret settings admits an unsigned peer. -/
theorem admits_unsigned (mac : Mac) {listener : Listener} (hauth : listener.sharedSecretAuth=none) :
    ∃ service a, listener.admits mac service=some a ∧
      a.metadata[agentAuthSchemeMetadataKey]?=none := by
  have hparse : ∀ id ∈ ["agent-a","agent-b"], ∃ a, fromResolvedService (unsignedPeer id)=.ok a ∧
      a.agentId=id ∧ a.metadata[agentAuthSchemeMetadataKey]?=none := by
    have hcheck : ∀ id ∈ ["agent-a","agent-b"],
        ((fromResolvedService (unsignedPeer id)).toOption.any fun a =>
          a.agentId=id ∧ a.metadata[agentAuthSchemeMetadataKey]?=none)=true := by decide +kernel
    intro id hid
    have hfound := hcheck id hid
    cases hparsed : fromResolvedService (unsignedPeer id) with
    | error e =>
      rw [hparsed] at hfound
      cases hfound
    | ok a =>
      rw [hparsed] at hfound
      exact ⟨a,rfl,of_decide_eq_true hfound⟩
  have hother : ∃ id ∈ ["agent-a","agent-b"], id ≠ listener.localAgentId := by
    by_cases h : listener.localAgentId="agent-a"
    · exact ⟨"agent-b",by decide,by rw [h]; decide⟩
    · exact ⟨"agent-a",by decide,fun he => h he.symm⟩
  obtain ⟨id,hid,hne⟩ := hother
  obtain ⟨a,ha,hagent,hscheme⟩ := hparse id hid
  refine ⟨unsignedPeer id,a,?_,hscheme⟩
  simp only [Listener.admits,ha,Listener.rejects,hauth,hagent,hne,if_false,Bool.false_eq_true]

/-- A discovery-only node without shared-secret settings comes to hold an unsigned agent. -/
theorem holds_unsigned {mac : Mac} {config : ZeroConfConfig}
    (hdiscovers : config.advertiseLocal=false) (hauth : config.sharedSecretAuth=none) {m₀ : Mesh}
    (h₀ : Mesh.init mac config=.ok m₀) :
    ∃ (actions : List Action) (m : Mesh) (id : String) (agent : AgentInfo),
      exec (step mac) m₀ actions=some m ∧ m.shared.registry.inner[id]?=some agent ∧
      ∀ auth, verifySharedSecretAuth mac agent.payload auth ≠ .ok () := by
  have hlistener : (Listener.ofConfig config).sharedSecretAuth=none := hauth
  obtain ⟨service,a,ha,hscheme⟩ := admits_unsigned mac hlistener
  have hstart : m₀.config=config ∧ m₀.start=.listenOnly := by
    obtain ⟨b,-,rfl⟩ := init_ok h₀
    rw [hdiscovers]
    exact ⟨rfl,rfl⟩
  let event : BrowseEvent := .serviceResolved service 0
  let started : Mesh := { m₀ with start := .running, listening := true, sweeping := true }
  let registry := (Listener.ofConfig m₀.config).handle mac m₀.shared.registry event
  have hlisten : step mac m₀ (.start (.listen (.ok ())))=some started := by
    simp only [step,Mesh.startStep,hstart.2]
    rfl
  have hbrowse : step mac started (.task (.browse event))=
      some { started with shared := { m₀.shared with registry } } := rfl
  have hregistry : registry=(m₀.shared.registry.upsertRemote a 0).2 := by
    simp only [registry,event,handle_serviceResolved,hstart.1,ha]
  refine ⟨[.start (.listen (.ok ())),.task (.browse event)],
    { started with shared := { m₀.shared with registry } },a.agentId,intoAgentInfo a 0,?_,?_,?_⟩
  · simp only [exec,hlisten,hbrowse]
  · dsimp only
    rw [hregistry]
    exact upsertWithOriginAt_same _ a 0 .remoteOrigin
  · intro auth hverified
    rw [payload_intoAgentInfo] at hverified
    cases hscheme.symm.trans (tag_of_verifySharedSecretAuth hverified).1

/-- An observer whose source has no shared secret comes to hold an unsigned agent. -/
theorem unsecured_observer {mac : Mac} {readCampConfig : ReadCampConfig} {observerId : String}
    {port : UInt16} {options : DiscoveryOptions} {m₀ : Mesh}
    (h : buildObserver mac readCampConfig observerId port options=.ok m₀)
    (hsecret : sourceSecret readCampConfig options=none) (secrets : List String) :
    ¬HoldsOnlyVerified mac secrets m₀ := by
  intro hholds
  obtain ⟨resolved,config,hread,hconfig,h₀⟩ := buildObserver_ok h
  have hnone : resolved.sharedSecret=none := hread.secret.trans hsecret
  obtain ⟨actions,m,id,agent,hrun,hid,hunsigned⟩ :=
    holds_unsigned hconfig.discovers (hconfig.unsecured hnone) h₀
  obtain ⟨secret,-,hverified⟩ := hholds actions m hrun id agent hid
  exact hunsigned _ hverified

/-- An observer whose source supplies the shared secret holds only agents that verify. -/
theorem secured_observer {mac : Mac} {readCampConfig : ReadCampConfig} {observerId : String}
    {port : UInt16} {options : DiscoveryOptions} (hmode : ¬SignOnlySelected readCampConfig options)
    {m₀ : Mesh} (h : buildObserver mac readCampConfig observerId port options=.ok m₀)
    (hsecret : (sourceSecret readCampConfig options).isSome=true) :
    HoldsOnlyVerified mac (suppliedSecrets readCampConfig options) m₀ := by
  obtain ⟨secret,hsecret⟩ := Option.isSome_iff_exists.mp hsecret
  obtain ⟨resolved,config,hread,hconfig,h₀⟩ := buildObserver_ok h
  obtain ⟨auth,hauth,hauthMode,haccepted⟩ :=
    hconfig.secured secret (hread.secret.trans hsecret)
  have hverify : auth.verifiesIncoming=true := by
    rw [SharedSecretAuth.verifiesIncoming,decide_eq_true_eq,hauthMode]
    cases hm : resolved.sharedSecretMode with
    | signOnly => exact absurd (hread.mode hm) hmode
    | signAndVerify => rfl
  intro actions m hrun id agent hid
  have hverified := observer_run hconfig.validated hconfig.discovers hauth hverify h₀ hrun hid
  obtain ⟨hscheme,accepted,hm,htag⟩ := tag_of_verifySharedSecretAuth hverified
  obtain ⟨given,hgiven,rfl⟩ := List.mem_map.mp (haccepted accepted hm)
  exact ⟨trim given,hread.supplied given hgiven,
    verifySharedSecretAuth_of_tag (trim given) hscheme htag (List.mem_singleton_self _)⟩

/-- Outside sign-only mode, an observer that is built holds only agents that verify under a
supplied secret, in every state that any interleaving of its start-up, browse events and sweeps
can reach, exactly when it is not built or the source that it reads supplies the shared secret
itself. -/
theorem holdsOnlyVerified_iff (mac : Mac) (readCampConfig : ReadCampConfig) (observerId : String)
    (port : UInt16) (options : DiscoveryOptions)
    (hmode : ¬SignOnlySelected readCampConfig options) :
    (∀ m₀, buildObserver mac readCampConfig observerId port options=.ok m₀ →
        HoldsOnlyVerified mac (suppliedSecrets readCampConfig options) m₀) ↔
      (∃ e, buildObserver mac readCampConfig observerId port options=.error e) ∨
        (sourceSecret readCampConfig options).isSome=true := by
  constructor
  · intro hholds
    cases h : buildObserver mac readCampConfig observerId port options with
    | error e => exact .inl ⟨e,rfl⟩
    | ok m₀ =>
      right
      by_contra hsecret
      exact unsecured_observer h (Option.not_isSome_iff_eq_none.mp hsecret) _ (hholds m₀ h)
  · rintro (⟨e,he⟩|hsecret) m₀ h
    · cases he.symm.trans h
    · exact secured_observer hmode h hsecret

/-- Two config files, with and without secrets. -/
def sampleFiles : ReadCampConfig := fun path =>
  let discovery : CampDiscoveryConfig :=
    { serviceType := "_agent-mesh._tcp.local.", mdnsPort := 5353 }
  if path="secured.toml" then
    .ok { discovery := { discovery with
      sharedSecret := some "mesh-secret", sharedSecretAccept := [" next-secret"] } }
  else if path=".camp.toml" then .ok { discovery }
  else .error (.config "No such file or directory")

/-- The observer of a file with secrets is built and holds only agents that verify under them;
without the file it is not built. -/
theorem holdsOnlyVerified_iff_secured :
    (∃ m₀, buildObserver Mac.recorded sampleFiles "1" 8090 { config := some "secured.toml" }=.ok m₀ ∧
      HoldsOnlyVerified Mac.recorded ["mesh-secret","next-secret"] m₀) ∧
    (∃ e, buildObserver Mac.recorded sampleFiles "1" 8090
      { config := some "missing.toml", sharedSecret := some "mesh-secret" }=.error e) := by
  let options : DiscoveryOptions := { config := some "secured.toml" }
  let missing : DiscoveryOptions :=
    { config := some "missing.toml", sharedSecret := some "mesh-secret" }
  have hbuilt : (buildObserver Mac.recorded sampleFiles "1" 8090 options).toOption.isSome=true := by
    decide +kernel
  obtain ⟨m₀,h⟩ := Option.isSome_iff_exists.mp hbuilt
  have hmode : ¬SignOnlySelected sampleFiles options := by
    rintro (hmode|⟨config,hconfig,hmode⟩)
    · cases hmode
    · cases hconfig
      cases hmode
  have hmissing : ¬SignOnlySelected sampleFiles missing := by
    rintro (hmode|⟨config,hconfig,hmode⟩)
    · cases hmode
    · cases hconfig
  have hsupplied : suppliedSecrets sampleFiles options=["mesh-secret","next-secret"] := by
    decide +kernel
  have hiff := holdsOnlyVerified_iff Mac.recorded sampleFiles "1" 8090 options hmode
  rw [hsupplied] at hiff
  refine ⟨⟨m₀,ok_of_toOption h,hiff.mpr (.inr rfl) m₀ (ok_of_toOption h)⟩,?_⟩
  -- The build fails before any secret is looked at, and the property holds for this reason.
  have hfails := (holdsOnlyVerified_iff Mac.recorded sampleFiles "1" 8090 missing hmissing).mp
    (fun _ h => nomatch h)
  exact hfails.resolve_right (by decide +kernel)

/-- With the two config files, the options supply exactly one secret and nothing selects
sign-only mode; still, the observer is built and comes to hold unverified agents. -/
def DropsSecret (options : DiscoveryOptions) (secret : String) : Prop :=
  suppliedSecrets sampleFiles options=[secret] ∧ ¬SignOnlySelected sampleFiles options ∧
  ∃ m₀, buildObserver Mac.recorded sampleFiles "1" 8090 options=.ok m₀ ∧
    ¬HoldsOnlyVerified Mac.recorded [secret] m₀

/-- An observer that is built in verifying mode from a source without a shared secret drops
the secret that the options supply. -/
theorem dropsSecret_of_source {options : DiscoveryOptions} {secret : String}
    (hsupplied : suppliedSecrets sampleFiles options=[secret])
    (hsource : sourceSecret sampleFiles options=none)
    (hmode : options.sharedSecretMode=.signAndVerify)
    (hfile : ((namedConfig sampleFiles options).all fun config =>
      config.discovery.sharedSecretMode=.signAndVerify)=true)
    (hbuilt : (buildObserver Mac.recorded sampleFiles "1" 8090 options).toOption.isSome=true) :
    DropsSecret options secret := by
  obtain ⟨m₀,h⟩ := Option.isSome_iff_exists.mp hbuilt
  refine ⟨hsupplied,?_,m₀,ok_of_toOption h,unsecured_observer (ok_of_toOption h) hsource _⟩
  rintro (hsign|⟨config,hconfig,hsign⟩)
  · cases hmode.symm.trans hsign
  · rw [hconfig,Option.all_some,decide_eq_true_eq,hsign] at hfile
    cases hfile

/-- A shared secret beside a config file without one is dropped, and so is an accepted secret
without a shared secret. -/
theorem supplied_secret_is_dropped :
    DropsSecret { config := some ".camp.toml", sharedSecret := some "mesh-secret" } "mesh-secret" ∧
      DropsSecret { sharedSecretAccept := ["mesh-secret"] } "mesh-secret" :=
  ⟨dropsSecret_of_source (by decide +kernel) (by decide +kernel) rfl (by decide +kernel)
      (by decide +kernel),
    dropsSecret_of_source (by decide +kernel) (by decide +kernel) rfl (by decide +kernel)
      (by decide +kernel)⟩

end MeshPresence.VerifiedObservers

import MeshPresence.CampCommands
import MeshPresence.PeerViews

/-!
# Announcers and observers of one config file

The announcer and the observers of a config file take their discovery settings from the same
section: they browse the same service type on the same port with the same interface rules, and
they have the same secrets. So whatever updates an announcer makes, an observer of the same file
admits its current announcement with all typed fields, unless an update still waits for its
signature, metadata keys displace what is sent, or its service does not conform to the transport.
-/

namespace MeshPresence.SharedConfigs

open TextOperations FallibleSteps GuardedRuns AgentConfig AgentWire AgentListener
open MeshBuilder MeshRuntime MeshEffects ValidatedConfig LocalEntry
open KeyShadowing SignedFields ServiceTransport MeshNetwork PeerProvenance
open CurrentAnnouncement PeerViews CampCommands
open CampConfigFiles
open CampDiscovery (DiscoveryOptions ResolvedDiscoveryOptions CampError parseNetworkInterface
  SharedSecretModeArg applySharedSecret applyInterface applyInterfaces buildObserver)
open VerifiedObservers (handedSecrets)

section Interfaces

/-- Selectors are parsed in their order and added behind the rules before. -/
theorem foldlM_applyInterface {add : ZeroConfMeshBuilder → NetworkInterface → ZeroConfMeshBuilder}
    (addAll : ZeroConfMeshBuilder → List NetworkInterface → ZeroConfMeshBuilder)
    (hnil : ∀ builder, addAll builder []=builder)
    (hcons : ∀ builder interface rest,
      addAll (add builder interface) rest=addAll builder (interface :: rest))
    {selectors : List String} {builder result : ZeroConfMeshBuilder}
    (h : selectors.foldlM (applyInterface add) builder=.ok result) :
    ∃ interfaces, selectors.mapM parseNetworkInterface=.ok interfaces ∧
      result=addAll builder interfaces := by
  induction selectors generalizing builder with
  | nil =>
    cases h
    exact ⟨[],rfl,(hnil _).symm⟩
  | cons selector selectors ih =>
    rw [List.foldlM_cons] at h
    obtain ⟨next,hnext,h⟩ := bind_ok h
    obtain ⟨interface,hinterface,hnext⟩ := bind_ok hnext
    cases hnext
    obtain ⟨interfaces,hinterfaces,hresult⟩ := ih h
    refine ⟨interface :: interfaces,?_,hresult.trans (hcons _ _ _)⟩
    rw [List.mapM_cons,mapError_ok hinterface,hinterfaces]
    rfl

/-- The rules that the selectors stand for are added to the builder. -/
theorem applyInterfaces_ok {builder result : ZeroConfMeshBuilder} {enabled disabled : List String}
    (h : applyInterfaces builder enabled disabled=.ok result) :
    ∃ enabledInterfaces disabledInterfaces,
      enabled.mapM parseNetworkInterface=.ok enabledInterfaces ∧
      disabled.mapM parseNetworkInterface=.ok disabledInterfaces ∧
      result={ builder with
        enabledInterfaces := builder.enabledInterfaces ++ enabledInterfaces
        disabledInterfaces := builder.disabledInterfaces ++ disabledInterfaces } := by
  obtain ⟨between,henabled,hdisabled⟩ := bind_ok h
  obtain ⟨enabledInterfaces,henabledParsed,rfl⟩ := foldlM_applyInterface
    (fun builder interfaces => { builder with
      enabledInterfaces := builder.enabledInterfaces ++ interfaces })
    (fun builder => by simp only [List.append_nil])
    (fun builder interface rest => by
      simp only [MeshBuilder.enableInterface,List.append_assoc,List.singleton_append]) henabled
  obtain ⟨disabledInterfaces,hdisabledParsed,rfl⟩ := foldlM_applyInterface
    (fun builder interfaces => { builder with
      disabledInterfaces := builder.disabledInterfaces ++ interfaces })
    (fun builder => by simp only [List.append_nil])
    (fun builder interface rest => by
      simp only [MeshBuilder.disableInterface,List.append_assoc,List.singleton_append]) hdisabled
  exact ⟨enabledInterfaces,disabledInterfaces,henabledParsed,hdisabledParsed,rfl⟩

end Interfaces

section Sections

/-- What a node of a discovery section has from it. -/
structure Discovers (resolved : ResolvedDiscoveryOptions) (config : ZeroConfConfig) : Prop where
  /-- The service type. -/
  serviceType : config.serviceType=trim resolved.serviceType
  /-- The port of the daemon. -/
  mdnsPort : config.mdnsPort=resolved.mdnsPort
  /-- The included interfaces. -/
  enabledInterfaces :
    resolved.enableInterface.mapM parseNetworkInterface=.ok config.enabledInterfaces
  /-- The excluded interfaces. -/
  disabledInterfaces :
    resolved.disableInterface.mapM parseNetworkInterface=.ok config.disabledInterfaces
  /-- Without a secret there are no shared-secret settings. -/
  unsecured : resolved.sharedSecret=none → config.sharedSecretAuth=none
  /-- With a secret, they are those of a rotation. -/
  secured : ∀ secret, resolved.sharedSecret=some secret → ∃ auth,
    SharedSecretAuth.withRotation secret resolved.sharedSecretAccept resolved.sharedSecretMode=
      .ok auth ∧ config.sharedSecretAuth=some auth

/-- The settings of the discovery that a builder is given are those of the built node. -/
theorem buildConfig_discovers {generatedId : String} {builder : ZeroConfMeshBuilder}
    {config : ZeroConfConfig} (h : buildConfig generatedId builder=.ok config) :
    config.serviceType=trim builder.serviceType ∧ config.mdnsPort=builder.mdnsPort ∧
      config.enabledInterfaces=builder.enabledInterfaces ∧
      config.disabledInterfaces=builder.disabledInterfaces := by
  obtain ⟨port,-,h⟩ := bind_ok h
  obtain ⟨capabilities,-,h⟩ := bind_ok h
  obtain ⟨base,hbase,h⟩ := bind_ok h
  obtain ⟨-,-,rfl⟩ := new_config hbase
  cases hauth : builder.sharedSecretAuth with
  | none =>
    simp only [hauth] at h
    cases h
    exact ⟨rfl,rfl,rfl,rfl⟩
  | some secrets =>
    simp only [hauth] at h
    obtain ⟨auth,-,h⟩ := bind_ok h
    cases h
    exact ⟨rfl,rfl,rfl,rfl⟩

/-- A builder that is given a discovery section builds a node of it. -/
theorem discovers_of_build {generatedId : String} {resolved : ResolvedDiscoveryOptions}
    {builder result : ZeroConfMeshBuilder} {config : ZeroConfConfig}
    (htype : builder.serviceType=resolved.serviceType)
    (hport : builder.mdnsPort=resolved.mdnsPort) (hrules : builder.enabledInterfaces=[] ∧
      builder.disabledInterfaces=[]) (hsecrets : builder.sharedSecretAuth=handedSecrets resolved)
    (hinterfaces : applyInterfaces builder resolved.enableInterface resolved.disableInterface=
      .ok result) (h : buildConfig generatedId result=.ok config) : Discovers resolved config := by
  obtain ⟨enabled,disabled,henabled,hdisabled,rfl⟩ := applyInterfaces_ok hinterfaces
  obtain ⟨hconfigType,hconfigPort,hconfigEnabled,hconfigDisabled⟩ := buildConfig_discovers h
  have hbuilt := buildConfig_built h
  rw [hrules.1,List.nil_append] at hconfigEnabled
  rw [hrules.2,List.nil_append] at hconfigDisabled
  refine ⟨hconfigType.trans (congrArg trim htype),hconfigPort.trans hport,
    hconfigEnabled ▸ henabled,hconfigDisabled ▸ hdisabled,fun hnone => hbuilt.unsecured ?_,
    fun secret hsecret => ?_⟩
  · rw [hsecrets,handedSecrets,hnone,Option.map_none]
  · exact hbuilt.secured { signingSecret := secret
                           verificationSecrets := resolved.sharedSecretAccept
                           mode := resolved.sharedSecretMode }
      (by rw [hsecrets,handedSecrets,hsecret,Option.map_some])

/-- The discovery section of a config file. -/
def resolvedSection (file : CampConfigFile) : ResolvedDiscoveryOptions where
  serviceType := file.discovery.serviceType
  mdnsPort := file.discovery.mdnsPort
  sharedSecret := file.discovery.sharedSecret
  sharedSecretAccept := file.discovery.sharedSecretAccept
  sharedSecretMode := file.discovery.sharedSecretMode.toMode
  enableInterface := file.discovery.enableInterface
  disableInterface := file.discovery.disableInterface

/-- Two nodes of one section have the same settings of the discovery. -/
theorem Discovers.agree {resolved : ResolvedDiscoveryOptions} {config other : ZeroConfConfig}
    (h : Discovers resolved config) (h' : Discovers resolved other) :
    config.serviceType=other.serviceType ∧ config.mdnsPort=other.mdnsPort ∧
      config.enabledInterfaces=other.enabledInterfaces ∧
      config.disabledInterfaces=other.disabledInterfaces ∧
      config.sharedSecretAuth=other.sharedSecretAuth := by
  refine ⟨h.serviceType.trans h'.serviceType.symm,h.mdnsPort.trans h'.mdnsPort.symm,
    Except.ok.inj (h.enabledInterfaces.symm.trans h'.enabledInterfaces),
    Except.ok.inj (h.disabledInterfaces.symm.trans h'.disabledInterfaces),?_⟩
  cases hs : resolved.sharedSecret with
  | none => rw [h.unsecured hs,h'.unsecured hs]
  | some secret =>
    obtain ⟨auth,hrotation,hauth⟩ := h.secured secret hs
    obtain ⟨auth',hrotation',hauth'⟩ := h'.secured secret hs
    rw [hauth,hauth',Except.ok.inj (hrotation.symm.trans hrotation')]

end Sections

section Commands

variable {ℓ : Type} {mac : Mac} {codec : TomlCodec} {fs : FileSystem ℓ} {path : String} {m : Mesh}

/-- What `camp up` starts from. -/
theorem runUp_ok (h : runUp mac codec fs path=.ok m) : ∃ file config,
    readCampConfig codec fs path=.ok file ∧ Discovers (resolvedSection file) config ∧
    config.advertiseLocal=true ∧ Validated config ∧ Mesh.init mac config=.ok m := by
  obtain ⟨file,hfile,h⟩ := bind_ok h
  obtain ⟨builder,hinterfaces,h⟩ := bind_ok h
  obtain ⟨config,hconfig,h⟩ := bind_ok h
  have hbase := applyMetadata_eq (announcerBuilder (.ofFile file)) file.agent.metadata.toList
  have hsecrets : (applyMetadata (announcerBuilder (.ofFile file))
      file.agent.metadata.toList).sharedSecretAuth=none := by
    rw [hbase]
    rfl
  have happlied := VerifiedObservers.applySharedSecret_eq _ (resolvedSection file) hsecrets
  have hbuilder : applyInterfaces { applyMetadata (announcerBuilder (.ofFile file))
        file.agent.metadata.toList with sharedSecretAuth := handedSecrets (resolvedSection file) }
      file.discovery.enableInterface file.discovery.disableInterface=.ok builder :=
    happlied ▸ hinterfaces
  have hbuilt := buildConfig_built (mapError_ok hconfig)
  obtain ⟨-,hadvertise⟩ := VerifiedObservers.applyInterfaces_keeps hbuilder
  refine ⟨file,config,hfile,?_,?_,hbuilt.validated,mapError_ok h⟩
  · refine discovers_of_build ?_ ?_ ?_ rfl hbuilder (mapError_ok hconfig) <;> rw [hbase]
    · rfl
    · rfl
    · exact ⟨rfl,rfl⟩
  · rw [hbuilt.advertiseLocal,hadvertise,hbase]
    rfl

/-- What an observer of a config file starts from. -/
theorem buildObserver_discovers {observerId : String} {port : UInt16} {options : DiscoveryOptions}
    {file : CampConfigFile} (hfile : readCampConfig codec fs path=.ok file)
    (h : buildObserver mac (observedConfig codec fs) observerId port
      { options with config := some path }=.ok m) :
    ∃ config, Discovers (resolvedSection file) config ∧ Mesh.init mac config=.ok m := by
  obtain ⟨resolved,hresolved,hbuild⟩ := bind_ok h
  obtain ⟨builder,hinterfaces,hnode⟩ := bind_ok hbuild
  obtain ⟨config,hconfig,hmesh⟩ := bind_ok hnode
  have hsection : resolved=resolvedSection file := by
    simp only [CampDiscovery.resolveDiscoveryOptions,observedConfig,hfile,Except.map,ok_bind]
      at hresolved
    cases hresolved
    rfl
  subst hsection
  rw [VerifiedObservers.applySharedSecret_eq _ _ rfl] at hinterfaces
  exact ⟨config,discovers_of_build rfl rfl ⟨rfl,rfl⟩ rfl hinterfaces (mapError_ok hconfig),
    mapError_ok hmesh⟩

end Commands

section Updates

variable {mac : Mac} {m m' : Mesh} {action : Action}

/-- The local announcement is signed when configured, unless an update is still to do that. -/
def SignedOrDue (mac : Mac) (m : Mesh) : Prop :=
  ∀ auth, m.config.sharedSecretAuth=some auth →
    SelfSigned mac auth m.shared.localAgent ∨ Pending.refresh ∈ m.pendings

/-- Every step of an advertising node keeps its announcement signed or to be signed. -/
theorem SignedOrDue.step (h : SignedOrDue mac m) (hadvertise : m.config.advertiseLocal=true)
    (hs : MeshRuntime.step mac m action=some m') : SignedOrDue mac m' := by
  cases step_effect hs with
  | quiet shared work | clone tick waiting shared work | browse event task shared work
    | sweep order now task shared work | withdraw announcement source shared work
    | remove announcement source shared work =>
    exact signed_kept h hs work none_ne_refresh ((congrArg Shared.localAgent shared).trans rfl)
  | abandon snapshot error source shared work | upsert snapshot now source shared work =>
    exact signed_kept h hs work (upsert_ne_refresh _) ((congrArg Shared.localAgent shared).trans rfl)
  | announce snapshot source shared next hnext work =>
    exact signed_kept h hs work (announce_ne_refresh _) ((congrArg Shared.localAgent shared).trans rfl)
  | skip discovery shared work =>
    rw [hadvertise] at discovery
    cases discovery
  | mutate i call source hcall succeeds shared work => exact fun _ _ => Or.inr (work.now _ rfl)
  | refresh advertises shared work =>
    intro auth hauth
    rw [(step_frame hs).config] at hauth
    rw [shared,hauth]
    exact Or.inl (applySharedSecretAuth_selfSigned mac m.shared.localAgent auth)

/-- In every state of an announcer, it is honest, has the configuration that it was built with,
and its announcement is signed or to be signed. -/
theorem announcer_run {config : ZeroConfConfig} (hvalid : Validated config)
    (hadvertise : config.advertiseLocal=true) {m₀ : Mesh} (h₀ : Mesh.init mac config=.ok m₀)
    {actions : List Action} (hrun : exec (MeshRuntime.step mac) m₀ actions=some m) :
    m.config=config ∧ Honest m ∧ SignedOrDue mac m := by
  have hconfig := (LocalInvariant.init hvalid h₀).unchanged
  have hstart : SignedOrDue mac m₀ :=
    (Announcing.init hvalid hadvertise h₀).signed
  refine invariant_of_exec (fun m => m.config=config ∧ Honest m ∧ SignedOrDue mac m)
    (fun m action m' h hs => ?_) hrun ⟨hconfig,Honest.init hvalid h₀,hstart⟩
  exact ⟨(step_frame hs).config.trans h.1,h.2.1.step hs,
    h.2.2.step (by rw [h.1]; exact hadvertise) hs⟩

end Updates

/-- A node that `camp up` builds from a config file and an observer that reads the same file
browse one service type on one port with the same interface rules. In every state that the
announcer can reach in which no update waits for its signature, the observer admits the current
announcement with all typed fields, whatever addresses a lawful transport resolves it with. The
identifiers have to differ, the service has to conform to the transport, no metadata key may
displace a canonical one on the way, and when there is a secret no two keys may be equal up to
case. -/
theorem file_peers_are_admitted {ℓ : Type} (mac : Mac) (codec : TomlCodec) (fs : FileSystem ℓ)
    (path : String) {announcer observer : Mesh} (hup : runUp mac codec fs path=.ok announcer)
    (observerId : String) (port : UInt16) (options : DiscoveryOptions)
    (hobserver : buildObserver mac (observedConfig codec fs) observerId port
      { options with config := some path }=.ok observer) :
    (observer.config.serviceType=announcer.config.serviceType ∧
      observer.config.mdnsPort=announcer.config.mdnsPort ∧
      observer.config.enabledInterfaces=announcer.config.enabledInterfaces ∧
      observer.config.disabledInterfaces=announcer.config.disabledInterfaces) ∧
    ∀ (transport : Transport), transport.Lawful → ∀ (actions : List Action) (peer : Mesh),
      exec (MeshRuntime.step mac) announcer actions=some peer → Pending.refresh ∉ peer.pendings →
      peer.config.agentId ≠ observer.config.agentId → Unshadowed peer.shared.localAgent →
      (observer.config.sharedSecretAuth.isSome=true → CaseDistinct peer.shared.localAgent) →
      Conforms transport (currently peer).service →
      ∀ addresses, ∃ a, (Listener.ofConfig observer.config).admits mac
          ((currently peer).service.resolved transport addresses)=some a ∧
        SameFields peer.shared.localAgent a := by
  obtain ⟨file,config,hfile,hdiscovers,hadvertise,hvalid,h₀⟩ := runUp_ok hup
  obtain ⟨other,hother,hother₀⟩ := buildObserver_discovers hfile hobserver
  have hannouncer : announcer.config=config := by
    obtain ⟨a,-,rfl⟩ := init_ok h₀
    rfl
  have hobserved : observer.config=other := by
    obtain ⟨a,-,rfl⟩ := init_ok hother₀
    rfl
  obtain ⟨htype,hport,henabled,hdisabled,hauth⟩ := hother.agree hdiscovers
  rw [hannouncer,hobserved]
  refine ⟨⟨htype,hport,henabled,hdisabled⟩,?_⟩
  intro transport hlawful actions peer hrun hrefresh hne hunshadowed hdistinct hconforms addresses
  obtain ⟨hconfig,hhonest,hsigned⟩ := announcer_run hvalid hadvertise h₀ hrun
  have haccepts : Accepts other peer := by
    refine ⟨hne,hunshadowed,fun auth hsecured hverifies => ⟨hdistinct (by rw [hsecured]; rfl),auth,?_,
      auth.signing_mem⟩⟩
    rw [hconfig,←hauth,hsecured]
  have harrives : ArrivesNamed transport (currently peer) :=
    .of_conforms hlawful hhonest.identity.localAgent hconforms
  obtain ⟨a,hadmitted⟩ := haccepts.admits hhonest
    (fun auth hauth => (hsigned auth hauth).resolve_right hrefresh) harrives addresses
  have hreceived := (admits_some hadmitted).1
  rw [harrives.decoded addresses] at hreceived
  exact ⟨a,hadmitted,sameFields_of_received hunshadowed hhonest.wellFormed.localAgent hreceived⟩

/-- The files after `camp init`. -/
def configuredFiles : FileSystem (List String) :=
  { sampleFiles with
    entries := NodeFamilies.place sampleFiles.entries ["mesh",".camp.toml"]
      (some (.text (sampleText ++ ['\n']))) }

/-- The config file is read. -/
theorem readCampConfig_configured :
    readCampConfig sampleCodec configuredFiles ".camp.toml"=.ok sampleConfig := by
  have hplace : configuredFiles.locate (FilePaths.components ".camp.toml")=
      ["mesh",".camp.toml"] := by
    decide +kernel
  have hprinted : sampleCodec.toStringPretty sampleConfig=.ok sampleText := by
    simp only [sampleCodec,if_true]
  refine readCampConfig_printed hprinted ?_ readsBack_sampleConfig
  rw [FileSystem.get,hplace]
  simp only [configuredFiles,NodeFamilies.place_self]

/-- The announcer of the config file. -/
def configuredAnnouncer : Mesh :=
  (runAnnounceWithSettings Mac.recorded (.ofFile sampleConfig)).toOption.get (by decide +kernel)

/-- An observer of the config file. -/
def configuredObserver : Mesh :=
  (buildObserver Mac.recorded (fun _ => .ok sampleConfig.observed) "1" 8090
    { config := some ".camp.toml" }).toOption.get (by decide +kernel)

/-- The announcer starts and becomes busy. -/
def startAndWork : List Action :=
  [.start (.announce (.ok ())),.start (.listen (.ok ())),.start (.upsert 0),
   .call (.begin (.status .busy)),.call (.mutate 0),.call (.refresh 0)]

/-- The busy announcer. -/
def workingAnnouncer : Mesh :=
  (exec (MeshRuntime.step Mac.recorded) configuredAnnouncer startAndWork).get (by decide +kernel)

/-- The observer admits the signed announcement of the busy announcer. -/
theorem file_peers_are_admitted_sample :
    configuredObserver.config.sharedSecretAuth.isSome=true ∧
    ∃ a, (Listener.ofConfig configuredObserver.config).admits Mac.recorded
        ((currently workingAnnouncer).service.resolved plainTransport [])=some a ∧
      SameFields workingAnnouncer.shared.localAgent a := by
  have hup : runUp Mac.recorded sampleCodec configuredFiles ".camp.toml"=
      .ok configuredAnnouncer := by
    rw [runUp,readCampConfig_configured,ok_bind]
    exact ok_of_toOption (Option.some_get _).symm
  have hobserver : buildObserver Mac.recorded (observedConfig sampleCodec configuredFiles) "1" 8090
      { config := some ".camp.toml" }=.ok configuredObserver := by
    have hfile : observedConfig sampleCodec configuredFiles ".camp.toml"=
        .ok sampleConfig.observed := by
      rw [observedConfig,readCampConfig_configured]
      rfl
    have hbuilt : buildObserver Mac.recorded (fun _ => .ok sampleConfig.observed) "1" 8090
        { config := some ".camp.toml" }=.ok configuredObserver :=
      ok_of_toOption (Option.some_get _).symm
    rw [←hbuilt]
    simp only [buildObserver,CampDiscovery.resolveDiscoveryOptions,hfile]
  have hrun : exec (MeshRuntime.step Mac.recorded) configuredAnnouncer startAndWork=
      some workingAnnouncer := (Option.some_get _).symm
  have hrefresh : Pending.refresh ∉ workingAnnouncer.pendings := by decide +kernel
  have hne : workingAnnouncer.config.agentId ≠ configuredObserver.config.agentId := by
    decide +kernel
  have hunshadowed : Unshadowed workingAnnouncer.shared.localAgent := by decide +kernel
  have hdistinct : CaseDistinct workingAnnouncer.shared.localAgent := by decide +kernel
  have hconforms : Conforms plainTransport (currently workingAnnouncer).service := by
    refine ⟨⟨?_,?_,?_,"agent-mesh",by decide,by decide,.inl ?_⟩,trivial,?_⟩ <;> decide +kernel
  have hadmitted := (file_peers_are_admitted Mac.recorded sampleCodec configuredFiles ".camp.toml"
    hup "1" 8090 {} hobserver).2 plainTransport plainTransport_lawful startAndWork workingAnnouncer
    hrun hrefresh hne hunshadowed (fun _ => hdistinct) hconforms []
  exact ⟨by decide +kernel,hadmitted⟩

end MeshPresence.SharedConfigs

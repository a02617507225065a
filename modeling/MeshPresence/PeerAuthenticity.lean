import MeshPresence.PeerProvenance
import MeshPresence.SignedFields
import MeshPresence.ListenerAdmission

/-!
# Peers of verifying nodes are authentic

Anyone on the network may publish any service, and may replay what nodes published. Nobody
forges: a service that carries the tag of its own payload under a protected secret has a
payload that a node signed with this secret. Then every peer that a verifying node lists,
in any interleaving of honest and foreign activity, has a payload that a node with an
accepted secret signed. When that node advertises no line feeds, all typed fields of the
record are the ones it signed; whatever else was injected has changed none of them.
-/

namespace MeshPresence.PeerAuthenticity

open GuardedRuns NodeFamilies AgentTypes AgentConfig AgentWire AgentRegistry AgentListener
open AnnouncementInvariant SignatureVerification SignedFields PeerCanonicity ListenerAdmission
open MeshRuntime MeshEffects LocalEntry CopyInvariants ServiceTransport MeshNetwork PeerProvenance

/-- What is known of a signature of a node. -/
structure TrueSigning (s : Signing) : Prop where
  /-- The configuration is validated. -/
  validated : Validated s.config
  /-- The node signs with its own settings. -/
  configured : s.config.sharedSecretAuth=some s.auth
  /-- The announcement has the identity of the configuration. -/
  identity : IsLocal s.config s.announcement
  /-- The announcement is well formed. -/
  wellFormed : WellFormed s.announcement

section Signings

variable {mac : Mac} {config : ZeroConfConfig} {m m' : Mesh} {action : Action}

/-- No new write section, no signature. -/
theorem signings_same (h : m'.shared.sections=m.shared.sections) :
    signings m.shared.sections.length m'=[] := by
  rw [signings,h,List.drop_length,List.filterMap_nil]

/-- The signature of one new write section. -/
theorem signings_concat {mutator : Mutator}
    (h : m'.shared.sections=m.shared.sections ++ [mutator]) {s : Signing}
    (hs : s ∈ signings m.shared.sections.length m') : ∃ auth, mutator=.applySharedSecretAuth auth ∧
      s={ config := m'.config, auth, announcement := m'.shared.localAgent } := by
  rw [signings,h,List.drop_left] at hs
  obtain ⟨other,hm,he⟩ := List.mem_filterMap.mp hs
  cases List.mem_singleton.mp hm
  cases mutator with
  | update update => cases he
  | applySharedSecretAuth auth =>
    cases he
    exact ⟨auth,rfl,rfl⟩

/-- The write sections after signing when configured. -/
theorem sign_sections (mac : Mac) (s : Shared) (auth : Option SharedSecretAuth) :
    (s.sign mac auth).sections=s.sections ++ (auth.map Mutator.applySharedSecretAuth).toList := by
  cases auth with
  | none => exact (List.append_nil _).symm
  | some auth => rfl

/-- A node that signs makes a true signature. -/
theorem Honest.signs (h : Honest m) (hs : MeshRuntime.step mac m action=some m') {s : Signing}
    (hm : s ∈ signings m.shared.sections.length m') : TrueSigning s := by
  have hhonest := h.step hs
  have hconfig := (step_frame hs).config
  have hnone : m'.shared.sections=m.shared.sections → TrueSigning s := by
    intro hsame
    rw [signings_same hsame] at hm
    exact absurd hm List.not_mem_nil
  cases step_effect hs with
  | quiet shared | abandon snapshot error source shared | skip discovery shared
    | clone tick waiting shared | announce snapshot source shared
    | upsert snapshot now source shared | browse event task shared | sweep order now task shared
    | withdraw announcement source shared | remove announcement source shared =>
    exact hnone (shared ▸ rfl)
  | mutate i call source hcall succeeds shared =>
    have hsections : m'.shared.sections=m.shared.sections ++ [.update call.update] := shared ▸ rfl
    obtain ⟨auth,he,-⟩ := signings_concat hsections hm
    cases he
  | refresh advertises shared =>
    have hsections : m'.shared.sections=m.shared.sections ++
        (m.config.sharedSecretAuth.map Mutator.applySharedSecretAuth).toList := by
      rw [shared,Shared.copied,sign_sections]
    cases hauth : m.config.sharedSecretAuth with
    | none =>
      rw [hauth] at hsections
      exact hnone (hsections.trans (List.append_nil _))
    | some auth =>
      rw [hauth] at hsections
      obtain ⟨other,he,rfl⟩ := signings_concat hsections hm
      cases he
      exact ⟨hhonest.validated,hconfig ▸ hauth,hhonest.identity.localAgent,
        hhonest.wellFormed.localAgent⟩

/-- A node that is built makes true signatures. -/
theorem signs_init (hvalid : Validated config) (h : Mesh.init mac config=.ok m) {s : Signing}
    (hm : s ∈ signings 0 m) : TrueSigning s := by
  have hhonest := Honest.init hvalid h
  have hconfig := hhonest.identity.unchanged
  obtain ⟨a,-,rfl⟩ := init_ok h
  rw [signings,List.drop_zero] at hm
  obtain ⟨mutator,hmutator,he⟩ := List.mem_filterMap.mp hm
  rw [Shared.copied,sign_sections] at hmutator
  cases hauth : config.sharedSecretAuth with
  | none =>
    rw [hauth] at hmutator
    exact absurd hmutator List.not_mem_nil
  | some auth =>
    rw [hauth] at hmutator
    cases List.mem_singleton.mp hmutator
    cases he
    exact ⟨hvalid,hauth,hhonest.identity.localAgent,hhonest.wellFormed.localAgent⟩

end Signings

section Networks

variable {ι : Type}

/-- The service that a step resolves. -/
def resolvedBy (transport : Transport) (net : Network ι) :
    NetworkAction ι → Option ResolvedService
  | .deliver _ n addresses _ =>
    net.registered[n]?.map fun r => r.service.resolved transport addresses
  | .inject _ service _ => some service
  | _ => none

/-- A node signed a payload with a secret. -/
def wasSigned (net : Network ι) (secret payload : String) : Bool :=
  net.signed.any fun s => s.auth.signingSecret=secret && signaturePayload s.announcement=payload

/-- When a resolved service carries the tag of its own payload under a protected secret, the
payload was signed with it. -/
def unforged (mac : Mac) (transport : Transport) (secrets : List String)
    (net : Network ι) (action : NetworkAction ι) : Bool :=
  ((resolvedBy transport net action).bind fun service => (fromResolvedService service).toOption).all
    fun b => secrets.all fun secret =>
      b.metadata[agentSignatureMetadataKey]? ≠ some (mac.tag secret (signaturePayload b)) ||
        wasSigned net secret (signaturePayload b)

/-- The guard of a run without forgeries. -/
def Unforged (mac : Mac) (transport : Transport) (secrets : List String)
    (net : Network ι) (action : NetworkAction ι) : Prop :=
  unforged mac transport secrets net action=true

instance (mac : Mac) (transport : Transport) (secrets : List String) (net : Network ι)
    (action : NetworkAction ι) : Decidable (Unforged mac transport secrets net action) :=
  inferInstanceAs (Decidable (_=true))

/-- A node signed the payload of an announcement with an accepted secret. -/
def Attested (net : Network ι) (auth : SharedSecretAuth) (a : AgentAnnouncement) : Prop :=
  ∃ s ∈ net.signed, s.auth.signingSecret ∈ auth.verificationSecrets ∧
    signaturePayload s.announcement=signaturePayload a

variable {mac : Mac} {transport : Transport} {secrets : List String}
  {net net' : Network ι} {action : NetworkAction ι}

/-- Signatures stay. -/
theorem Attested.mono (h : ∀ s ∈ net.signed, s ∈ net'.signed) {auth : SharedSecretAuth}
    {a : AgentAnnouncement} (ha : Attested net auth a) : Attested net' auth a := by
  obtain ⟨s,hs,hsecret,hpayload⟩ := ha
  exact ⟨s,h s hs,hsecret,hpayload⟩

/-- Without forgeries a resolved service that verifies is attested. -/
theorem Unforged.attested (hg : Unforged mac transport secrets net action)
    {service : ResolvedService} (hservice : resolvedBy transport net action=some service)
    {b : AgentAnnouncement} (hdecoded : fromResolvedService service=.ok b)
    {auth : SharedSecretAuth} (hprotected : ∀ secret ∈ auth.verificationSecrets, secret ∈ secrets)
    (hverify : verifySharedSecretAuth mac b auth=.ok ()) : Attested net auth b := by
  obtain ⟨-,secret,hsecret,htag⟩ := tag_of_verifySharedSecretAuth hverify
  simp only [Unforged,unforged,hservice,Option.bind_some,hdecoded,Except.toOption,Option.all_some,
    List.all_eq_true] at hg
  have hsigned := hg secret (hprotected secret hsecret)
  rw [htag,Bool.or_eq_true,decide_eq_true_eq] at hsigned
  obtain ⟨s,hs,he⟩ := List.any_eq_true.mp (hsigned.resolve_left fun hne => hne rfl)
  rw [Bool.and_eq_true,decide_eq_true_eq,decide_eq_true_eq] at he
  exact ⟨s,hs,he.1 ▸ hsecret,he.2⟩

/-- Under verifying settings whose secrets are protected, the peers of a node are attested. -/
def ListsAttested (secrets : List String) (net : Network ι) (m : Mesh) : Prop :=
  ∀ auth, m.config.sharedSecretAuth=some auth → auth.mode=.signAndVerify →
    (∀ secret ∈ auth.verificationSecrets, secret ∈ secrets) →
    ∀ (id : String) (agent : AgentInfo), m.shared.registry.inner[id]?=some agent →
      id ≠ m.config.agentId → agent.id=id ∧ WellFormed agent.payload ∧
        Attested net auth agent.payload

/-- The invariant of a network without forgeries. -/
structure Authentic (secrets : List String) (net : Network ι) : Prop where
  /-- Nodes are honest. -/
  nodes : Live (fun _ m => Honest m) net.nodes
  /-- Signatures are true. -/
  signed : ∀ s ∈ net.signed, TrueSigning s
  /-- Peers are attested. -/
  records : Live (fun _ m => ListsAttested secrets net m) net.nodes

/-- Peers stay attested when more is signed. -/
theorem ListsAttested.mono (h : ∀ s ∈ net.signed, s ∈ net'.signed) {m : Mesh}
    (hm : ListsAttested secrets net m) : ListsAttested secrets net' m :=
  fun auth hauth hmode hprotected id agent ha hne =>
    have ⟨hid,hwf,hattested⟩ := hm auth hauth hmode hprotected id agent ha hne
    ⟨hid,hwf,hattested.mono h⟩

/-- A new node lists nobody. -/
theorem ListsAttested.init {config : ZeroConfConfig} {m : Mesh}
    (h : Mesh.init mac config=.ok m) : ListsAttested secrets net m := by
  obtain ⟨a,-,rfl⟩ := init_ok h
  intro auth _ _ _ id agent hid
  simp only [Shared.copied,(sign_frame mac _ _).1,unsigned,Registry.new,
    Std.ExtTreeMap.getElem?_empty,reduceCtorEq] at hid

/-- A step of a node keeps its peers attested, when it resolves what is not forged. -/
theorem ListsAttested.step {m m' : Mesh} {own : Action} (h : ListsAttested secrets net m)
    (hhonest : Honest m) (hs : MeshRuntime.step mac m own=some m')
    (hown : ∀ service now, own=resolution service now →
      resolvedBy transport net action=some service) (hg : Unforged mac transport secrets net action) :
    ListsAttested secrets net m' := by
  intro auth hauth hmode hprotected id agent ha hne
  have hconfig := (step_frame hs).config
  rw [hconfig] at hne hauth
  rcases step_record hhonest.identity hs ha hne with hold|⟨service,now,he,hadmits,-,hid⟩
  · exact h auth hauth hmode hprotected id agent hold hne
  · obtain ⟨hdecoded,-,hreject⟩ := admits_some hadmits
    have hlistener : (Listener.ofConfig m.config).sharedSecretAuth=some auth := hauth
    have hverify := verify_of_not_rejected hlistener (decide_eq_true hmode) hreject
    exact ⟨hid,wellFormed_of_decoded hdecoded,
      hg.attested (hown service now he) hdecoded hprotected hverify⟩

variable [DecidableEq ι]

/-- A node of an authentic network moves on. -/
theorem Authentic.moved (h : Authentic secrets net) {i : ι} {m m' : Mesh} {own : Action}
    (hnode : net.nodes i=some m) (hs : MeshRuntime.step mac m own=some m')
    (hnodes : net'.nodes=place net.nodes i (some m'))
    (hsigned : ∀ s ∈ net'.signed, s ∈ net.signed ∨ s ∈ signings m.shared.sections.length m')
    (hkept : ∀ s ∈ net.signed, s ∈ net'.signed)
    (hown : ∀ service now, own=resolution service now →
      resolvedBy transport net action=some service) (hg : Unforged mac transport secrets net action) :
    Authentic secrets net' where
  nodes := by
    rw [hnodes]
    exact h.nodes.place ((h.nodes i m hnode).step hs)
  signed := fun s hm => (hsigned s hm).elim (h.signed s) fun hm =>
    Honest.signs (h.nodes i m hnode) hs hm
  records := by
    rw [hnodes]
    intro j t ht
    rcases place_cases ht with ⟨-,hst⟩|⟨-,ht⟩
    · cases hst
      exact ((h.records i m hnode).step (h.nodes i m hnode) hs hown hg).mono hkept
    · exact (h.records j t ht).mono hkept

/-- Every step that resolves nothing forged keeps a network authentic. -/
theorem Authentic.step (h : Authentic secrets net) (hg : Unforged mac transport secrets net action)
    (hs : net.step mac transport action=some net') : Authentic secrets net' := by
  cases step_cases hs with
  | build i generatedId builder config m free hconfig hinit =>
    have hvalid := (MeshBuilder.buildConfig_built hconfig).validated
    have hkept : ∀ s ∈ net.signed, s ∈ (net.built i m).signed := fun s =>
      List.mem_append_left _
    refine ⟨h.nodes.place (Honest.init hvalid hinit),fun s hm => ?_,?_⟩
    · exact (List.mem_append.mp hm).elim (h.signed s) fun hm => signs_init hvalid hinit hm
    · refine Live.place (fun j t ht => (h.records j t ht).mono hkept) (ListsAttested.init hinit)
  | act i own m m' hnode hown hm =>
    refine h.moved hnode hm rfl (fun s => List.mem_append.mp) (fun s => List.mem_append_left _)
      (fun service now he => ?_) hg
    rw [he] at hown
    cases hown
  | deliver i n addresses now r m m' hnode hregistered hm =>
    refine h.moved hnode hm rfl (fun s => Or.inl) (fun s => id) (fun service t he => ?_) hg
    cases he
    rw [resolvedBy,hregistered,Option.map_some]
  | inject i service now m m' hnode hm =>
    refine h.moved hnode hm rfl (fun s => Or.inl) (fun s => id) (fun other t he => ?_) hg
    cases he
    rfl
  | vanish i => exact ⟨h.nodes.clear i,h.signed,h.records.clear i⟩

/-- In every run without forgeries under the protected secrets, whatever is injected, replayed or
lost: a peer that a verifying node lists, whose accepted secrets are protected, has a payload
that a node of a validated configuration signed as its own with one of these secrets. When the
signed announcement is linewise, the record has its typed fields and is listed under the
identifier of the node that signed. -/
theorem peers_are_authentic (mac : Mac) (transport : Transport) (secrets : List String)
    (actions : List (NetworkAction ι)) (net : Network ι)
    (hg : Guarded (Network.step mac transport) (Unforged mac transport secrets) (Network.empty ι)
      actions)
    (hrun : exec (Network.step mac transport) (Network.empty ι) actions=some net) (i : ι) (m : Mesh)
    (hnode : net.nodes i=some m) (auth : SharedSecretAuth)
    (hauth : m.config.sharedSecretAuth=some auth) (hmode : auth.mode=.signAndVerify)
    (hprotected : ∀ secret ∈ auth.verificationSecrets, secret ∈ secrets) (id : String)
    (agent : AgentInfo) (hrecord : m.shared.registry.inner[id]?=some agent)
    (hne : id ≠ m.config.agentId) :
    ∃ s ∈ net.signed, TrueSigning s ∧ s.auth.signingSecret ∈ auth.verificationSecrets ∧
      signaturePayload s.announcement=signaturePayload agent.payload ∧
      (Linewise s.announcement →
        SameFields s.announcement agent.payload ∧ s.config.agentId=id) := by
  have hempty : Authentic secrets (Network.empty ι) :=
    ⟨Live.none _,fun s hs => absurd hs List.not_mem_nil,Live.none _⟩
  have h : Authentic secrets net := invariant_of_guarded (Authentic secrets)
    (fun _ _ _ h hg hs => h.step hg hs) hg hrun hempty
  obtain ⟨hid,hwf,s,hs,hsecret,hpayload⟩ :=
    h.records i m hnode auth hauth hmode hprotected id agent hrecord hne
  have htrue := h.signed s hs
  refine ⟨s,hs,htrue,hsecret,hpayload,fun hline => ?_⟩
  have hfields := sameFields_of_payload htrue.wellFormed hwf hline hpayload
  exact ⟨hfields,htrue.identity.1.symm.trans (hfields.agentId.trans hid)⟩

end Networks

/-- A coder that signs, or another verifying node. -/
def signingBuilder (agentId role project branch : String) : MeshBuilder.ZeroConfMeshBuilder :=
  MeshBuilder.sharedSecretWithMode
    { agentId := some agentId, role, project, branch, port := some 8080 } "mesh-secret" .signAndVerify

/-- A signed announcement and a foreign service with a wrong tag reach a verifying node. -/
def guardedMeeting : List (NetworkAction Bool) :=
  [.build false "" (signingBuilder "agent-local" "coder" "alpha" "main"),
   .act false (.start (.announce (.ok ()))),
   .build true "" (signingBuilder "agent-b" "reviewer" "alpha" "main"),
   .act true (.start (.announce (.ok ()))),.act true (.start (.listen (.ok ()))),
   .inject true (samplePeer "agent-peer" "forged") 1,.deliver true 0 [.v4 0x7f000001#32] 2]

/-- The network after the signed announcement arrived. -/
def guardedNetwork : Network Bool :=
  (exec (Network.step Mac.recorded plainTransport) (Network.empty Bool) guardedMeeting).get
    (by decide +kernel)

/-- The verifying node. -/
def verifier : Mesh := (guardedNetwork.nodes true).get (by decide +kernel)

/-- Its settings. -/
def verifierAuth : SharedSecretAuth := verifier.config.sharedSecretAuth.get (by decide +kernel)

/-- Its record of the coder. -/
def verified : AgentInfo :=
  (verifier.shared.registry.inner["agent-local"]?).get (by decide +kernel)

/-- The coder is listed as it signed itself. -/
theorem peers_are_authentic_meeting :
    ∃ s ∈ guardedNetwork.signed, TrueSigning s ∧
      s.auth.signingSecret ∈ verifierAuth.verificationSecrets ∧
      signaturePayload s.announcement=signaturePayload verified.payload ∧
      (Linewise s.announcement →
        SameFields s.announcement verified.payload ∧ s.config.agentId="agent-local") :=
  peers_are_authentic Mac.recorded plainTransport ["mesh-secret"] guardedMeeting guardedNetwork
    (by decide +kernel) (Option.some_get _).symm true verifier (Option.some_get _).symm verifierAuth
    (Option.some_get _).symm (by decide +kernel) (by decide +kernel) "agent-local" verified
    (Option.some_get _).symm (by decide +kernel)

end MeshPresence.PeerAuthenticity

import Mathlib.Order.Filter.Finite
import MeshPresence.NodeProgress
import MeshPresence.PeerViews
import MeshPresence.RegistryRefinement

/-!
# Meshes that settle

Once the members of a mesh announce nothing new, and each observer is told of every member again
and again and of nobody else, every observer comes to list exactly the members, each with the
fields that it announced last, and does so from then on. Whatever else it listed before has
expired.
-/

namespace MeshPresence.SettledMeshes

open Filter FiniteMaps FairRuns GuardedRuns NodeFamilies AgentTypes AgentConfig AgentWire AgentRegistry
open AgentListener MeshRuntime MeshEffects LocalEntry ServiceTransport MeshNetwork PeerProvenance
open CurrentAnnouncement PeerViews NodeProgress SignedFields ExactEviction RegistryRefinement

variable {ι : Type} [DecidableEq ι]

/-- A registration is resolved at a node. -/
def resolvesAt (i : ι) (r : Registration) (net : Network ι) : NetworkAction ι → Prop
  | .deliver k n _ _ => k=i ∧ net.registered[n]?=some r
  | _ => False

/-- A step that leaves the listener running. -/
def attends : Action → Bool
  | .task .stopListener => false
  | .task (.browse event) => !event.stops
  | _ => true

/-- A step of a network that leaves an observer listening, spares its records of the other
members and tells it of nothing but what members announce. -/
def staysWith (members : Finset ι) (peer : ι → Mesh) (i : ι) (net : Network ι) :
    NetworkAction ι → Bool
  | .build _ _ _ => true
  | .act k own => k ≠ i || attends own && (net.nodes i).all fun m =>
      decide (∀ j ∈ members, j ≠ i → spares (peer j).shared.localAgent.agentId m own=true)
  | .deliver k n _ _ => k ≠ i || net.registered[n]?.all fun r =>
      decide (∃ j ∈ members, r=currently (peer j))
  | .inject k _ _ => k ≠ i
  | .vanish k => k ≠ i

/-- The guard of a run that stays with the members at an observer. -/
def StaysWith (members : Finset ι) (peer : ι → Mesh) (i : ι) (net : Network ι)
    (action : NetworkAction ι) : Prop :=
  staysWith members peer i net action=true

instance (members : Finset ι) (peer : ι → Mesh) (i : ι) (net : Network ι)
    (action : NetworkAction ι) : Decidable (StaysWith members peer i net action) :=
  inferInstanceAs (Decidable (_=true))

/-- Members that announced in order and have nothing left to announce. -/
structure Settled (mac : Mac) (transport : Transport) (before : List (NetworkAction ι))
    (net : Network ι) (members : Finset ι) (peer : ι → Mesh) : Prop where
  /-- The members are live. -/
  node : ∀ j ∈ members, net.nodes j=some (peer j)
  /-- They announced in order. -/
  inOrder : ∀ j ∈ members,
    Guarded (Network.step mac transport) (InOrderAt j) (Network.empty ι) before
  /-- They advertise themselves. -/
  advertises : ∀ j ∈ members, (peer j).config.advertiseLocal=true
  /-- Nothing is in progress on them. -/
  quiet : ∀ j ∈ members, (peer j).Quiescent
  /-- What they announced conforms to the transport. -/
  conforms : ∀ j ∈ members, Conforms transport (currently (peer j)).service
  /-- Their identifiers differ. -/
  distinct : ∀ j ∈ members, ∀ k ∈ members,
    (peer j).config.agentId=(peer k).config.agentId → j=k

/-- An observer of the members in a run. -/
structure Attends {mac : Mac} {transport : Transport}
    (ρ : InfiniteRun (@Network.step ι _ mac transport)) (members : Finset ι) (peer : ι → Mesh)
    (i : ι) (m : Mesh) : Prop where
  /-- The observer is live. -/
  node : (ρ.state 0).nodes i=some m
  /-- It listens. -/
  listening : m.listening=true
  /-- It accepts what the other members announce. -/
  accepts : ∀ j ∈ members, j ≠ i → Accepts m.config (peer j)
  /-- It goes on to listen, and is told of nothing but what members announce. -/
  stays : ∀ n action, ρ.action n=some action → StaysWith members peer i (ρ.state n) action
  /-- It is told of the other members again and again. -/
  hears : ∀ j ∈ members, j ≠ i → ρ.Just (resolvesAt i (currently (peer j)))
  /-- A sweep comes after the lifetime of every other record. -/
  expires : ∀ (id : String) (agent : AgentInfo), m.shared.registry.inner[id]?=some agent →
    id ≠ m.config.agentId → (∀ j ∈ members, (peer j).config.agentId ≠ id) →
    ∃ n order now, ρ.action n=some (.act i (.task (.sweep order now))) ∧
      m.config.ttl<now-agent.lastSeen

/-- A node lists exactly the other members, with the fields they announced. -/
def Lists (members : Finset ι) (peer : ι → Mesh) (m : Mesh) : Prop :=
  ∀ id : String, id ≠ m.config.agentId →
    (∀ agent, m.shared.registry.inner[id]?=some agent → ∃ j ∈ members,
      (peer j).config.agentId=id ∧ SameFields (peer j).shared.localAgent agent.payload) ∧
    ∀ j ∈ members, (peer j).config.agentId=id →
      ∃ agent, m.shared.registry.inner[id]?=some agent

section Steps

variable {mac : Mac} {transport : Transport} {members : Finset ι} {peer : ι → Mesh}
  {net net' : Network ι} {action : NetworkAction ι} {i : ι} {m m' : Mesh}

/-- A node that leaves its listener running goes on to listen. -/
theorem step_listening {own : Action} (hattends : attends own=true) (h : m.listening=true)
    (hs : MeshRuntime.step mac m own=some m') : m'.listening=true := by
  cases own with
  | start own =>
    cases startStep_cases hs with
    | listen | listenOnly => rfl
    | announce | announceFailed | abandon | listenFailed | upsert => exact h
  | call own =>
    rcases callStep_cases hs with ⟨update,-,rfl⟩|⟨k,call,phase,shared,-,-,rfl⟩ <;> exact h
  | tick own => cases tickStep_cases hs <;> exact h
  | task own =>
    cases taskStep_cases hs with
    | browse event => exact hattends
    | stopListener => cases hattends
    | sweep | stopSweeper => exact h
  | shutdown own => cases shutdownStep_cases hs <;> exact h

/-- What a step of the network is to an observer: nothing, or a step of its own that leaves its
listener running and resolves nothing but what a member announced. -/
theorem step_observer (hg : StaysWith members peer i net action) (hm : net.nodes i=some m)
    (hs : net.step mac transport action=some net') : net'.nodes i=some m ∨ ∃ own m',
      net'.nodes i=some m' ∧ MeshRuntime.step mac m own=some m' ∧ attends own=true ∧
      ∀ service now, own=resolution service now → ∃ j ∈ members, ∃ addresses,
        service=(currently (peer j)).service.resolved transport addresses := by
  cases step_cases hs with
  | build k generatedId builder config built free =>
    have hne : i ≠ k := by
      rintro rfl
      cases free.symm.trans hm
    exact Or.inl ((place_ne net.nodes _ hne).trans hm)
  | act k own n n' hnode hown hmove =>
    by_cases hk : i=k
    · subst hk
      cases hm.symm.trans hnode
      simp only [StaysWith,staysWith,ne_eq,not_true_eq_false,decide_false,Bool.false_or,
        Bool.and_eq_true] at hg
      refine Or.inr ⟨own,n',place_self net.nodes i (some n'),hmove,hg.1,fun service now he => ?_⟩
      rw [he] at hown
      cases hown
    · exact Or.inl ((place_ne net.nodes _ hk).trans hm)
  | deliver k n addresses now other t t' hnode hsent hmove =>
    by_cases hk : i=k
    · subst hk
      cases hm.symm.trans hnode
      simp only [StaysWith,staysWith,ne_eq,not_true_eq_false,decide_false,Bool.false_or,hsent,
        Option.all_some,decide_eq_true_eq] at hg
      obtain ⟨j,hj,rfl⟩ := hg
      refine Or.inr ⟨_,t',place_self net.nodes i (some t'),hmove,rfl,fun service time he => ?_⟩
      cases he
      exact ⟨j,hj,addresses,rfl⟩
    · exact Or.inl ((place_ne net.nodes _ hk).trans hm)
  | inject k service now t t' hnode hmove =>
    rw [StaysWith,staysWith,decide_eq_true_eq] at hg
    exact Or.inl ((place_ne net.nodes _ (Ne.symm hg)).trans hm)
  | vanish k =>
    rw [StaysWith,staysWith,decide_eq_true_eq] at hg
    exact Or.inl ((place_ne net.nodes _ (Ne.symm hg)).trans hm)

omit [DecidableEq ι] in
/-- What a peer announces is another agent's than that of a registration with another
identifier. -/
theorem others_of_announced {p : Mesh} {r : Registration} (hpeer : Honest p)
    (harrives : ArrivesNamed transport (currently p))
    (hid : p.shared.localAgent.agentId ≠ r.announcement.agentId) (addresses : List IpAddr) :
    others r ((currently p).service.resolved transport addresses)=true := by
  unfold others
  cases hb : fromResolvedService ((currently p).service.resolved transport addresses) with
  | error e => rfl
  | ok b =>
    obtain ⟨hcarried,-,-⟩ := received_carried hpeer.wellFormed.localAgent
      ((harrives.decoded addresses).symm.trans hb)
    rw [Except.toOption,Option.all_some,decide_eq_true_eq,hcarried.agentId]
    exact hid

/-- A step that stays with the members leaves the record of each to its announcement. -/
theorem StaysWith.leavesTo (hg : StaysWith members peer i net action) {j : ι}
    (hj : j ∈ members) (hne : j ≠ i)
    (hpeers : ∀ k ∈ members, Honest (peer k))
    (harrives : ∀ k ∈ members, ArrivesNamed transport (currently (peer k)))
    (hdistinct : ∀ k ∈ members, (peer k).shared.localAgent.agentId=
      (peer j).shared.localAgent.agentId → k=j) :
    LeavesTo transport i (currently (peer j)) net action := by
  rw [StaysWith] at hg
  cases action with
  | build => rfl
  | act k own =>
    by_cases hk : k=i
    · subst hk
      simp only [staysWith,ne_eq,not_true_eq_false,decide_false,Bool.false_or,
        Bool.and_eq_true] at hg
      rw [LeavesTo,leavesTo,Bool.or_eq_true]
      refine Or.inr ?_
      cases hm : net.nodes k with
      | none => rfl
      | some m =>
        rw [hm,Option.all_some,decide_eq_true_eq] at hg
        exact hg.2 j hj hne
    · rw [LeavesTo,leavesTo,decide_eq_true hk,Bool.true_or]
  | deliver k n addresses now =>
    by_cases hk : k=i
    · subst hk
      simp only [staysWith,ne_eq,not_true_eq_false,decide_false,Bool.false_or] at hg
      rw [LeavesTo,leavesTo,Bool.or_eq_true]
      refine Or.inr ?_
      cases hn : net.registered[n]? with
      | none => rfl
      | some other =>
        rw [hn,Option.all_some,decide_eq_true_eq] at hg
        obtain ⟨l,hl,rfl⟩ := hg
        rw [Option.all_some,Bool.or_eq_true,decide_eq_true_eq]
        by_cases hid : (peer l).shared.localAgent.agentId=(peer j).shared.localAgent.agentId
        · exact Or.inr (congrArg (fun l => currently (peer l)) (hdistinct l hl hid))
        · exact Or.inl (others_of_announced (hpeers l hl) (harrives l hl) hid addresses)
    · rw [LeavesTo,leavesTo,decide_eq_true hk,Bool.true_or]
  | inject k service now =>
    rw [staysWith] at hg
    rw [LeavesTo,leavesTo,hg,Bool.true_or]
  | vanish k => exact hg

omit [DecidableEq ι] in
/-- A record of nobody that a member announced was there before. -/
theorem step_unheard {own : Action} (h : Honest m) (hs : MeshRuntime.step mac m own=some m')
    (hown : ∀ service now, own=resolution service now → ∃ j ∈ members, ∃ addresses,
      service=(currently (peer j)).service.resolved transport addresses)
    (hpeers : ∀ j ∈ members, Honest (peer j))
    (harrives : ∀ j ∈ members, ArrivesNamed transport (currently (peer j))) {id : String}
    (hne : id ≠ m.config.agentId) (hother : ∀ j ∈ members, (peer j).config.agentId ≠ id)
    {agent : AgentInfo} (ha : m'.shared.registry.inner[id]?=some agent) :
    m.shared.registry.inner[id]?=some agent := by
  rcases step_record h.identity hs ha hne with hold|⟨service,now,he,hadmits,-,hid⟩
  · exact hold
  · obtain ⟨j,hj,addresses,rfl⟩ := hown service now he
    obtain ⟨hdecoded,-,-⟩ := admits_some hadmits
    obtain ⟨hcarried,-,-⟩ := received_carried (hpeers j hj).wellFormed.localAgent
      (((harrives j hj).decoded addresses).symm.trans hdecoded)
    have hmember : agent.payload.agentId=(peer j).config.agentId :=
      hcarried.agentId.trans (hpeers j hj).identity.localAgent.1
    exact absurd (hmember.symm.trans hid) (hother j hj)

/-- A node that accepts what a peer announces lists it when it is resolved there. -/
theorem observing_of_resolvesAt {p : Mesh} (htraced : Traced mac transport net) (hpeer : Honest p)
    (hregistered : currently p ∈ net.registered)
    (hsigned : ∀ auth, p.config.sharedSecretAuth=some auth →
      SelfSigned mac auth p.shared.localAgent)
    (harrives : ArrivesNamed transport (currently p)) (hm : net.nodes i=some m)
    (haccepts : Accepts m.config p) (hkind : resolvesAt i (currently p) net action)
    (hs : net.step mac transport action=some net') :
    Observing mac transport i (currently p) net' := by
  have htraced' := htraced.step hs
  cases step_cases hs with
  | deliver k n addresses now r t t' hnode hsent hmove =>
    obtain ⟨rfl,hr⟩ := hkind
    cases hsent.symm.trans hr
    cases hm.symm.trans hnode
    refine ⟨htraced',hregistered,t',place_self net.nodes k (some t'),?_,
      haccepts.observing hpeer hsigned harrives hmove⟩
    rw [(step_frame hmove).config]
    exact fun he => haccepts.other (hpeer.identity.localAgent.1.symm.trans he.symm)
  | build | act | inject | vanish => cases hkind

/-- All nodes of a network keep records for the TTL of their configurations. -/
def TtlKept (net : Network ι) : Prop :=
  Live (fun _ m => m.shared.registry.ttl=m.config.ttl) net.nodes

/-- Every step keeps the TTLs. -/
theorem TtlKept.step (h : TtlKept net) (hs : net.step mac transport action=some net') :
    TtlKept net' := by
  refine live_step (fun _ config m hvalid hm => ?_) (fun _ m own m' hm hs => ?_) h hs
  · rw [(LocalInvariant.init hvalid hm).unchanged]
    exact (init_presence hm).2
  · rw [step_ttl hs,(step_frame hs).config]
    exact hm

/-- What was registered stays registered, in its place. -/
theorem step_registered (hs : net.step mac transport action=some net') {n : ℕ} {r : Registration}
    (h : net.registered[n]?=some r) : net'.registered[n]?=some r := by
  cases step_cases hs with
  | build | deliver | inject | vanish => exact h
  | act k own n n' =>
    exact (List.getElem?_append_left (List.getElem?_eq_some_iff.mp h).1).trans h

end Steps

section Runs

variable {mac : Mac} {transport : Transport} {members : Finset ι} {peer : ι → Mesh}
  {before : List (NetworkAction ι)} {ρ : InfiniteRun (@Network.step ι _ mac transport)}
  {i : ι} {m : Mesh}

/-- Members are honest. -/
theorem Settled.honest (h : Settled mac transport before (ρ.state 0) members peer)
    (htraced : Traced mac transport (ρ.state 0)) : ∀ j ∈ members, Honest (peer j) :=
  fun j hj => htraced.nodes j (peer j) (h.node j hj)

/-- What members announced arrives under their instance names. -/
theorem Settled.arrives (h : Settled mac transport before (ρ.state 0) members peer)
    (hlawful : transport.Lawful) (hpeers : ∀ j ∈ members, Honest (peer j)) :
    ∀ j ∈ members, ArrivesNamed transport (currently (peer j)) :=
  fun j hj => .of_conforms hlawful (hpeers j hj).identity.localAgent (h.conforms j hj)

/-- The current announcement of a member is registered and signed as configured. -/
theorem Settled.registered (h : Settled mac transport before (ρ.state 0) members peer)
    (hrun : exec (Network.step mac transport) (Network.empty ι) before=some (ρ.state 0)) {j : ι}
    (hj : j ∈ members) : currently (peer j) ∈ (ρ.state 0).registered ∧
      ∀ auth, (peer j).config.sharedSecretAuth=some auth →
        SelfSigned mac auth (peer j).shared.localAgent :=
  (CurrentAt.run (h.inOrder j hj) hrun j (peer j) (h.node j hj) rfl).settled
    (h.advertises j hj) (h.quiet j hj)

/-- Members announce different identifiers. -/
theorem Settled.announced_distinct (h : Settled mac transport before (ρ.state 0) members peer)
    (hpeers : ∀ j ∈ members, Honest (peer j)) {j : ι} (hj : j ∈ members) (k : ι)
    (hk : k ∈ members)
    (hid : (peer k).shared.localAgent.agentId=(peer j).shared.localAgent.agentId) : k=j := by
  rw [(hpeers k hk).identity.localAgent.1,(hpeers j hj).identity.localAgent.1] at hid
  exact h.distinct k hk j hj hid

/-- An observer stays live, with its configuration, and goes on to listen. -/
theorem Attends.stays_live (h : Attends ρ members peer i m) (n : ℕ) :
    ∃ m', (ρ.state n).nodes i=some m' ∧ m'.listening=true ∧ m'.config=m.config := by
  refine ρ.stays_guarded (P := fun net => ∃ m', net.nodes i=some m' ∧ m'.listening=true ∧
    m'.config=m.config) h.stays (fun net action net' hp hg hs => ?_)
    ⟨m,h.node,h.listening,rfl⟩ (Nat.zero_le n)
  obtain ⟨m',hm',hlistening,hconfig⟩ := hp
  rcases step_observer hg hm' hs with hsame|⟨own,next,hnext,hmove,hattends,-⟩
  · exact ⟨m',hsame,hlistening,hconfig⟩
  · exact ⟨next,hnext,step_listening hattends hlistening hmove,
      (step_frame hmove).config.trans hconfig⟩

/-- From some time on an observer lists every other member. -/
theorem Attends.observing (hlawful : transport.Lawful) (h : Attends ρ members peer i m)
    (hsettled : Settled mac transport before (ρ.state 0) members peer)
    (hrun : exec (Network.step mac transport) (Network.empty ι) before=some (ρ.state 0)) {j : ι}
    (hj : j ∈ members) (hne : j ≠ i) :
    ∀ᶠ n in atTop, Observing mac transport i (currently (peer j)) (ρ.state n) := by
  have htraced := Traced.run hrun
  have hpeers := hsettled.honest htraced
  obtain ⟨hregistered,hsigned⟩ := hsettled.registered hrun hj
  obtain ⟨place,hplace⟩ := List.mem_iff_getElem?.mp hregistered
  have hstays : ∀ n, (ρ.state n).registered[place]?=some (currently (peer j)) := fun n =>
    ρ.always (P := fun net => net.registered[place]?=some (currently (peer j)))
      (fun net action net' hp hs => step_registered hs hp) hplace n
  have henabled : ∀ n, Enabled (Network.step mac transport)
      (resolvesAt i (currently (peer j))) (ρ.state n) := by
    intro n
    obtain ⟨m',hm',hlistening,-⟩ := h.stays_live n
    refine Enabled.of_isSome (a := .deliver i place [] 0) ⟨rfl,hstays n⟩ ?_
    simp only [Network.step,hstays n,Network.move,hm',MeshRuntime.step,resolution,Mesh.taskStep,
      hlistening,if_true,Option.isSome_some]
  obtain ⟨n,action,haction,hkind⟩ :=
    (h.hears j hj hne (Eventually.of_forall henabled)).exists
  have hnow : Traced mac transport (ρ.state n) :=
    ρ.always (fun net action net' hp hs => Traced.step hp hs) htraced n
  obtain ⟨m',hm',-,hconfig⟩ := h.stays_live n
  have hstart : Observing mac transport i (currently (peer j)) (ρ.state (n+1)) :=
    observing_of_resolvesAt hnow (hpeers j hj) (List.mem_of_getElem? (hstays n)) hsigned
      (hsettled.arrives hlawful hpeers j hj) hm' (hconfig ▸ h.accepts j hj hne) hkind
      (ρ.acts n action haction)
  refine eventually_atTop.mpr ⟨n+1,fun k hk => ρ.stays_guarded h.stays
    (fun net action net' hp hg hs => ?_) hstart hk⟩
  exact hp.step (hg.leavesTo hj hne hpeers (hsettled.arrives hlawful hpeers)
    (hsettled.announced_distinct hpeers hj)) hs

/-- An observer that keeps its configuration holds only known records under an identifier. -/
def HoldsOnly (i : ι) (m : Mesh) (id : String) (known : AgentInfo → Prop) (net : Network ι) :
    Prop :=
  ∃ m', net.nodes i=some m' ∧ m'.config=m.config ∧
    ∀ agent, m'.shared.registry.inner[id]?=some agent → known agent

/-- An observer gets no new records of nobody that is a member. -/
theorem Attends.holdsOnly (hlawful : transport.Lawful) (h : Attends ρ members peer i m)
    (hsettled : Settled mac transport before (ρ.state 0) members peer)
    (htraced : Traced mac transport (ρ.state 0)) {id : String} (hne : id ≠ m.config.agentId)
    (hother : ∀ j ∈ members, (peer j).config.agentId ≠ id) {known : AgentInfo → Prop} {n : ℕ}
    (hn : HoldsOnly i m id known (ρ.state n)) {k : ℕ} (hk : n ≤ k) :
    HoldsOnly i m id known (ρ.state k) := by
  have hnow : Traced mac transport (ρ.state n) :=
    ρ.always (fun net action net' hp hs => Traced.step hp hs) htraced n
  have hboth := ρ.stays_guarded (P := fun net => Traced mac transport net ∧
    HoldsOnly i m id known net) h.stays (fun net action net' hp hg hs => ?_) ⟨hnow,hn⟩ hk
  · exact hboth.2
  · obtain ⟨ht,m',hm',hconfig,hknown⟩ := hp
    refine ⟨ht.step hs,?_⟩
    rcases step_observer hg hm' hs with hsame|⟨own,next,hnext,hmove,-,hown⟩
    · exact ⟨m',hsame,hconfig,hknown⟩
    · refine ⟨next,hnext,(step_frame hmove).config.trans hconfig,fun agent ha => hknown agent ?_⟩
      have hpeers := hsettled.honest htraced
      exact step_unheard (ht.nodes i m' hm') hmove hown hpeers (hsettled.arrives hlawful hpeers)
        (hconfig ▸ hne) hother ha

/-- A sweep after the lifetime of the only known record leaves none. -/
theorem swept_gone {net net' : Network ι} {m' : Mesh} {id : String} {agent : AgentInfo}
    {order : AgentOrder} {now : Instant} (hm : net.nodes i=some m') (hconfig : m'.config=m.config)
    (httl : m'.shared.registry.ttl=m.config.ttl)
    (hknown : ∀ other, m'.shared.registry.inner[id]?=some other → agent=other)
    (hlate : m.config.ttl<now-agent.lastSeen)
    (hs : net.step mac transport (.act i (.task (.sweep order now)))=some net') :
    HoldsOnly i m id (fun _ => False) net' := by
  cases step_cases hs with
  | act k own t next hnode hown hmove =>
    cases hm.symm.trans hnode
    refine ⟨next,place_self net.nodes i (some next),(step_frame hmove).config.trans hconfig,
      fun other ho => ?_⟩
    have hswept : m'.taskStep mac (.sweep order now)=some next := hmove
    rw [Mesh.taskStep] at hswept
    split at hswept
    · cases hswept
      simp only [getElem?_evictStaleAt,Option.filter_eq_some_iff] at ho
      obtain ⟨hrecord,hfresh⟩ := ho
      cases hknown other hrecord
      rw [isStale,httl,decide_eq_true hlate] at hfresh
      cases hfresh
    · cases hswept

/-- A record of nobody that is a member expires for good. -/
theorem Attends.expired (hlawful : transport.Lawful) (h : Attends ρ members peer i m)
    (hsettled : Settled mac transport before (ρ.state 0) members peer)
    (hrun : exec (Network.step mac transport) (Network.empty ι) before=some (ρ.state 0))
    {id : String} (hne : id ≠ m.config.agentId)
    (hother : ∀ j ∈ members, (peer j).config.agentId ≠ id) :
    ∀ᶠ n in atTop, HoldsOnly i m id (fun _ => False) (ρ.state n) := by
  have htraced := Traced.run hrun
  cases hrecord : m.shared.registry.inner[id]? with
  | none =>
    have hstart : HoldsOnly i m id (fun _ => False) (ρ.state 0) :=
      ⟨m,h.node,rfl,fun agent ha => nomatch hrecord.symm.trans ha⟩
    exact Eventually.of_forall fun n =>
      h.holdsOnly hlawful hsettled htraced hne hother hstart (Nat.zero_le n)
  | some agent =>
    obtain ⟨n,order,now,haction,hlate⟩ := h.expires id agent hrecord hne hother
    have hstart : HoldsOnly i m id (agent=·) (ρ.state 0) :=
      ⟨m,h.node,rfl,fun other ha => Option.some.inj (hrecord.symm.trans ha)⟩
    obtain ⟨m',hm',hconfig,hknown⟩ :=
      h.holdsOnly hlawful hsettled htraced hne hother hstart (Nat.zero_le n)
    have httl : m'.shared.registry.ttl=m.config.ttl := by
      have hempty : TtlKept (Network.empty ι) := Live.none _
      have hkept : TtlKept (ρ.state 0) :=
        invariant_of_exec TtlKept (fun net action net' hp hs => hp.step hs) hrun hempty
      have hnow : TtlKept (ρ.state n) :=
        ρ.always (fun net action net' hp hs => TtlKept.step hp hs) hkept n
      exact (hnow i m' hm').trans (congrArg ZeroConfConfig.ttl hconfig)
    have hgone : HoldsOnly i m id (fun _ => False) (ρ.state (n+1)) :=
      swept_gone hm' hconfig httl hknown hlate (ρ.acts n _ haction)
    exact eventually_atTop.mpr ⟨n+1,fun k hk =>
      h.holdsOnly hlawful hsettled htraced hne hother hgone hk⟩

end Runs

end MeshPresence.SettledMeshes

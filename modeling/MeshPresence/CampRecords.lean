import MeshPresence.RegistryQueries

/-!
# The records that the command line prints

Agents and events are printed as records: fields as text, without the observation time.
An observer folds printed events over a printed listing by agent identifier. Up to the
observation times the records of a registry are determined by its payloads, so an
observer that follows a journal of the registry ends with its records.
-/

namespace MeshPresence.CampRecords

open TextOperations FiniteMaps ChangeJournal AgentTypes AgentRegistry RegistryJournal
open RegistryQueries

/-- One 16-bit group of a version 6 address, most significant group first. -/
def segment (bits : BitVec 128) (i : ℕ) : ℕ := bits.toNat/2^(16*(7-i))%2^16

/-- Dotted decimal form of a version 4 address. -/
def ipv4Text (bits : ℕ) : String :=
  join "." ([24,16,8,0].map fun shift => (bits/2^shift%2^8).repr)

/-- Lower-case hexadecimal digits of a group without leading zeros. -/
def hexText (n : ℕ) : String := String.ofList (Nat.toDigits 16 n)

/-- The longest run of zero groups, the first one when several are longest, as its start
and its length. -/
def longestZeros (segments : List ℕ) : ℕ × ℕ :=
  (segments.zipIdx.foldl
    (fun (state : (ℕ × ℕ) × (ℕ × ℕ)) entry =>
      let (longest,current) := state
      if entry.1=0 then
        let start := if current.2=0 then entry.2 else current.1
        let current := (start,current.2+1)
        (if current.2>longest.2 then current else longest,current)
      else (longest,(0,0)))
    ((0,0),(0,0))).1

/-- Text of a version 6 address: version 4 addresses that are mapped into version 6 keep
their dotted form, and the longest run of at least two zero groups is left out. -/
def ipv6Text (bits : BitVec 128) : String :=
  let segments := (List.range 8).map (segment bits)
  let part := fun (groups : List ℕ) => join ":" (groups.map hexText)
  let zeros := longestZeros segments
  if segments.take 6=[0,0,0,0,0,0xffff] then "::ffff:" ++ ipv4Text (bits.toNat%2^32)
  else if zeros.2>1 then
    part (segments.take zeros.1) ++ "::" ++ part (segments.drop (zeros.1+zeros.2))
  else part segments

/-- Text of an address. -/
def addressText : IpAddr → String
  | .v4 bits => ipv4Text bits.toNat
  | .v6 bits => ipv6Text bits

/-- Loopback, unspecified, mapped and general addresses, and the first of two equal runs. -/
example : [IpAddr.v4 0x7f000001#32,.v6 1#128,.v6 0#128,.v6 0x00000000000000000000ffffc0a80001#128,
    .v6 0x20010db8000000000001000000000001#128].map addressText=
      ["127.0.0.1","::1","::","::ffff:192.168.0.1","2001:db8::1:0:0:1"] := by
  decide +kernel

/-- An agent as it is printed. -/
structure AgentRecord where
  /-- Unique agent identifier. -/
  id : String
  /-- DNS-SD instance name. -/
  instanceName : String
  /-- Declared role. -/
  role : String
  /-- Declared project. -/
  project : String
  /-- Declared branch or workstream. -/
  branch : String
  /-- Wire string of the status. -/
  status : String
  /-- Advertised typed capabilities. -/
  capabilities : List String
  /-- Advertised service port. -/
  port : UInt16
  /-- Texts of the addresses. -/
  addresses : List String
  /-- Metadata of the announcement. -/
  metadata : AgentMetadata
  deriving DecidableEq

/-- A registry event as it is printed; absent fields are left out of the output. -/
structure EventRecord where
  /-- Kind of the event. -/
  kind : String
  /-- Origin of the event. -/
  origin : String
  /-- Reason of a departure. -/
  reason : Option String
  /-- Earlier record of an update. -/
  previous : Option AgentRecord
  /-- Primary record of the event. -/
  current : Option AgentRecord
  deriving DecidableEq

/-- Printed form of a registry record. -/
def toAgentRecord (agent : AgentInfo) : AgentRecord where
  id := agent.id
  instanceName := agent.instanceName
  role := agent.role
  project := agent.project
  branch := agent.branch
  status := agent.status.asStr
  capabilities := agent.capabilities
  port := agent.port
  addresses := agent.addresses.map addressText
  metadata := agent.metadata

/-- Printed form of an origin. -/
def originLabel : EventOrigin → String
  | .localOrigin => "local"
  | .remoteOrigin => "remote"

/-- Printed form of a departure reason. -/
def reasonLabel : DepartureReason → String
  | .graceful => "graceful"
  | .expired => "expired"

/-- Printed form of an event; the type of events reserves the right to have kinds that
are not printed. -/
def toEventRecord : AgentEvent → Option EventRecord
  | .joined agent origin =>
    some { kind := "joined", origin := originLabel origin, reason := none, previous := none
           current := some (toAgentRecord agent) }
  | .updated previous current origin =>
    some { kind := "updated", origin := originLabel origin, reason := none
           previous := some (toAgentRecord previous), current := some (toAgentRecord current) }
  | .left agent origin reason =>
    some { kind := "left", origin := originLabel origin, reason := some (reasonLabel reason)
           previous := none, current := some (toAgentRecord agent) }

/-- Printed records by agent identifier. -/
abbrev RecordMap := Std.ExtTreeMap String AgentRecord

/-- Fold one printed event: joined and updated records are set, left records deleted. -/
def foldRecord (m : RecordMap) (event : EventRecord) : RecordMap :=
  match event.current with
  | some record =>
    if event.kind="left" then m.erase record.id
    else if event.kind="joined" ∨ event.kind="updated" then m.insert record.id record
    else m
  | none => m

/-- Fold printed events over a printed listing, by agent identifier. -/
def foldRecords (agents : List AgentRecord) (events : List EventRecord) : RecordMap :=
  events.foldl foldRecord (Std.ExtTreeMap.ofList (agents.map fun record => (record.id,record)))

/-- The listing that is printed for a registry. -/
def agentRecords (r : Registry) (order : AgentOrder) : List AgentRecord :=
  (r.list order).map toAgentRecord

/-- The records of a registry by agent identifier. -/
def recordMap (r : Registry) : RecordMap := r.inner.map fun _ agent => toAgentRecord agent

/-- Printed form of a payload. -/
def recordOf (a : AgentAnnouncement) : AgentRecord where
  id := a.agentId
  instanceName := a.instanceName
  role := a.role
  project := a.project
  branch := a.branch
  status := a.status.asStr
  capabilities := a.capabilities
  port := a.port
  addresses := a.addresses.map addressText
  metadata := a.metadata

/-- The printed form of a record does not show its observation time. -/
theorem toAgentRecord_eq (agent : AgentInfo) : toAgentRecord agent=recordOf agent.payload := rfl

/-- A printed map shows the payloads of a store. -/
def Shows (m : RecordMap) (store : String → Option AgentAnnouncement) : Prop :=
  ∀ id : String, m[id]?=(store id).map recordOf

/-- The records of a registry show its payloads. -/
theorem recordMap_shows (r : Registry) : Shows (recordMap r) (store r.inner) := by
  intro id
  rw [recordMap,Std.ExtTreeMap.getElem?_map,store,Option.map_map]
  rfl

/-- Maps that show the same payloads are equal. -/
theorem Shows.unique {m m' : RecordMap} {store : String → Option AgentAnnouncement}
    (h : Shows m store) (h' : Shows m' store) : m=m' := by
  apply Std.ExtTreeMap.ext_getElem?
  intro id
  rw [h id,h' id]

/-- Setting the record of an agent shows its payload. -/
theorem Shows.insert {m : RecordMap} {store : String → Option AgentAnnouncement} (h : Shows m store)
    (agent : AgentInfo) :
    Shows (m.insert agent.id (toAgentRecord agent))
      (Function.update store agent.id (some agent.payload)) := by
  intro id
  rw [getElem?_insert,Function.update_apply,h id]
  by_cases he : agent.id=id
  · rw [if_pos he,if_pos he.symm]
    rfl
  · rw [if_neg he,if_neg (Ne.symm he)]

/-- Deleting the record of an agent shows no payload for it. -/
theorem Shows.erase {m : RecordMap} {store : String → Option AgentAnnouncement} (h : Shows m store)
    (deleted : String) : Shows (m.erase deleted) (Function.update store deleted none) := by
  intro id
  rw [getElem?_erase,Function.update_apply,h id]
  by_cases he : deleted=id
  · rw [if_pos he,if_pos he.symm]
    rfl
  · rw [if_neg he,if_neg (Ne.symm he)]

/-- Folding a printed event is applying its change to the payloads. -/
theorem Shows.fold {m : RecordMap} {store : String → Option AgentAnnouncement} (h : Shows m store)
    {event : AgentEvent} {record : EventRecord} (hr : toEventRecord event=some record) :
    Shows (foldRecord m record) ((eventChange event).apply store) := by
  cases event with
  | joined agent origin =>
    cases hr
    simp only [foldRecord,String.reduceEq,if_false,true_or,if_true]
    exact h.insert agent
  | updated previous current origin =>
    cases hr
    simp only [foldRecord,String.reduceEq,if_false,or_true,if_true]
    exact h.insert current
  | left agent origin reason =>
    cases hr
    simp only [foldRecord,if_true]
    exact h.erase agent.id

/-- Every event is printed. -/
theorem toEventRecord_isSome (event : AgentEvent) : (toEventRecord event).isSome=true := by
  cases event <;> rfl

/-- Folding printed events is replaying their changes. -/
theorem Shows.foldAll {m : RecordMap} {store : String → Option AgentAnnouncement}
    (h : Shows m store) (events : List AgentEvent) :
    Shows ((events.filterMap toEventRecord).foldl foldRecord m)
      (replay store (events.map eventChange)) := by
  induction events generalizing m store with
  | nil => exact h
  | cons event events ih =>
    obtain ⟨record,hr⟩ := Option.isSome_iff_exists.mp (toEventRecord_isSome event)
    rw [List.filterMap_cons_some hr]
    exact ih (h.fold hr)

/-- The printed listing of a registry is its records in ascending order. -/
theorem agentRecords_eq {r : Registry} (hk : KeyedById r.inner) (order : AgentOrder) :
    agentRecords r order=(recordMap r).toList.map Prod.snd := by
  rw [agentRecords,list_eq_toList hk order,recordMap,Std.ExtTreeMap.toList_map,List.map_map,
    List.map_map]
  rfl

/-- The map that is built from a printed listing is the record map of the registry. -/
theorem ofList_agentRecords {r : Registry} (hk : KeyedById r.inner) (order : AgentOrder) :
    Std.ExtTreeMap.ofList ((agentRecords r order).map fun record => (record.id,record))=
      recordMap r := by
  have hentries : ((agentRecords r order).map fun record => (record.id,record))=
      (recordMap r).toList := by
    rw [agentRecords,list_eq_toList hk order,recordMap,Std.ExtTreeMap.toList_map,List.map_map,
      List.map_map]
    refine List.map_congr_left fun entry hentry => ?_
    exact Prod.ext (id_of_mem_toList hk hentry) rfl
  rw [hentries,ofList_toList]

/-- Registries with the same payloads print the same listing. -/
theorem agentRecords_congr {r r' : Registry} (hk : KeyedById r.inner) (hk' : KeyedById r'.inner)
    (h : store r.inner=store r'.inner) (order order' : AgentOrder) :
    agentRecords r order=agentRecords r' order' := by
  have hmap : recordMap r=recordMap r' := (recordMap_shows r).unique (h ▸ recordMap_shows r')
  rw [agentRecords_eq hk,agentRecords_eq hk',hmap]

/-- An observer that folds a log over a listing, where the log over the payloads of the
listing replays to those of a registry, ends with the records of the registry. -/
theorem foldRecords_eq {r r' : Registry} (hk : KeyedById r.inner) (order : AgentOrder)
    {events : List AgentEvent}
    (h : replay (store r.inner) (events.map eventChange)=store r'.inner) :
    foldRecords (agentRecords r order) (events.filterMap toEventRecord)=recordMap r' := by
  have hstart : Shows (recordMap r) (store r.inner) := recordMap_shows r
  rw [←ofList_agentRecords hk order] at hstart
  have hend := hstart.foldAll events
  rw [h] at hend
  exact hend.unique (recordMap_shows r')

end MeshPresence.CampRecords

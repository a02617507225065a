import MeshPresence.CampRecords
import MeshPresence.CampDiscovery

/-!
# Filters of the command line and of the HTTP bridge

`camp list` prints the records of the listing that pass its filters, and the
handler of `/agents` returns the records that pass the parameters of a request.
Both are written beside the queries of the registry. The observer is a
parameter: how it starts, what its registry holds after the discovery time,
and how its shutdown ends. So are regular expressions.
-/

namespace MeshPresence.CampQueries

open TextOperations FiniteMaps FallibleSteps AgentTypes AgentRegistry RegistryJournal RegistryQueries
open CampRecords CampDiscovery

/-- Options of `camp list`. -/
structure ListCommand where
  /-- Options of the observer. -/
  discovery : DiscoveryOptions := {}
  /-- Identifier of the agent. -/
  id : Option String := none
  /-- Role of the agents. -/
  role : Option String := none
  /-- Project of the agents. -/
  project : Option String := none
  /-- Branch of the agents. -/
  branch : Option String := none
  /-- Status of the agents. -/
  status : Option AgentStatus := none
  /-- Capability of the agents. -/
  capability : Option String := none
  /-- Metadata values by key. -/
  metadata : List (String × String) := []
  /-- Metadata keys. -/
  metadataKeys : List String := []
  /-- Prefixes of metadata keys. -/
  metadataKeyPrefixes : List String := []
  /-- Prefixes of metadata values by key. -/
  metadataPrefixes : List (String × String) := []
  /-- Regular expressions of metadata values by key. -/
  metadataRegexes : List (String × String) := []

/-- Parse a status option; its error is shown as text. -/
def parseStatus (value : String) : Except ZeroConfError AgentStatus := AgentStatus.fromStr value

/-- Whether an agent passes all filters; a pattern that does not compile lets no agent pass. -/
def matchesFilters (engine : RegexEngine) (agent : AgentInfo) (command : ListCommand) : Bool :=
  if command.id.any fun id => agent.id ≠ id then false
  else if command.role.any fun role => agent.role ≠ role then false
  else if command.project.any fun project => agent.project ≠ project then false
  else if command.branch.any fun branch => agent.branch ≠ branch then false
  else if command.status.any fun status => agent.status ≠ status then false
  else if command.capability.any fun capability => !hasCapability agent capability then false
  else if command.metadata.any fun entry =>
    agent.metadata[entry.1]?.all fun stored => stored ≠ entry.2 then false
  else if command.metadataKeys.any fun key => !agent.metadata.contains key then false
  else if command.metadataKeyPrefixes.any fun start =>
    !agent.metadata.keys.any fun key => startsWith key start then false
  else if command.metadataPrefixes.any fun entry =>
    agent.metadata[entry.1]?.all fun stored => !startsWith stored entry.2 then false
  else if command.metadataRegexes.any fun entry =>
    match engine.new entry.2 with
    | .error _ => true
    | .ok regex => agent.metadata[entry.1]?.all fun stored => !engine.isMatch regex stored then false
  else true

/-- What a command prints and how it ends. -/
structure Outcome where
  /-- The listing on the standard output. -/
  printed : Option (List AgentRecord)
  /-- The error it returns. -/
  error : Option CampError
  deriving DecidableEq

/-- `camp list`: start an observer, filter the agents it has discovered, print them, and shut
the observer down. -/
def runList (engine : RegexEngine) (discover : DiscoveryOptions → Except CampError Registry)
    (order : AgentOrder) (shutdown : Option ZeroConfError) (command : ListCommand) : Outcome :=
  match discover command.discovery with
  | .error e => { printed := none, error := some e }
  | .ok r =>
    let filtered := (r.list order).filter fun agent => matchesFilters engine agent command
    { printed := some (filtered.map toAgentRecord), error := shutdown.map CampError.mesh }

/-- Parameters of a request for `/agents`. -/
structure AgentQuery where
  /-- Identifier of the agent. -/
  id : Option String := none
  /-- Role of the agents. -/
  role : Option String := none
  /-- Project of the agents. -/
  project : Option String := none
  /-- Branch of the agents. -/
  branch : Option String := none
  /-- Text of the status of the agents. -/
  status : Option String := none
  /-- Capability of the agents. -/
  capability : Option String := none

/-- Whether an agent passes the parameters of a request. -/
def matchesAgentQuery (agent : AgentInfo) (query : AgentQuery) : Bool :=
  if query.id.any fun id => agent.id ≠ id then false
  else if query.role.any fun role => agent.role ≠ role then false
  else if query.project.any fun project => agent.project ≠ project then false
  else if query.branch.any fun branch => agent.branch ≠ branch then false
  else if query.status.any fun status => agent.status.asStr ≠ status then false
  else if query.capability.any fun capability => !hasCapability agent capability then false
  else true

/-- Response to a request for `/agents`. -/
def listAgentsHandler (r : Registry) (order : AgentOrder) (query : AgentQuery) :
    List AgentRecord :=
  ((r.list order).filter fun agent => matchesAgentQuery agent query).map toAgentRecord

section Filters

/-- One filter of a chain of filters. -/
theorem reject_iff {reject rest : Bool} :
    (if reject then false else rest)=true ↔ reject=false ∧ rest=true := by
  cases reject <;> simp only [if_true,Bool.false_eq_true,if_false,true_and,false_and,reduceCtorEq]

/-- No absent option rejects, and a given one rejects what it does not accept. -/
theorem option_accepts_iff {α : Type} {accept : α → Bool} {option : Option α} :
    (option.any fun a => !accept a)=false ↔ ∀ a ∈ option, accept a=true := by
  cases option <;> simp only [Option.any_none,Option.any_some,Option.mem_def,reduceCtorEq,
    IsEmpty.forall_iff,implies_true,Bool.not_eq_false',Option.some.injEq,forall_eq']

/-- A repeated option rejects what one of its values does not accept. -/
theorem list_accepts_iff {α : Type} {accept : α → Bool} {options : List α} :
    (options.any fun a => !accept a)=false ↔ ∀ a ∈ options, accept a=true := by
  simp only [List.any_eq_false,Bool.not_eq_true',Bool.not_eq_false]

/-- A missing key is rejected like a value that is not accepted. -/
theorem all_not {α : Type} {accept : α → Bool} {option : Option α} :
    (option.all fun a => !accept a)=!option.any accept := by
  cases option <;> rfl

/-- The metadata has a value that matches a pattern under a key. -/
def matchesRegex (engine : RegexEngine) (agent : AgentInfo) (key pattern : String) : Bool :=
  match engine.new pattern with
  | .error _ => false
  | .ok regex => agent.metadata[key]?.any fun stored => engine.isMatch regex stored

/-- An agent passes the filters exactly when it passes each of them. -/
theorem matchesFilters_iff {engine : RegexEngine} {agent : AgentInfo} {command : ListCommand} :
    matchesFilters engine agent command=true ↔
      (∀ id ∈ command.id, agent.id=id) ∧ (∀ role ∈ command.role, agent.role=role) ∧
      (∀ project ∈ command.project, agent.project=project) ∧
      (∀ branch ∈ command.branch, agent.branch=branch) ∧
      (∀ status ∈ command.status, agent.status=status) ∧
      (∀ capability ∈ command.capability, hasCapability agent capability=true) ∧
      (∀ entry ∈ command.metadata,
        (agent.metadata[entry.1]?.any fun stored => stored=entry.2)=true) ∧
      (∀ key ∈ command.metadataKeys, agent.metadata.contains key=true) ∧
      (∀ start ∈ command.metadataKeyPrefixes,
        (agent.metadata.keys.any fun key => startsWith key start)=true) ∧
      (∀ entry ∈ command.metadataPrefixes,
        (agent.metadata[entry.1]?.any fun stored => startsWith stored entry.2)=true) ∧
      ∀ entry ∈ command.metadataRegexes, matchesRegex engine agent entry.1 entry.2=true := by
  have hregex : ∀ entry : String × String,
      (match engine.new entry.2 with
      | .error _ => true
      | .ok regex => agent.metadata[entry.1]?.all fun stored => !engine.isMatch regex stored)=
        !matchesRegex engine agent entry.1 entry.2 := by
    intro entry
    rw [matchesRegex]
    cases engine.new entry.2 with
    | error e => rfl
    | ok regex => exact all_not
  unfold matchesFilters
  simp only [hregex]
  simp only [reject_iff,decide_not,all_not,option_accepts_iff,list_accepts_iff,decide_eq_true_eq,
    and_true]

/-- A request selects an agent by everything but the status. -/
structure Selected (query : AgentQuery) (agent : AgentInfo) : Prop where
  /-- The identifier, if given, is the agent's. -/
  id : ∀ id ∈ query.id, agent.id=id
  /-- The role, if given, is the agent's. -/
  role : ∀ role ∈ query.role, agent.role=role
  /-- The project, if given, is the agent's. -/
  project : ∀ project ∈ query.project, agent.project=project
  /-- The branch, if given, is the agent's. -/
  branch : ∀ branch ∈ query.branch, agent.branch=branch
  /-- The capability, if given, is one of the agent's. -/
  capability : ∀ capability ∈ query.capability, hasCapability agent capability=true

/-- An agent passes a request exactly when it is selected and has the text as its status. -/
theorem matchesAgentQuery_iff {agent : AgentInfo} {query : AgentQuery} :
    matchesAgentQuery agent query=true ↔
      Selected query agent ∧ ∀ text ∈ query.status, agent.status.asStr=text := by
  unfold matchesAgentQuery
  simp only [reject_iff,decide_not,option_accepts_iff,decide_eq_true_eq,and_true]
  constructor
  · rintro ⟨hid,hrole,hproject,hbranch,hstatus,hcapability⟩
    exact ⟨⟨hid,hrole,hproject,hbranch,hcapability⟩,hstatus⟩
  · rintro ⟨⟨hid,hrole,hproject,hbranch,hcapability⟩,hstatus⟩
    exact ⟨hid,hrole,hproject,hbranch,hstatus,hcapability⟩

end Filters

section Queries

/-- Results of the registry queries that correspond to the options; a pattern that does not
compile is an error. -/
def corresponding (engine : RegexEngine) (r : Registry) (order : AgentOrder)
    (command : ListCommand) : Except ZeroConfError (List (List AgentInfo)) := do
  let regexResults ← command.metadataRegexes.mapM fun entry =>
    getAllByMetadataRegex engine r order entry.1 entry.2
  return command.id.toList.map (fun id => (get r id).toList) ++
    command.role.toList.map (getAllByRole r order) ++
    command.project.toList.map (getAllByProject r order) ++
    command.branch.toList.map (getAllByBranch r order) ++
    command.status.toList.map (getAllByStatus r order) ++
    command.capability.toList.map (getAllWithCapability r order) ++
    command.metadata.map (fun entry => getAllByMetadata r order entry.1 entry.2) ++
    command.metadataKeys.map (getAllWithMetadataKey r order) ++
    command.metadataKeyPrefixes.map (getAllWithMetadataKeyPrefix r order) ++
    command.metadataPrefixes.map (fun entry => getAllByMetadataPrefix r order entry.1 entry.2) ++
    regexResults

/-- The agents of a listing that are in every one of some results. -/
def intersection (listing : List AgentInfo) (results : List (List AgentInfo)) : List AgentInfo :=
  listing.filter fun agent => results.all fun result => agent ∈ result

/-- A pattern compiles. -/
def Compiles (engine : RegexEngine) (pattern : String) : Prop :=
  ∃ regex, engine.new pattern=.ok regex

/-- A metadata regex query has a result exactly when its pattern compiles. -/
theorem getAllByMetadataRegex_ok {engine : RegexEngine} {r : Registry} {order : AgentOrder}
    {key pattern : String} :
    (∃ agents, getAllByMetadataRegex engine r order key pattern=.ok agents) ↔
      Compiles engine pattern := by
  rw [getAllByMetadataRegex,Compiles]
  cases engine.new pattern with
  | error e => simp only [Except.mapError,error_bind,reduceCtorEq,exists_false]
  | ok regex => exact iff_of_true ⟨_,rfl⟩ ⟨regex,rfl⟩

/-- A stored agent is in the result of a metadata regex query exactly when it has a
matching value. -/
theorem mem_getAllByMetadataRegex {engine : RegexEngine} {r : Registry} {order : AgentOrder}
    {key pattern : String} {agents : List AgentInfo}
    (h : getAllByMetadataRegex engine r order key pattern=.ok agents) {agent : AgentInfo}
    (hs : Stored r agent) : agent ∈ agents ↔ matchesRegex engine agent key pattern=true := by
  rw [getAllByMetadataRegex] at h
  obtain ⟨regex,hregex,h⟩ := bind_ok h
  cases h
  rw [mem_query,and_iff_right hs,matchesRegex,mapError_ok hregex]

/-- The corresponding queries have results exactly when every pattern compiles. -/
theorem corresponding_ok {engine : RegexEngine} {r : Registry} {order : AgentOrder}
    {command : ListCommand} :
    (∃ results, corresponding engine r order command=.ok results) ↔
      ∀ entry ∈ command.metadataRegexes, Compiles engine entry.2 := by
  constructor
  · rintro ⟨results,h⟩ entry hentry
    obtain ⟨regexResults,hregexResults,-⟩ := bind_ok h
    obtain ⟨agents,-,hagents⟩ := exists_mem_of_mapM hregexResults hentry
    exact getAllByMetadataRegex_ok.mp ⟨agents,hagents⟩
  · intro h
    obtain ⟨regexResults,hregexResults⟩ := exists_mapM_ok fun entry hentry =>
      getAllByMetadataRegex_ok.mpr (h entry hentry)
    exact ⟨_,by rw [corresponding,hregexResults]; rfl⟩

/-- A stored agent is in every corresponding result exactly when it passes the filters. -/
theorem mem_corresponding {engine : RegexEngine} {r : Registry} (hk : KeyedById r.inner)
    {order : AgentOrder} {command : ListCommand} {results : List (List AgentInfo)}
    (h : corresponding engine r order command=.ok results) {agent : AgentInfo}
    (hs : Stored r agent) :
    (∀ result ∈ results, agent ∈ result) ↔ matchesFilters engine agent command=true := by
  obtain ⟨regexResults,hregexResults,h⟩ := bind_ok h
  cases h
  have hget : ∀ id : String, agent ∈ (get r id).toList ↔ agent.id=id := by
    intro id
    rw [Option.mem_toList]
    refine ⟨fun hid => hk id agent hid,?_⟩
    rintro rfl
    exact (stored_iff hk).mp hs
  have hregexes : (∀ result ∈ regexResults, agent ∈ result) ↔
      ∀ entry ∈ command.metadataRegexes, matchesRegex engine agent entry.1 entry.2=true := by
    constructor
    · intro hall entry hentry
      obtain ⟨agents,hmem,hagents⟩ := exists_mem_of_mapM hregexResults hentry
      exact (mem_getAllByMetadataRegex hagents hs).mp (hall agents hmem)
    · intro hall agents hmem
      obtain ⟨entry,hentry,hagents⟩ := exists_of_mem_mapM hregexResults hmem
      exact (mem_getAllByMetadataRegex hagents hs).mpr (hall entry hentry)
  rw [matchesFilters_iff]
  simp only [List.forall_mem_append,List.forall_mem_map,Option.mem_toList,hget,hregexes,
    getAllByRole,getAllByProject,getAllByBranch,getAllByStatus,getAllWithCapability,
    getAllByMetadata,getAllWithMetadataKey,getAllWithMetadataKeyPrefix,getAllByMetadataPrefix,
    mem_query,hs,true_and,decide_eq_true_eq,and_assoc,Option.mem_def]

end Queries

section Agreement

/-- The filters list the intersection of the corresponding queries, and where one of them
fails the command reports an error and prints no list. -/
def AgreesWithQueries (engine : RegexEngine) (r : Registry) (order order' : AgentOrder)
    (shutdown : Option ZeroConfError) (command : ListCommand) : Prop :=
  let outcome := runList engine (fun _ => .ok r) order shutdown command
  match corresponding engine r order' command with
  | .ok results =>
    ((r.list order).filter fun agent => matchesFilters engine agent command)=
        intersection (r.list order') results ∧
      outcome.printed=some ((intersection (r.list order') results).map toAgentRecord)
  | .error _ => outcome.printed=none ∧ outcome.error ≠ none

/-- The filters list the intersection of the results of the corresponding queries. -/
theorem filtered_eq_intersection {engine : RegexEngine} {r : Registry} (hk : KeyedById r.inner)
    (order : AgentOrder) {order' : AgentOrder} {command : ListCommand}
    {results : List (List AgentInfo)} (h : corresponding engine r order' command=.ok results) :
    ((r.list order).filter fun agent => matchesFilters engine agent command)=
      intersection (r.list order') results := by
  rw [list_eq_toList hk order,←list_eq_toList hk order',intersection]
  refine List.filter_congr fun agent hagent => ?_
  rw [Bool.eq_iff_iff,←mem_corresponding hk h (mem_list.mp hagent),List.all_eq_true]
  simp only [decide_eq_true_eq]

/-- In every reachable registry, `camp list` agrees with the queries exactly when every
pattern compiles. -/
theorem list_agrees_iff (engine : RegexEngine) (ttl : Duration) (ops : List RegistryOp)
    (order order' : AgentOrder) (shutdown : Option ZeroConfError) (command : ListCommand) :
    AgreesWithQueries engine (runOps (Registry.new ttl) ops) order order' shutdown command ↔
      ∀ entry ∈ command.metadataRegexes, Compiles engine entry.2 := by
  have hk := (Journaled.runOps ttl ops).keyed
  have hcompile : (∃ results, corresponding engine (runOps (Registry.new ttl) ops) order' command=
      .ok results) ↔ ∀ entry ∈ command.metadataRegexes, Compiles engine entry.2 := corresponding_ok
  rw [AgreesWithQueries,←hcompile]
  cases hc : corresponding engine (runOps (Registry.new ttl) ops) order' command with
  | error e =>
    refine iff_of_false ?_ (by rintro ⟨results,hresults⟩; cases hresults)
    rintro ⟨hprinted,-⟩
    cases hprinted
  | ok results =>
    have hfiltered := filtered_eq_intersection hk order hc
    have hprinted := congrArg some (congrArg (List.map toAgentRecord) hfiltered)
    exact iff_of_true ⟨hfiltered,hprinted⟩ ⟨results,rfl⟩

/-- Patterns of letters, which match where they are contained; an open group does not compile. -/
def literalEngine : RegexEngine where
  Regex := String
  new pattern := if pattern="(" then .error "unclosed group" else .ok pattern
  isMatch pattern text := containsText text pattern

/-- An open group is printed as an empty list, where the query is an error. -/
theorem open_group_is_printed :
    let command : ListCommand := { metadataRegexes := [("team","(")] }
    let r := runOps (Registry.new 2000000000) [.upsertRemote sampleAnnouncement 1]
    runList literalEngine (fun _ => .ok r) Iteration.ascending none command=
        { printed := some [], error := none } ∧
      getAllByMetadataRegex literalEngine r Iteration.ascending "team" "("=
        .error (.invalidMetadataRegex "(" "unclosed group") ∧
      ¬AgreesWithQueries literalEngine r Iteration.ascending Iteration.ascending none command := by
  intro command r
  refine ⟨by decide +kernel,rfl,?_⟩
  rintro ⟨hprinted,-⟩
  cases hprinted

/-- A request and a command line have the same options and no metadata filters. -/
structure SameOptions (query : AgentQuery) (command : ListCommand) : Prop where
  /-- The same identifier. -/
  id : command.id=query.id
  /-- The same role. -/
  role : command.role=query.role
  /-- The same project. -/
  project : command.project=query.project
  /-- The same branch. -/
  branch : command.branch=query.branch
  /-- The text of the request parses to the status of the command line. -/
  status : command.status.map Except.ok=query.status.map parseStatus
  /-- The same capability. -/
  capability : command.capability=query.capability
  /-- No metadata filters. -/
  metadata : command.metadata=[] ∧ command.metadataKeys=[] ∧ command.metadataKeyPrefixes=[] ∧
    command.metadataPrefixes=[] ∧ command.metadataRegexes=[]

/-- Without metadata filters, an agent is listed when it is selected and has the status. -/
theorem SameOptions.matchesFilters_iff {query : AgentQuery} {command : ListCommand}
    (h : SameOptions query command) {engine : RegexEngine} {agent : AgentInfo} :
    matchesFilters engine agent command=true ↔
      Selected query agent ∧ ∀ status ∈ command.status, agent.status=status := by
  obtain ⟨hmetadata,hkeys,hkeyPrefixes,hprefixes,hregexes⟩ := h.metadata
  rw [CampQueries.matchesFilters_iff,h.id,h.role,h.project,h.branch,h.capability,hmetadata,hkeys,
    hkeyPrefixes,hprefixes,hregexes]
  constructor
  · rintro ⟨hid,hrole,hproject,hbranch,hstatus,hcapability,-⟩
    exact ⟨⟨hid,hrole,hproject,hbranch,hcapability⟩,hstatus⟩
  · rintro ⟨⟨hid,hrole,hproject,hbranch,hcapability⟩,hstatus⟩
    refine ⟨hid,hrole,hproject,hbranch,hstatus,hcapability,?_⟩
    simp only [List.not_mem_nil,IsEmpty.forall_iff,implies_true,and_self]

/-- The status of the command line is the parsed text of the request. -/
theorem SameOptions.exists_status {query : AgentQuery} {command : ListCommand}
    (h : SameOptions query command) {text : String} (ht : query.status=some text) :
    ∃ status, command.status=some status ∧ parseStatus text=.ok status := by
  have hs := h.status
  rw [ht,Option.map_some,Option.map_eq_some_iff] at hs
  obtain ⟨status,hstatus,hparsed⟩ := hs
  exact ⟨status,hstatus,hparsed.symm⟩

/-- Without a status, or with its wire string, both filters select the same agents. -/
theorem SameOptions.matches_alike {query : AgentQuery} {command : ListCommand}
    (h : SameOptions query command)
    (hwire : ∀ text status, query.status=some text → parseStatus text=.ok status →
      text=status.asStr) (engine : RegexEngine) (agent : AgentInfo) :
    matchesFilters engine agent command=matchesAgentQuery agent query := by
  rw [Bool.eq_iff_iff,h.matchesFilters_iff,matchesAgentQuery_iff]
  refine and_congr_right fun _ => ?_
  cases ht : query.status with
  | none =>
    have hs := h.status
    rw [ht,Option.map_none,Option.map_eq_none_iff] at hs
    rw [hs]
    exact iff_of_true (by rintro status ⟨⟩) (by rintro text ⟨⟩)
  | some text =>
    obtain ⟨status,hstatus,hparsed⟩ := h.exists_status ht
    rw [hstatus,hwire text status ht hparsed]
    simp only [Option.mem_some_iff,forall_eq',AgentStatus.asStr_inj]

/-- A status that is not written as on the wire selects no agent of the bridge. -/
theorem not_matchesAgentQuery {query : AgentQuery} {text : String} {status : AgentStatus}
    (ht : query.status=some text) (hparsed : parseStatus text=.ok status)
    (hwire : text ≠ status.asStr) (agent : AgentInfo) : ¬matchesAgentQuery agent query=true := by
  rw [matchesAgentQuery_iff]
  rintro ⟨-,hstatus⟩
  have htext : agent.status.asStr=text := hstatus text ht
  rw [←htext,parseStatus,AgentStatus.fromStr_asStr] at hparsed
  exact hwire (htext.symm.trans (congrArg AgentStatus.asStr (Except.ok.inj hparsed)))

/-- The bridge returns what `camp list` prints for the same options exactly when the status,
if given, is written as on the wire or no stored agent is listed for it. -/
theorem bridge_agrees_iff (engine : RegexEngine) (ttl : Duration) (ops : List RegistryOp)
    (order order' : AgentOrder) (shutdown : Option ZeroConfError) {query : AgentQuery}
    {command : ListCommand} (h : SameOptions query command) :
    let r := runOps (Registry.new ttl) ops
    (runList engine (fun _ => .ok r) order shutdown command).printed=
        some (listAgentsHandler r order' query) ↔
      ∀ text status, query.status=some text → parseStatus text=.ok status →
        text=status.asStr ∨
          ∀ agent, Stored r agent → ¬(Selected query agent ∧ agent.status=status) := by
  intro r
  have hk := (Journaled.runOps ttl ops).keyed
  have hlist : r.list order'=r.list order := by rw [list_eq_toList hk,list_eq_toList hk]
  by_cases hwire : ∀ text status, query.status=some text → parseStatus text=.ok status →
      text=status.asStr
  · refine iff_of_true ?_ fun text status ht hparsed => Or.inl (hwire text status ht hparsed)
    have hfiltered : ((r.list order).filter fun agent => matchesFilters engine agent command)=
        (r.list order').filter fun agent => matchesAgentQuery agent query := by
      rw [hlist]
      exact List.filter_congr fun agent _ => h.matches_alike hwire engine agent
    exact congrArg some (congrArg (List.map toAgentRecord) hfiltered)
  · simp only [not_forall] at hwire
    obtain ⟨text,status,ht,hparsed,hwire⟩ := hwire
    obtain ⟨parsed,hstatus,hok⟩ := h.exists_status ht
    cases hparsed.symm.trans hok
    have hnone : listAgentsHandler r order' query=[] := by
      rw [listAgentsHandler,List.filter_eq_nil_iff.mpr fun agent _ =>
        not_matchesAgentQuery ht hparsed hwire agent,List.map_nil]
    have hprinted : (runList engine (fun _ => .ok r) order shutdown command).printed=
        some (listAgentsHandler r order' query) ↔
          ∀ agent ∈ r.list order, ¬matchesFilters engine agent command=true := by
      rw [hnone,runList,Option.some_inj,List.map_eq_nil_iff,List.filter_eq_nil_iff]
    rw [hprinted]
    simp only [mem_list,h.matchesFilters_iff,hstatus,Option.mem_some_iff,forall_eq']
    constructor
    · intro hall text' status' ht' hparsed'
      cases ht.symm.trans ht'
      cases hparsed.symm.trans hparsed'
      exact Or.inr hall
    · exact fun hall => (hall text status ht hparsed).resolve_left hwire

/-- A status in capitals is listed on the command line and not by the bridge. -/
theorem capitalized_status_differs :
    let query : AgentQuery := { status := some "Busy" }
    let command : ListCommand := { status := some .busy }
    let r := runOps (Registry.new 2000000000)
      [.upsertRemote (setStatus sampleAnnouncement .busy) 1]
    let outcome := runList literalEngine (fun _ => .ok r) Iteration.ascending none command
    SameOptions query command ∧ listAgentsHandler r Iteration.ascending query=[] ∧
      outcome.printed.map (List.map AgentRecord.id)=some ["agent-local"] ∧
      outcome.printed ≠ some (listAgentsHandler r Iteration.ascending query) := by
  intro query command r outcome
  refine ⟨?_,by decide +kernel,by decide +kernel,by decide +kernel⟩
  exact ⟨rfl,rfl,rfl,rfl,rfl,rfl,rfl,rfl,rfl,rfl,rfl⟩

/-- The wire string of a status selects the same agents. -/
theorem bridge_agrees_iff_wire :
    let query : AgentQuery := { project := some "alpha", status := some "busy" }
    let command : ListCommand := { project := some "alpha", status := some .busy }
    let r := runOps (Registry.new 2000000000)
      [.upsertRemote (setStatus sampleAnnouncement .busy) 1]
    (runList literalEngine (fun _ => .ok r) Iteration.ascending none command).printed=
      some (listAgentsHandler r Iteration.ascending query) := by
  intro query command r
  have hsame : SameOptions query command :=
    ⟨rfl,rfl,rfl,rfl,rfl,rfl,rfl,rfl,rfl,rfl,rfl⟩
  refine (bridge_agrees_iff literalEngine 2000000000 _ Iteration.ascending Iteration.ascending none
    hsame).mpr ?_
  rintro text status ⟨⟩ ⟨⟩
  exact Or.inl rfl

end Agreement

end MeshPresence.CampQueries

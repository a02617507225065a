import MeshPresence.ValidatedConfig

/-!
# What passes as a service type

The documented pattern of a service type has four dot-separated labels: a name
behind an underscore, a protocol, `local`, and an empty one. The validation
tests a first character, an ending and a protocol label between two dots. These
tests leave the number of labels open and let the name be empty. The accepted
service types are described by their labels, and with them exactly those that
are accepted without having the documented form.
-/

namespace MeshPresence.ServiceTypes

open TextOperations FallibleSteps AgentTypes AgentConfig AnnouncementInvariant ValidatedConfig

/-- The documented pattern: `_name._tcp.local.` or `_name._udp.local.` with a nonempty
name without dots. -/
def ServiceTypePattern (serviceType : String) : Prop :=
  ∃ name : String, name ≠ "" ∧ '.' ∉ name.toList ∧
    (serviceType="_" ++ name ++ "._tcp.local." ∨ serviceType="_" ++ name ++ "._udp.local.")

/-- A label that names a protocol. -/
def ProtocolLabel (label : String) : Prop := label="_tcp" ∨ label="_udp"

/-- The labels of a service type behind a first label with an underscore end with `local`
and an empty label, and a protocol is among those before. -/
structure TestedLabels (serviceType first : String) (middle : List String) : Prop where
  /-- The labels in their order. -/
  labels : split '.' serviceType=first :: (middle ++ ["local",""])
  /-- The first label begins with an underscore. -/
  underscore : startsWith first "_"=true
  /-- A protocol label is among the middle ones. -/
  protocol : ∃ label ∈ middle, ProtocolLabel label

/-- The labels that pass the tests without being those of the pattern: the first one is a
lone underscore, or there are further ones beside the protocol. -/
def OtherLabels (serviceType : String) : Prop :=
  ∃ first middle, TestedLabels serviceType first middle ∧ (first="_" ∨ middle.length ≠ 1)

/-- A label other than `local` is an inner one exactly when it is among the middle ones. -/
theorem mem_inner_iff {serviceType first label : String} {middle : List String}
    (hs : split '.' serviceType=first :: (middle ++ ["local",""])) (hl : label ≠ "local") :
    label ∈ (split '.' serviceType).tail.dropLast ↔ label ∈ middle := by
  have hinner : (middle ++ ["local",""]).dropLast=middle ++ ["local"] :=
    List.dropLast_append_of_ne_nil (List.cons_ne_nil _ _)
  rw [hs,List.tail_cons,hinner,List.mem_append,List.mem_singleton,or_iff_left hl]

/-- The protocol tests look for a protocol among the inner labels. -/
theorem containsText_protocol_iff {serviceType first : String} {middle : List String}
    (hs : split '.' serviceType=first :: (middle ++ ["local",""])) :
    (containsText serviceType "._tcp." || containsText serviceType "._udp.")=true ↔
      ∃ label ∈ middle, ProtocolLabel label := by
  have hdots : "._tcp."=String.singleton '.' ++ "_tcp" ++ String.singleton '.' ∧
      "._udp."=String.singleton '.' ++ "_udp" ++ String.singleton '.' := by decide
  rw [hdots.1,hdots.2,Bool.or_eq_true,containsText_enclosed_iff serviceType "_tcp" (by decide),
    containsText_enclosed_iff serviceType "_udp" (by decide),mem_inner_iff hs (by decide),
    mem_inner_iff hs (by decide)]
  constructor
  · rintro (h | h)
    · exact ⟨_,h,Or.inl rfl⟩
    · exact ⟨_,h,Or.inr rfl⟩
  · rintro ⟨label,h,rfl | rfl⟩
    · exact Or.inl h
    · exact Or.inr h

/-- The tests on the text are tests on its labels. -/
theorem isValidServiceType_iff {serviceType : String} :
    isValidServiceType serviceType=true ↔
      ∃ first middle, TestedLabels serviceType first middle := by
  have htests : isValidServiceType serviceType=true ↔ startsWith serviceType "_"=true ∧
      endsWith serviceType ".local."=true ∧
      (containsText serviceType "._tcp." || containsText serviceType "._udp.")=true := by
    unfold isValidServiceType
    cases startsWith serviceType "_" <;> cases endsWith serviceType ".local." <;>
      simp only [Bool.not_true,Bool.not_false,Bool.or_true,Bool.true_or,Bool.or_self,if_true,
        Bool.false_eq_true,if_false,false_and,and_false,true_and]
  have hend : endsWith serviceType ".local."=true ↔
      ∃ front, split '.' serviceType=front ++ ["local",""] ∧ front ≠ [] :=
    endsWith_separator_iff serviceType '.' "local."
  rw [htests]
  constructor
  · rintro ⟨hstart,hlocal,hprotocol⟩
    obtain ⟨front,hs,hne⟩ := hend.mp hlocal
    obtain ⟨first,middle,rfl⟩ := List.exists_cons_of_ne_nil hne
    refine ⟨first,middle,hs,?_,(containsText_protocol_iff hs).mp hprotocol⟩
    rw [←hstart]
    exact (startsWith_of_split (by decide) hs).symm
  · rintro ⟨first,middle,hs,hunderscore,hprotocol⟩
    refine ⟨?_,hend.mpr ⟨first :: middle,hs,List.cons_ne_nil _ _⟩,
      (containsText_protocol_iff hs).mpr hprotocol⟩
    rw [←hunderscore]
    exact startsWith_of_split (by decide) hs

/-- The labels of a text that is a name with a protocol. -/
theorem split_pattern {name protocol : String} (hname : '.' ∉ name.toList)
    (hprotocol : '.' ∉ protocol.toList) :
    split '.' ("_" ++ name ++ "." ++ protocol ++ ".local.")=["_" ++ name,protocol,"local",""] := by
  have hjoined : "_" ++ name ++ "." ++ protocol ++ ".local."=
      join (String.singleton '.') ["_" ++ name,protocol,"local",""] := by
    apply String.toList_inj.mp
    simp only [join,String.intercalate_cons_cons,String.intercalate_singleton,String.toList_append,
      List.append_assoc]
    rfl
  rw [hjoined]
  refine split_join '.' (List.cons_ne_nil _ _) (List.forall_mem_cons.mpr ⟨?_,?_⟩)
  · rw [String.toList_append,List.mem_append,not_or]
    exact ⟨by decide,hname⟩
  · exact List.forall_mem_cons.mpr ⟨hprotocol,by decide⟩

/-- The labels of a service type have one first and one list of middle labels. -/
theorem TestedLabels.unique {serviceType first first' : String} {middle middle' : List String}
    (h : TestedLabels serviceType first middle) (h' : TestedLabels serviceType first' middle') :
    first=first' ∧ middle=middle' := by
  have hlabels := h.labels.symm.trans h'.labels
  obtain ⟨hfirst,hrest⟩ := List.cons.inj hlabels
  exact ⟨hfirst,List.append_cancel_right hrest⟩

/-- A text of the pattern is an underscore with a name, a protocol, and the ending. -/
theorem serviceTypePattern_iff_protocol {serviceType : String} :
    ServiceTypePattern serviceType ↔ ∃ name protocol : String, name ≠ "" ∧ '.' ∉ name.toList ∧
      ProtocolLabel protocol ∧ serviceType="_" ++ name ++ "." ++ protocol ++ ".local." := by
  have hliteral : "._tcp.local."="." ++ "_tcp" ++ ".local." ∧
      "._udp.local."="." ++ "_udp" ++ ".local." := by decide
  simp only [ServiceTypePattern,ProtocolLabel,hliteral.1,hliteral.2,←String.append_assoc]
  constructor
  · rintro ⟨name,hname,hdot,h | h⟩
    · exact ⟨name,"_tcp",hname,hdot,Or.inl rfl,h⟩
    · exact ⟨name,"_udp",hname,hdot,Or.inr rfl,h⟩
  · rintro ⟨name,protocol,hname,hdot,rfl | rfl,h⟩
    · exact ⟨name,hname,hdot,Or.inl h⟩
    · exact ⟨name,hname,hdot,Or.inr h⟩

/-- The pattern asks for a name behind the underscore and for the protocol alone in the
middle. -/
theorem serviceTypePattern_iff {serviceType : String} :
    ServiceTypePattern serviceType ↔ ∃ first middle, TestedLabels serviceType first middle ∧
      first ≠ "_" ∧ middle.length=1 := by
  have hdotless : ∀ protocol, ProtocolLabel protocol → '.' ∉ protocol.toList := by
    rintro protocol (rfl | rfl) <;> decide
  rw [serviceTypePattern_iff_protocol]
  constructor
  · rintro ⟨name,protocol,hname,hdot,hprotocol,rfl⟩
    have hsplit := split_pattern hdot (hdotless protocol hprotocol)
    refine ⟨"_" ++ name,[protocol],⟨hsplit,startsWith_iff.mpr ⟨name,rfl⟩,
      ⟨protocol,List.mem_singleton_self _,hprotocol⟩⟩,fun he => hname ?_,rfl⟩
    exact String.append_eq_left_iff.mp he
  · rintro ⟨first,middle,h,hfirst,hlength⟩
    obtain ⟨protocol,rfl⟩ := List.length_eq_one_iff.mp hlength
    obtain ⟨name,rfl⟩ := startsWith_iff.mp h.underscore
    obtain ⟨label,hlabel,hprotocol⟩ := h.protocol
    rw [List.mem_singleton.mp hlabel] at hprotocol
    have hfront : "_" ++ name ∈ split '.' serviceType := h.labels ▸ List.mem_cons_self
    have hdot : '.' ∉ name.toList := fun hm => by
      refine separator_notMem_of_mem_split hfront ?_
      rw [String.toList_append]
      exact List.mem_append_right _ hm
    refine ⟨name,protocol,fun he => hfirst (by rw [he,String.append_empty]),hdot,hprotocol,
      split_injective (h.labels.trans ?_)⟩
    exact (split_pattern hdot (hdotless protocol hprotocol)).symm

/-- The tests coincide with the pattern exactly when no other labels pass them. -/
theorem isValidServiceType_iff_pattern_iff {serviceType : String} :
    (isValidServiceType serviceType=true ↔ ServiceTypePattern serviceType) ↔
      ¬OtherLabels serviceType := by
  rw [isValidServiceType_iff,serviceTypePattern_iff]
  constructor
  · rintro hiff ⟨first,middle,h,hother⟩
    obtain ⟨first',middle',h',hfirst,hlength⟩ := hiff.mp ⟨first,middle,h⟩
    obtain ⟨rfl,rfl⟩ := h.unique h'
    exact hother.elim hfirst fun hne => hne hlength
  · intro hnone
    refine ⟨fun ⟨first,middle,h⟩ => ⟨first,middle,h,?_⟩,fun ⟨first,middle,h,_⟩ =>
      ⟨first,middle,h⟩⟩
    have hneither : ¬(first="_" ∨ middle.length ≠ 1) := fun ho => hnone ⟨first,middle,h,ho⟩
    rwa [not_or,not_not] at hneither

/-- Arguments that pass every check but that of the service type. -/
structure OtherwiseValid (agentId role project branch : String) (port mdnsPort : UInt16)
    (heartbeatInterval ttl : Duration) (eventCapacity : UInt64) (metadata : AgentMetadata) :
    Prop where
  /-- The required texts are not blank. -/
  texts : trim agentId ≠ "" ∧ trim role ≠ "" ∧ trim project ≠ "" ∧ trim branch ≠ ""
  /-- The ports are not zero. -/
  ports : port ≠ 0 ∧ mdnsPort ≠ 0
  /-- The TTL exceeds the heartbeat interval. -/
  timing : heartbeatInterval<ttl
  /-- The event channel holds at least one event. -/
  eventCapacity : eventCapacity ≠ 0
  /-- No metadata key is blank. -/
  keys : NoBlankKey metadata
  /-- No metadata key is reserved. -/
  unreserved : ∀ key ∈ metadata, isReservedMetadataKey key=false

section Acceptance

variable {agentId role project branch : String} {port mdnsPort : UInt16} {serviceType : String}
  {initialStatus : AgentStatus} {heartbeatInterval ttl : Duration} {eventCapacity : UInt64}
  {capabilities : List String} {metadata : AgentMetadata}

/-- With the other required texts given, the constructor validates the trimmed texts. -/
theorem new_of_texts (h : trim agentId ≠ "" ∧ trim role ≠ "" ∧ trim project ≠ "" ∧
      trim branch ≠ "") :
    ZeroConfConfig.new agentId role project branch port mdnsPort serviceType initialStatus
      heartbeatInterval ttl eventCapacity capabilities metadata=
    (do
      let serviceType ← normalizeRequired serviceType "service_type"
      let config : ZeroConfConfig :=
        { agentId := trim agentId, role := trim role, project := trim project
          branch := trim branch, port, mdnsPort, serviceType, initialStatus, heartbeatInterval
          ttl, eventCapacity, capabilities, metadata, advertiseLocal := true
          enabledInterfaces := [], disabledInterfaces := [], sharedSecretAuth := none }
      config.validate
      return config) := by
  obtain ⟨hid,hrole,hproject,hbranch⟩ := h
  rw [ZeroConfConfig.new,normalizeRequired_iff.mpr ⟨hid,rfl⟩,ok_bind,
    normalizeRequired_iff.mpr ⟨hrole,rfl⟩,ok_bind,normalizeRequired_iff.mpr ⟨hproject,rfl⟩,
    ok_bind,normalizeRequired_iff.mpr ⟨hbranch,rfl⟩,ok_bind]

/-- The constructor accepts the arguments that are valid otherwise and whose trimmed
service type passes the tests. -/
theorem new_ok_iff :
    (∃ config, ZeroConfConfig.new agentId role project branch port mdnsPort serviceType
      initialStatus heartbeatInterval ttl eventCapacity capabilities metadata=.ok config) ↔
    OtherwiseValid agentId role project branch port mdnsPort heartbeatInterval ttl eventCapacity
      metadata ∧ isValidServiceType (trim serviceType)=true := by
  constructor
  · rintro ⟨config,h⟩
    obtain ⟨⟨hid,hrole,hproject,hbranch,-⟩,hvalidate,rfl⟩ := new_config h
    obtain ⟨hport,hmdns,htiming,hcapacity,htype,hkeys,hreserved⟩ := validate_iff.mp hvalidate
    exact ⟨⟨⟨hid.2,hrole.2,hproject.2,hbranch.2⟩,⟨hport,hmdns⟩,htiming,hcapacity,hkeys,
      hreserved⟩,htype⟩
  · rintro ⟨⟨htexts,⟨hport,hmdns⟩,htiming,hcapacity,hkeys,hreserved⟩,htype⟩
    have hne : trim serviceType ≠ "" := by
      intro he
      rw [he] at htype
      revert htype
      decide
    let config : ZeroConfConfig :=
      { agentId := trim agentId, role := trim role, project := trim project
        branch := trim branch, port, mdnsPort, serviceType := trim serviceType, initialStatus
        heartbeatInterval, ttl, eventCapacity, capabilities, metadata, advertiseLocal := true
        enabledInterfaces := [], disabledInterfaces := [], sharedSecretAuth := none }
    have hvalidate : config.validate=.ok () :=
      validate_iff.mpr ⟨hport,hmdns,htiming,hcapacity,htype,hkeys,hreserved⟩
    refine ⟨config,?_⟩
    rw [new_of_texts htexts,normalizeRequired_iff.mpr ⟨hne,rfl⟩,ok_bind]
    exact congrArg (· >>= fun _ => Except.ok config) hvalidate

/-- Every service type of the pattern is accepted, with white space around it. -/
theorem new_of_pattern (h : OtherwiseValid agentId role project branch port mdnsPort
      heartbeatInterval ttl eventCapacity metadata) (hp : ServiceTypePattern (trim serviceType)) :
    ∃ config, ZeroConfConfig.new agentId role project branch port mdnsPort serviceType
      initialStatus heartbeatInterval ttl eventCapacity capabilities metadata=.ok config := by
  obtain ⟨first,middle,htested,-⟩ := serviceTypePattern_iff.mp hp
  exact new_ok_iff.mpr ⟨h,isValidServiceType_iff.mpr ⟨first,middle,htested⟩⟩

/-- A blank service type is reported as an empty field, and any other one that does not
pass the tests as invalid. -/
theorem new_error (h : OtherwiseValid agentId role project branch port mdnsPort heartbeatInterval
      ttl eventCapacity metadata) (ht : isValidServiceType (trim serviceType)=false) :
    ZeroConfConfig.new agentId role project branch port mdnsPort serviceType initialStatus
      heartbeatInterval ttl eventCapacity capabilities metadata=
      .error (if trim serviceType="" then .emptyField "service_type"
        else .invalidServiceType (trim serviceType)) := by
  obtain ⟨htexts,⟨hport,hmdns⟩,htiming,hcapacity,-,-⟩ := h
  rw [new_of_texts htexts]
  by_cases hblank : trim serviceType=""
  · rw [normalizeRequired,if_pos hblank,if_pos hblank]
    rfl
  · rw [normalizeRequired_iff.mpr ⟨hblank,rfl⟩,ok_bind,if_neg hblank]
    simp only [ZeroConfConfig.validate,if_neg hport,if_neg hmdns,if_neg (not_le.mpr htiming),
      if_neg hcapacity,ht,Bool.not_false,if_true]
    rfl

/-- With otherwise valid arguments, acceptance is the documented pattern exactly when the
trimmed service type has no other labels that pass the tests. -/
theorem new_accepts_pattern_iff (h : OtherwiseValid agentId role project branch port mdnsPort
      heartbeatInterval ttl eventCapacity metadata) :
    ((∃ config, ZeroConfConfig.new agentId role project branch port mdnsPort serviceType
      initialStatus heartbeatInterval ttl eventCapacity capabilities metadata=.ok config) ↔
      ServiceTypePattern (trim serviceType)) ↔ ¬OtherLabels (trim serviceType) := by
  rw [new_ok_iff,and_iff_right h]
  exact isValidServiceType_iff_pattern_iff

end Acceptance

/-- The default service type with the arguments of the small configuration. -/
theorem new_accepts_pattern_iff_default :
    ((∃ config, ZeroConfConfig.new "agent-local" "coder" "alpha" "main" 8080 5353
      "_agent-mesh._tcp.local." .idle 30000000000 120000000000 256 [] ∅=.ok config) ↔
      ServiceTypePattern (trim "_agent-mesh._tcp.local.")) ↔
      ¬OtherLabels (trim "_agent-mesh._tcp.local.") :=
  new_accepts_pattern_iff (new_ok_iff.mp ⟨sampleConfig,sampleConfig_new⟩).1

/-- A service type with a dot in its name is accepted, and so is one whose name is empty. -/
theorem new_accepts_other_labels :
    ((∃ config, ZeroConfConfig.new "agent-local" "coder" "alpha" "main" 8080 5353
      "_agent.mesh._tcp.local." .idle 30000000000 120000000000 256 [] ∅=.ok config) ∧
      ¬ServiceTypePattern (trim "_agent.mesh._tcp.local.")) ∧
    (∃ config, ZeroConfConfig.new "agent-local" "coder" "alpha" "main" 8080 5353
      "_._tcp.local." .idle 30000000000 120000000000 256 [] ∅=.ok config) ∧
      ¬ServiceTypePattern (trim "_._tcp.local.") := by
  have hvalid := (new_ok_iff.mp ⟨sampleConfig,sampleConfig_new⟩).1
  refine ⟨⟨new_ok_iff.mpr ⟨hvalid,by decide +kernel⟩,fun hp => ?_⟩,
    new_ok_iff.mpr ⟨hvalid,by decide +kernel⟩,fun hp => ?_⟩
  · obtain ⟨first,middle,h,-,hlength⟩ := serviceTypePattern_iff.mp hp
    have hlabels : (split '.' (trim "_agent.mesh._tcp.local.")).length=5 := by decide +kernel
    rw [h.labels,List.length_cons,List.length_append,hlength] at hlabels
    cases hlabels
  · obtain ⟨first,middle,h,hfirst,-⟩ := serviceTypePattern_iff.mp hp
    have hlabels : (split '.' (trim "_._tcp.local.")).head?=some "_" := by decide +kernel
    rw [h.labels] at hlabels
    exact hfirst (Option.some.inj hlabels)

end MeshPresence.ServiceTypes

import MeshPresence.WireRoundTrip

/-!
# Signatures verify where the secret is accepted

The signature covers the typed fields and the metadata under keys that are not
reserved. None of these change on the wire, so the receiver recomputes the same
tag under the signer's secret; both constructors of shared-secret settings keep
every given secret, trimmed, among the accepted ones.
-/

namespace MeshPresence.SignatureVerification

open TextOperations FiniteMaps FallibleSteps AgentTypes AgentConfig AgentWire
open AnnouncementInvariant WireRoundTrip

/-- Metadata keys that a signature covers. -/
def isSignedKey (key : String) : Bool := !isReservedMetadataKey key && !isAuthMetadataKey key

/-- The authentication keys are reserved, so the signed keys are those that are
not reserved. -/
theorem isSignedKey_eq (key : String) : isSignedKey key=!isReservedMetadataKey key := by
  cases ha : isAuthMetadataKey key with
  | false => rw [isSignedKey,ha,Bool.not_false,Bool.and_true]
  | true =>
    have hr : isReservedMetadataKey key=true := by
      rw [isAuthMetadataKey,Bool.or_eq_true,decide_eq_true_eq,decide_eq_true_eq] at ha
      rcases ha with rfl|rfl <;> rfl
    rw [isSignedKey,hr,Bool.not_true,Bool.false_and]

/-- The payload reads the typed fields without the addresses, and the metadata
under signed keys only. -/
theorem signaturePayload_congr (a : AgentAnnouncement) (addresses : List IpAddr)
    {metadata : AgentMetadata}
    (h : ∀ key, isSignedKey key=true → metadata[key]?=a.metadata[key]?) :
    signaturePayload { a with addresses, metadata }=signaturePayload a := by
  have hm := filter_toList_eq_iff.mpr h
  simp only [isSignedKey] at hm
  simp only [signaturePayload,hm]

/-- The payload of a signed announcement is that of the unsigned one. -/
theorem signaturePayload_applySharedSecretAuth (mac : Mac) (a : AgentAnnouncement)
    (auth : SharedSecretAuth) :
    signaturePayload (applySharedSecretAuth mac a auth)=signaturePayload a := by
  refine signaturePayload_congr a a.addresses fun key hkey => ?_
  rw [getElem?_insert_ne _ _ ?_,getElem?_insert_ne _ _ ?_]
  all_goals
    rintro rfl
    exact absurd hkey (by decide)

/-- A signed announcement carries the scheme. -/
theorem applySharedSecretAuth_scheme (mac : Mac) (a : AgentAnnouncement) (auth : SharedSecretAuth) :
    (applySharedSecretAuth mac a auth).metadata[agentAuthSchemeMetadataKey]?=
      some sharedSecretScheme := by
  simp only [applySharedSecretAuth]
  rw [getElem?_insert_ne _ _ (by decide)]
  exact Std.ExtTreeMap.getElem?_insert_self

/-- A signed announcement carries the tag of its own payload. -/
theorem applySharedSecretAuth_signature (mac : Mac) (a : AgentAnnouncement)
    (auth : SharedSecretAuth) :
    (applySharedSecretAuth mac a auth).metadata[agentSignatureMetadataKey]?=
      some (mac.tag auth.signingSecret (signaturePayload a)) := by
  have hpayload : signaturePayload { a with
      metadata := a.metadata.insert agentAuthSchemeMetadataKey sharedSecretScheme }=
      signaturePayload a := by
    refine signaturePayload_congr a a.addresses fun key hkey => ?_
    rw [getElem?_insert_ne _ _ ?_]
    rintro rfl
    exact absurd hkey (by decide)
  simp only [applySharedSecretAuth,sharedSecretSignature,hpayload]
  exact Std.ExtTreeMap.getElem?_insert_self

/-- A stored value that is not blank is found. -/
theorem requiredAuthMetadata_ok {metadata : AgentMetadata} {key value : String}
    (h : metadata[key]?=some value) (hne : trim value ≠ "") :
    requiredAuthMetadata metadata key=.ok value := by
  simp only [requiredAuthMetadata,h,Option.filter_some,hne,ne_eq,not_false_eq_true,decide_true,
    if_true]

/-- An announcement that carries the scheme and the tag of its own payload under
an accepted secret verifies. -/
theorem verifySharedSecretAuth_of_tag {mac : Mac} {a : AgentAnnouncement}
    {auth : SharedSecretAuth} (secret : String)
    (hscheme : a.metadata[agentAuthSchemeMetadataKey]?=some sharedSecretScheme)
    (hsignature : a.metadata[agentSignatureMetadataKey]?=
      some (mac.tag secret (signaturePayload a)))
    (hsecret : secret ∈ auth.verificationSecrets) :
    verifySharedSecretAuth mac a auth=.ok () := by
  have hany : (auth.verificationSecrets.any fun s =>
      mac.tag secret (signaturePayload a)=sharedSecretSignature mac a s)=true :=
    List.any_eq_true.mpr ⟨secret,hsecret,decide_eq_true rfl⟩
  rw [verifySharedSecretAuth,requiredAuthMetadata_ok hscheme (by decide),ok_bind,
    requiredAuthMetadata_ok hsignature (mac.tag_not_blank _ _),ok_bind]
  simp only [ne_eq,not_true_eq_false,if_false,hany,if_true]
  rfl

/-- A found value is stored. -/
theorem requiredAuthMetadata_some {metadata : AgentMetadata} {key value : String}
    (h : requiredAuthMetadata metadata key=.ok value) : metadata[key]?=some value := by
  rw [requiredAuthMetadata] at h
  split at h
  · next hfound =>
    cases h
    exact (Option.filter_eq_some_iff.mp hfound).1
  · cases h

/-- An announcement that verifies carries the scheme and the tag of its own payload under
an accepted secret. -/
theorem tag_of_verifySharedSecretAuth {mac : Mac} {a : AgentAnnouncement}
    {auth : SharedSecretAuth} (h : verifySharedSecretAuth mac a auth=.ok ()) :
    a.metadata[agentAuthSchemeMetadataKey]?=some sharedSecretScheme ∧
    ∃ secret ∈ auth.verificationSecrets,
      a.metadata[agentSignatureMetadataKey]?=some (mac.tag secret (signaturePayload a)) := by
  obtain ⟨scheme,hscheme,h⟩ := bind_ok h
  obtain ⟨signature,hsignature,h⟩ := bind_ok h
  obtain ⟨hvalid,h⟩ := reject_ok h
  split at h
  · next hany =>
    obtain ⟨secret,hsecret,htag⟩ := List.any_eq_true.mp hany
    cases not_not.mp hvalid
    cases of_decide_eq_true htag
    exact ⟨requiredAuthMetadata_some hscheme,secret,hsecret,requiredAuthMetadata_some hsignature⟩
  · cases h

/-- A freshly signed announcement verifies under the settings that signed it. -/
theorem verify_applySharedSecretAuth (mac : Mac) (a : AgentAnnouncement)
    (auth : SharedSecretAuth) :
    verifySharedSecretAuth mac (applySharedSecretAuth mac a auth) auth=.ok () := by
  refine verifySharedSecretAuth_of_tag auth.signingSecret
    (applySharedSecretAuth_scheme mac a auth) ?_ auth.signing_mem
  rw [signaturePayload_applySharedSecretAuth]
  exact applySharedSecretAuth_signature mac a auth

/-- Shared-secret settings built by a constructor from the given secrets. -/
inductive BuiltFrom : List String → SharedSecretAuth → Prop where
  /-- `SharedSecretAuth::new`. -/
  | new {secret : String} {mode : SharedSecretMode} {auth : SharedSecretAuth}
      (h : SharedSecretAuth.new secret mode=.ok auth) : BuiltFrom [secret] auth
  /-- `SharedSecretAuth::with_rotation`. -/
  | withRotation {signingSecret : String} {verificationSecrets : List String}
      {mode : SharedSecretMode} {auth : SharedSecretAuth}
      (h : SharedSecretAuth.withRotation signingSecret verificationSecrets mode=.ok auth) :
      BuiltFrom (signingSecret :: verificationSecrets) auth

/-- A secret is normalized by trimming. -/
theorem normalizeSharedSecret_ok {secret result : String}
    (h : normalizeSharedSecret secret=.ok result) : result=trim secret := by
  unfold normalizeSharedSecret at h
  split at h
  · cases h
  · cases h
    rfl

/-- Every given secret is accepted in its trimmed form. -/
theorem BuiltFrom.trim_mem {given : List String} {auth : SharedSecretAuth}
    (h : BuiltFrom given auth) {secret : String} (hs : secret ∈ given) :
    trim secret ∈ auth.verificationSecrets := by
  cases h with
  | new h =>
    obtain ⟨signing,hsigning,h⟩ := bind_ok h
    cases h
    rw [List.mem_singleton.mp hs,normalizeSharedSecret_ok hsigning]
    exact List.mem_singleton_self _
  | withRotation h =>
    obtain ⟨signing,hsigning,h⟩ := bind_ok h
    obtain ⟨normalized,hnormalized,h⟩ := bind_ok h
    cases h
    rw [mem_sortDedup,mem_withSigningSecret]
    rcases List.mem_cons.mp hs with rfl|hs
    · exact Or.inr (normalizeSharedSecret_ok hsigning).symm
    · obtain ⟨other,hother,he⟩ := exists_mem_of_mapM hnormalized hs
      exact Or.inl (normalizeSharedSecret_ok he ▸ hother)

/-- A canonical key is not signed. -/
theorem isSignedKey_canonical {key : String} (h : isSignedKey key=true) : key ∉ canonicalKeys := by
  intro hm
  simp only [canonicalKeys,List.mem_cons,List.not_mem_nil,or_false] at hm
  rcases hm with rfl|rfl|rfl|rfl|rfl|rfl <;> exact absurd h (by decide)

/-- Announcements that a node signs verify at every peer that was given the
signing secret, after encoding, unchanged delivery and decoding with whatever
addresses the resolution reports. -/
theorem signed_announcement_verifies (mac : Mac)
    {instanceName agentId role project branch : String} {status : AgentStatus} {port : UInt16}
    {addresses : List IpAddr} {metadata : AgentMetadata} {built : AgentAnnouncement}
    (h : AgentAnnouncement.new instanceName agentId role project branch status port addresses
      metadata=.ok built) (mutators : List Mutator) (signer verifier : SharedSecretAuth)
    {given : List String} (hverifier : BuiltFrom given verifier)
    (hsecret : ∃ secret ∈ given, trim secret=signer.signingSecret) (resolved : List IpAddr) :
    let signed := applySharedSecretAuth mac (applyAll mac built mutators) signer
    ∃ b, fromTxtProperties signed.instanceName signed.port resolved (toTxtProperties signed)=.ok b ∧
      verifySharedSecretAuth mac b verifier=.ok () := by
  intro signed
  have hsigned : WellFormed signed :=
    applySharedSecretAuth_wellFormed (applyAll_wellFormed mac (new_ok h).1 mutators) mac signer
  have hmirrors := canonicalMetadata_mirrors signed
  refine ⟨_,fromTxtProperties_toTxtProperties hsigned resolved,?_⟩
  obtain ⟨secret,hgiven,htrim⟩ := hsecret
  refine verifySharedSecretAuth_of_tag signer.signingSecret ?_ ?_
    (htrim ▸ hverifier.trim_mem hgiven)
  · exact (hmirrors.other _ (by decide)).trans (applySharedSecretAuth_scheme mac _ signer)
  · rw [signaturePayload_congr signed resolved fun key hkey =>
      hmirrors.other key (isSignedKey_canonical hkey),signaturePayload_applySharedSecretAuth]
    exact (hmirrors.other _ (by decide)).trans (applySharedSecretAuth_signature mac _ signer)

/-- Settings that moved on to a new secret and still accept the old one. -/
def rotatedAuth : SharedSecretAuth :=
  (SharedSecretAuth.withRotation "next-secret" [" mesh-secret\n","next-secret"]
    .signAndVerify).toOption.get (by decide +kernel)

/-- An announcement signed with the old secret verifies under the rotated settings. -/
theorem signed_announcement_verifies_rotated :
    let signed := applySharedSecretAuth Mac.recorded
      (applyAll Mac.recorded sampleAnnouncement sampleUpdates) sampleAuth
    ∃ b, fromTxtProperties signed.instanceName signed.port [.v4 0x7f000001#32]
        (toTxtProperties signed)=.ok b ∧
      verifySharedSecretAuth Mac.recorded b rotatedAuth=.ok () :=
  signed_announcement_verifies Mac.recorded sampleAnnouncement_new sampleUpdates sampleAuth
    rotatedAuth (.withRotation (ok_of_toOption (Option.some_get _).symm))
    ⟨" mesh-secret\n",by decide,by decide⟩ [.v4 0x7f000001#32]

end MeshPresence.SignatureVerification

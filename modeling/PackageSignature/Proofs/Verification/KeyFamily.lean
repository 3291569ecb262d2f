import PackageSignature.Proofs.Verification.Binding

/-! No key is used under a scheme of the other family. A subject key names the algorithm that it
is for, so its encoding is decoded under one family at most; and the scheme of an algorithm goes
with the family that its key is decoded for. The check of a signature is therefore never handed
a key that it has no use for, whatever decodes the subject keys. -/

namespace PackageSignature

def SignatureScheme.family : SignatureScheme → KeyFamily
  | pkcs1 => .rsa
  | pss _ => .rsa
  | ecdsa => .ec

theorem SignatureAlgorithm.family_scheme (algorithm : SignatureAlgorithm) :
    algorithm.scheme.family = algorithm.family := by
  cases algorithm <;> rfl

def KeyFamily.keyId : KeyFamily → Der.ObjectId
  | rsa => SubjectKey.rsaId
  | ec => SubjectKey.ecId

theorem KeyFamily.keyId_injective {first second : KeyFamily}
    (same : first.keyId = second.keyId) : first = second := by
  have different : SubjectKey.rsaId ≠ SubjectKey.ecId := by decide +kernel
  cases first with
  | rsa =>
      cases second with
      | rsa => rfl
      | ec => exact absurd same different
  | ec =>
      cases second with
      | rsa => exact absurd same.symm different
      | ec => rfl

def PublicKey.family : PublicKey → KeyFamily
  | rsa _ => .rsa
  | ec _ _ => .ec

def KeyFault.isOfSubject : KeyFault → Bool
  | undecodable _ | otherKind _ => false
  | _ => true

theorem KeyFault.head_message_otherKind (algorithm : SignatureAlgorithm) :
    (otherKind algorithm).message.toList.head? = some 'k' := by
  unfold message
  rw [String.toList_append]
  rfl

/-- No text of a fault of a subject key begins like that of a key of another kind. -/
theorem KeyFault.head_message_of_subject {fault : KeyFault} (inner : fault.isOfSubject = true) :
    fault.message.toList.head? ≠ some 'k' := by
  unfold message
  cases fault with
  | undecodable words => cases inner
  | otherKind algorithm => cases inner
  | otherAlgorithm family id => cases family <;> simp [toString]
  | unaligned => simp
  | badPair words => simp [toString]
  | refusedPair error => cases error <;> simp [Rsa.KeyError.message]
  | missingCurve words => simp [toString]
  | otherCurve id => simp [toString]
  | badPoint curve words => simp [toString]

namespace PublicKey

variable {primitives : Primitives} {asked other : KeyFamily} {encoded : Bytes}
  {subject : SubjectKey} {key : PublicKey} {fault : KeyFault}

/-! ### Decoding under a family -/

/-- What a subject key comes to as a key of a family. -/
inductive Reading (subject : SubjectKey) (asked : KeyFamily) : Except KeyFault PublicKey → Prop
  | unnamed (different : subject.algorithm.id ≠ asked.keyId) :
      Reading subject asked (.error (.otherAlgorithm asked subject.algorithm.id))
  | refused {fault : KeyFault} (named : subject.algorithm.id = asked.keyId)
      (inner : fault.isOfSubject = true) : Reading subject asked (.error fault)
  | read {key : PublicKey} (named : subject.algorithm.id = asked.keyId)
      (sameFamily : key.family = asked) : Reading subject asked (.ok key)

theorem reading_ofRsaKey : Reading subject .rsa (ofRsaKey primitives subject) := by
  unfold ofRsaKey
  by_cases named : subject.algorithm.id = SubjectKey.rsaId
  · rw [if_neg (fun different => different named)]
    cases subject.key.whole? with
    | none => exact .refused named rfl
    | some bytes =>
        dsimp only
        cases primitives.rsaPair bytes with
        | error words => exact .refused named rfl
        | ok pair =>
            dsimp only
            cases pair.check with
            | error error => exact .refused named rfl
            | ok checked => exact .read named rfl
  · rw [if_pos named]
    exact .unnamed named

theorem reading_ofEcKey : Reading subject .ec (ofEcKey primitives subject) := by
  unfold ofEcKey
  by_cases named : subject.algorithm.id = SubjectKey.ecId
  · rw [if_neg (fun different => different named)]
    cases subject.algorithm.parameterId? with
    | none => exact .refused named rfl
    | some id =>
        dsimp only
        cases Curve.ofId? id with
        | none => exact .refused named rfl
        | some curve =>
            dsimp only
            cases primitives.point curve subject with
            | error words => exact .refused named rfl
            | ok point => exact .read named rfl
  · rw [if_pos named]
    exact .unnamed named

theorem reading_of_subject (opened : primitives.subjectKey encoded = .ok subject) :
    Reading subject asked (decode primitives asked encoded) := by
  unfold decode
  rw [opened]
  cases asked with
  | rsa => exact reading_ofRsaKey
  | ec => exact reading_ofEcKey

theorem decode_of_no_subject {words : String}
    (undecodable : primitives.subjectKey encoded = .error words) :
    decode primitives asked encoded = .error (.undecodable words) := by
  unfold decode
  rw [undecodable]

theorem exists_subject_of_decode (decoded : decode primitives asked encoded = .ok key) :
    ∃ subject, primitives.subjectKey encoded = .ok subject ∧
      subject.algorithm.id = asked.keyId ∧ key.family = asked := by
  cases opened : primitives.subjectKey encoded with
  | error words =>
      rw [decode_of_no_subject opened] at decoded
      cases decoded
  | ok subject =>
      have reading : Reading subject asked (decode primitives asked encoded) :=
        reading_of_subject opened
      rw [decoded] at reading
      cases reading with
      | read named sameFamily => exact ⟨subject, rfl, named, sameFamily⟩

theorem undecodable_or_isOfSubject (failed : decode primitives asked encoded = .error fault) :
    (∃ words, primitives.subjectKey encoded = .error words ∧ fault = .undecodable words) ∨
      fault.isOfSubject = true := by
  cases opened : primitives.subjectKey encoded with
  | error words =>
      rw [decode_of_no_subject opened] at failed
      exact .inl ⟨words, rfl, (Except.error.inj failed).symm⟩
  | ok subject =>
      have reading : Reading subject asked (decode primitives asked encoded) :=
        reading_of_subject opened
      rw [failed] at reading
      cases reading with
      | unnamed different => exact .inr rfl
      | refused named inner => exact .inr inner

theorem decode_of_other_family (decoded : decode primitives asked encoded = .ok key)
    (different : other ≠ asked) :
    decode primitives other encoded = .error (.otherAlgorithm other asked.keyId) := by
  obtain ⟨subject, opened, named, -⟩ := exists_subject_of_decode decoded
  have unnamed : subject.algorithm.id ≠ other.keyId := by
    intro same
    rw [named] at same
    exact different (KeyFamily.keyId_injective same).symm
  have reading : Reading subject other (decode primitives other encoded) :=
    reading_of_subject opened
  generalize decode primitives other encoded = outcome at reading ⊢
  cases reading with
  | unnamed different => rw [named]
  | refused named inner => exact absurd named unnamed
  | read named sameFamily => exact absurd named unnamed

end PublicKey

namespace Verification

variable {primitives : Primitives} {signer : SigningInfo} {data : Bytes}
  {algorithm : SignatureAlgorithm} {key : PublicKey} {family : KeyFamily} {fault : KeyFault}

/-! ### What is said of a key -/

theorem checkSignature_ne_invalidPublicKey {message signature : Bytes}
    (sameFamily : key.family = algorithm.family) :
    checkSignature primitives algorithm key message signature ≠
      .error (.invalidPublicKey family fault) := by
  have accept (holds : Bool) :
      (if holds then .ok () else .error (.signatureMismatch algorithm)) ≠
        (.error (.invalidPublicKey family fault) : Except VerifyError Unit) := by
    cases holds with
    | true => exact fun impossible => by cases impossible
    | false => exact fun impossible => by cases impossible
  rw [← SignatureAlgorithm.family_scheme] at sameFamily
  unfold checkSignature
  cases key with
  | rsa pair =>
      cases applied : algorithm.scheme with
      | pkcs1 => exact accept _
      | pss saltLength => exact accept _
      | ecdsa =>
          rw [applied] at sameFamily
          cases sameFamily
  | ec curve point =>
      cases applied : algorithm.scheme with
      | pkcs1 =>
          rw [applied] at sameFamily
          cases sameFamily
      | pss saltLength =>
          rw [applied] at sameFamily
          cases sameFamily
      | ecdsa =>
          dsimp only
          cases primitives.ecdsa curve point (algorithm.digest.hash message) signature with
          | error words => exact fun impossible => by cases impossible
          | ok holds => exact accept holds

theorem result_of_refused_key
    (resolved : SignatureAlgorithm.ofId? signer.signatureAlgorithmId = some algorithm)
    (refused : PublicKey.decode primitives algorithm.family signer.publicKey = .error fault) :
    (checkSigner primitives signer data).result =
      .error (.invalidPublicKey algorithm.family fault) := by
  rw [result_checkSigner, resolveAlgorithm, resolved, ok_bind, decodeKey, refused]
  rfl

theorem result_of_key
    (resolved : SignatureAlgorithm.ofId? signer.signatureAlgorithmId = some algorithm)
    (decoded : PublicKey.decode primitives algorithm.family signer.publicKey = .ok key) :
    (checkSigner primitives signer data).result = (do
      checkSignature primitives algorithm key data signer.signature
      let certificate ← decodeCertificate primitives signer.certificate
      if certificate.subjectKey = signer.publicKey then
        .ok certificate
      else
        .error .publicKeyMismatch) := by
  rw [result_checkSigner, resolveAlgorithm, resolved, ok_bind, decodeKey, decoded, ok_mapError,
    ok_bind]

theorem result_ne_invalidPublicKey_of_key
    (resolved : SignatureAlgorithm.ofId? signer.signatureAlgorithmId = some algorithm)
    (decoded : PublicKey.decode primitives algorithm.family signer.publicKey = .ok key) :
    (checkSigner primitives signer data).result ≠ .error (.invalidPublicKey family fault) := by
  obtain ⟨-, -, -, sameFamily⟩ := PublicKey.exists_subject_of_decode decoded
  intro reported
  rw [result_of_key resolved decoded] at reported
  cases checked : checkSignature primitives algorithm key data signer.signature with
  | error found =>
      rw [checked] at reported
      cases reported
      exact checkSignature_ne_invalidPublicKey sameFamily checked
  | ok accepted =>
      rw [checked, ok_bind, decodeCertificate] at reported
      cases certified : primitives.certificate signer.certificate with
      | error words =>
          rw [certified] at reported
          cases reported
      | ok certificate =>
          rw [certified, ok_mapError, ok_bind] at reported
          split at reported
          · cases reported
          · cases reported

theorem checkSigner_eq_invalidPublicKey_iff :
    (checkSigner primitives signer data).result = .error (.invalidPublicKey family fault) ↔
      ∃ algorithm, SignatureAlgorithm.ofId? signer.signatureAlgorithmId = some algorithm ∧
        algorithm.family = family ∧
        PublicKey.decode primitives family signer.publicKey = .error fault := by
  constructor
  · intro reported
    cases resolved : SignatureAlgorithm.ofId? signer.signatureAlgorithmId with
    | none =>
        rw [result_checkSigner, resolveAlgorithm, resolved] at reported
        cases reported
    | some algorithm =>
        cases decoded : PublicKey.decode primitives algorithm.family signer.publicKey with
        | error found =>
            rw [result_of_refused_key resolved decoded] at reported
            cases reported
            exact ⟨algorithm, rfl, rfl, decoded⟩
        | ok key => exact absurd reported (result_ne_invalidPublicKey_of_key resolved decoded)
  · rintro ⟨algorithm, resolved, rfl, refused⟩
    exact result_of_refused_key resolved refused

theorem exists_key_of_accepted {certificate : Certificate}
    (accepted : (checkSigner primitives signer data).result = .ok certificate)
    (resolved : SignatureAlgorithm.ofId? signer.signatureAlgorithmId = some algorithm) :
    ∃ key, PublicKey.decode primitives algorithm.family signer.publicKey = .ok key := by
  cases decoded : PublicKey.decode primitives algorithm.family signer.publicKey with
  | error found =>
      rw [result_of_refused_key resolved decoded] at accepted
      cases accepted
  | ok key => exact ⟨key, rfl⟩

/-- Keys and schemes of different families never meet. A signer that is accepted is refused under
every algorithm of the other family, whatever is signed and whatever the signature; no encoding is
a key of both families; and no check of a signer ends in a key that does not match its algorithm.
The words for that are only heard if the decoder of subject keys uses them itself. -/
theorem families_never_confused (primitives : Primitives) :
    (∀ (signer : SigningInfo) (data : Bytes) (certificate : Certificate)
        (own other : SignatureAlgorithm) (id : UInt32),
      (checkSigner primitives signer data).result = .ok certificate →
      SignatureAlgorithm.ofId? signer.signatureAlgorithmId = some own →
      SignatureAlgorithm.ofId? id = some other →
      other.family ≠ own.family →
      ∀ data' signature' : Bytes,
        (checkSigner primitives
            { signer with signatureAlgorithmId := id, signature := signature' } data').result =
          .error (.invalidPublicKey other.family
            (.otherAlgorithm other.family own.family.keyId))) ∧
    (∀ (encoded : Bytes) (key : PublicKey),
      PublicKey.decode primitives .rsa encoded = .ok key →
      ∀ key' : PublicKey, PublicKey.decode primitives .ec encoded ≠ .ok key') ∧
    ∀ (signer : SigningInfo) (data : Bytes) (family : KeyFamily) (fault : KeyFault),
      (checkSigner primitives signer data).result = .error (.invalidPublicKey family fault) →
      ∀ algorithm : SignatureAlgorithm,
        fault ≠ .otherKind algorithm ∧
        (fault.message = (KeyFault.otherKind algorithm).message →
          primitives.subjectKey signer.publicKey =
            .error (KeyFault.otherKind algorithm).message) := by
  refine ⟨?_, ?_, ?_⟩
  · intro signer data certificate own other id accepted ownId otherId different data' signature'
    obtain ⟨key, decoded⟩ := exists_key_of_accepted accepted ownId
    apply result_of_refused_key otherId
    exact PublicKey.decode_of_other_family decoded different
  · intro encoded key asRsa key' asEc
    have refused : PublicKey.decode primitives .ec encoded =
        .error (.otherAlgorithm .ec KeyFamily.rsa.keyId) :=
      PublicKey.decode_of_other_family asRsa (by decide)
    rw [asEc] at refused
    cases refused
  · intro signer data family fault reported algorithm
    obtain ⟨-, -, -, failed⟩ := checkSigner_eq_invalidPublicKey_iff.mp reported
    obtain ⟨words, opened, rfl⟩ | inner := PublicKey.undecodable_or_isOfSubject failed
    · refine ⟨KeyFault.noConfusion, ?_⟩
      intro said
      rw [opened, ← said]
      rfl
    · constructor
      · intro same
        rw [same] at inner
        cases inner
      · intro said
        have begins := KeyFault.head_message_otherKind algorithm
        rw [← said] at begins
        exact absurd begins (KeyFault.head_message_of_subject inner)

theorem checkSigner_sampleSigner :
    (checkSigner samplePrimitives SignerList.sampleSigner sampleMessage).result =
      .ok sampleCertificate := by
  have resolved : SignatureAlgorithm.ofId? SignerList.sampleSigner.signatureAlgorithmId =
      some .rsaPkcs1Sha256 := SignatureAlgorithm.ofId?_id .rsaPkcs1Sha256
  rw [result_of_key resolved decode_sampleKey, checkSignature_sampleMessage]
  rfl

theorem families_never_confused_sample :
    (checkSigner samplePrimitives SignerList.sampleSigner sampleMessage).result =
        .ok sampleCertificate ∧
      (checkSigner samplePrimitives
          { SignerList.sampleSigner with signatureAlgorithmId := 0x0201, signature := [1] }
          []).result = .error (.invalidPublicKey .ec (.otherAlgorithm .ec SubjectKey.rsaId)) ∧
      (∀ key, PublicKey.decode samplePrimitives .ec SignerList.sampleSigner.publicKey ≠
        .ok key) ∧
      KeyFault.otherAlgorithm .ec SubjectKey.rsaId ≠ .otherKind .ecdsaSha256 := by
  obtain ⟨refusedUnderOther, oneFamily, neverMismatched⟩ :=
    families_never_confused samplePrimitives
  have refused := refusedUnderOther SignerList.sampleSigner sampleMessage sampleCertificate
    .rsaPkcs1Sha256 .ecdsaSha256 0x0201 checkSigner_sampleSigner (by rfl) (by rfl) (by decide)
    [] [1]
  exact ⟨checkSigner_sampleSigner, refused,
    oneFamily SignerList.sampleSigner.publicKey (.rsa sampleKey) decode_sampleKey,
    (neverMismatched _ _ _ _ refused .ecdsaSha256).1⟩

end Verification

end PackageSignature

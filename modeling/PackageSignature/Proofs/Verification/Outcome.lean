import PackageSignature.Proofs.Verification.Checks

/-! The course of a verification, from check to check. Behind passed checks the rest of
the run is written out on the records they handed on, so the first check that does not
hold decides the failure. Every verification either stops at such a check or passes them
all, and then yields what its records say. -/

namespace PackageSignature

namespace Verification

variable {primitives : Primitives} {request : Request} {records : Records}

theorem Passed.mono {place earlier : Nat} (passed : Passed primitives request records place)
    (sooner : earlier ≤ place) : Passed primitives request records earlier :=
  fun check within => passed check (Nat.lt_of_lt_of_le within sooner)

theorem outcome_of_envelope (passed : Passed primitives request records Check.hashingRecord.rank) :
    request.outcome primitives = (do
      let hashing ← records.envelope.decodeHashingInfo.mapError .decode
      let signers ← records.envelope.decodeSigners.mapError .decode
      let signer ← chooseSigner signers request.choice
      let data ← signedData request.fileSize hashing signer
      let certificate ← (checkSigner primitives signer data).result
      vouch certificate signer hashing) := by
  have opens := passed .signersLength (by decide)
  rw [Request.outcome, verify_of_opens opens, verifyDecoded_of_supported opens.supported]

theorem outcome_of_records (passed : Passed primitives request records Check.selection.rank) :
    request.outcome primitives = (do
      let signer ← chooseSigner records.signers request.choice
      let data ← signedData request.fileSize records.hashing signer
      let certificate ← (checkSigner primitives signer data).result
      vouch certificate signer records.hashing) := by
  have hashing : HashingInfo.decode records.envelope.hashingInfo = .ok records.hashing :=
    passed .hashingRecord (by decide)
  have signers : SignerList.decode records.envelope.signingInfos = .ok records.signers :=
    passed .signerRecords (by decide)
  rw [outcome_of_envelope (passed.mono (by decide)), Envelope.decodeHashingInfo, hashing,
    Envelope.decodeSigners, signers]
  simp only [ok_mapError, ok_bind]

theorem Passed.selects (passed : Passed primitives request records Check.dataSize.rank) :
    request.Selects records.hashing records.signer :=
  ⟨records.envelope, records.signers,
    Envelope.decode_eq_ok_iff.mpr (passed .signersLength (by decide)),
    passed .hashingRecord (by decide), passed .signerRecords (by decide),
    chooseSigner_eq_ok_iff.mpr (passed .selection (by decide))⟩

theorem outcome_of_data (passed : Passed primitives request records Check.algorithm.rank) :
    request.outcome primitives = (do
      let certificate ← (checkSigner primitives records.signer records.data).result
      vouch certificate records.signer records.hashing) := by
  have selects := (passed.mono (by decide)).selects
  have rebuilt := signedData_eq_ok_iff.mpr (passed .dataSize (by decide))
  rw [outcome_of_selects selects, rebuilt, ok_bind]

theorem outcome_of_key (passed : Passed primitives request records Check.signature.rank) :
    request.outcome primitives = (do
      checkSignature primitives records.algorithm records.key records.data
        records.signer.signature
      let certificate ← decodeCertificate primitives records.signer.certificate
      if certificate.subjectKey = records.signer.publicKey then
        vouch certificate records.signer records.hashing
      else
        .error .publicKeyMismatch) := by
  have resolved := resolveAlgorithm_eq_ok_iff.mpr (passed .algorithm (by decide))
  have keyDecoded := decodeKey_eq_ok_iff.mpr (passed .key (by decide))
  rw [outcome_of_data (passed.mono (by decide)), result_checkSigner, resolved, ok_bind,
    keyDecoded, ok_bind]
  cases checkSignature primitives records.algorithm records.key records.data
      records.signer.signature with
  | error error => rfl
  | ok accepted =>
      cases decodeCertificate primitives records.signer.certificate with
      | error error => rfl
      | ok certificate =>
          by_cases same : certificate.subjectKey = records.signer.publicKey
          · simp only [ok_bind, if_pos same]
          · simp only [ok_bind, if_neg same, error_bind]

theorem outcome_of_certificate (passed : Passed primitives request records Check.keyMatch.rank) :
    request.outcome primitives =
      if records.certificate.subjectKey = records.signer.publicKey then
        vouch records.certificate records.signer records.hashing
      else
        .error .publicKeyMismatch := by
  have accepted : checkSignature primitives records.algorithm records.key records.data
      records.signer.signature = .ok () := passed .signature (by decide)
  have decoded := decodeCertificate_eq_ok_iff.mpr (passed .certificate (by decide))
  rw [outcome_of_key (passed.mono (by decide)), accepted, ok_bind, decoded, ok_bind]

theorem drop_version {bytes rest : Bytes} {version : UInt32}
    (split : bytes = Encoding.u32 version ++ rest) : bytes.drop 4 = rest := by
  rw [split]
  exact List.drop_left' (Encoding.length_u32 version)

theorem drop_hashingInfo {bytes rest hashingInfo : Bytes} {version : UInt32}
    (split : bytes = Encoding.u32 version ++ Encoding.prefixed hashingInfo ++ rest) :
    bytes.drop (8 + hashingInfo.length) = rest := by
  rw [split]
  apply List.drop_left'
  rw [List.length_append, Encoding.length_u32, Encoding.length_prefixed]
  omega

theorem outcome_of_refused_length {version : UInt32} {rest : Bytes} {fault : DecodeError}
    (split : request.bytes = Encoding.u32 version ++ rest)
    (supported : version ∈ Envelope.supportedVersions)
    (refused : (Reader.runFrom (Envelope.readNested version request.maxSize)
      ((Cursor.start request.bytes).advance 4)).1 = .error fault) :
    request.outcome primitives = .error (.decode fault) := by
  rw [Request.outcome, verify_of_nonempty (nonempty_of_version split), decodeEnvelope,
    Envelope.decode_of_version split, if_pos supported, refused]
  rfl

/-! ### The failure of a check -/

theorem outcome_of_failure {check : Check} {error : VerifyError}
    (passed : Passed primitives request records check.rank)
    (failed : failure primitives (look request records check) = some error) :
    request.outcome primitives = .error error := by
  cases check with
  | presence =>
      cases empty : request.bytes with
      | nil =>
          rw [look, empty] at failed
          cases failed
          rw [Request.outcome, empty, verify_of_empty]
      | cons byte others =>
          rw [look, empty] at failed
          cases failed
  | versionField =>
      have nonempty : request.bytes ≠ [] := passed .presence (by decide)
      have taken : (request.bytes.take 4).length = min 4 request.bytes.length :=
        List.length_take
      obtain ⟨few, reported⟩ := Option.ite_none_right_eq_some.mp failed
      cases reported
      have short : request.bytes.length < 4 := by omega
      have whole : (request.bytes.take 4).length = request.bytes.length := by omega
      rw [Request.outcome, verify_of_nonempty nonempty, decodeEnvelope,
        Envelope.decode_of_short short, whole]
      rfl
  | version =>
      have nonempty : request.bytes ≠ [] := passed .presence (by decide)
      obtain ⟨rest, split⟩ := passed .versionField (by decide)
      obtain ⟨unsupported, reported⟩ := Option.ite_none_left_eq_some.mp failed
      cases reported
      rw [Request.outcome, verify_of_nonempty nonempty, decodeEnvelope,
        Envelope.decode_of_version split, if_neg unsupported]
      rfl
  | hashingLength =>
      obtain ⟨rest, split⟩ := passed .versionField (by decide)
      obtain ⟨fault, refused, rfl⟩ := Option.map_eq_some_iff.mp failed
      apply outcome_of_refused_length split (passed .version (by decide))
      rw [Envelope.readNested_eq_error_iff]
      exact .inl refused
  | signersLength =>
      obtain ⟨fits, within, rest, split⟩ := passed .hashingLength (by decide)
      obtain ⟨fault, refused, rfl⟩ := Option.map_eq_some_iff.mp failed
      rw [drop_hashingInfo split] at refused
      rw [List.append_assoc] at split
      apply outcome_of_refused_length split (passed .version (by decide))
      rw [Envelope.readNested_eq_error_iff, Envelope.rest_behind_version split]
      exact .inr ⟨_, rest, fits, within, rfl, refused⟩
  | hashingRecord =>
      obtain ⟨fault, refused, rfl⟩ := Option.map_eq_some_iff.mp failed
      rw [errorOf_eq_some_iff] at refused
      rw [outcome_of_envelope passed, Envelope.decodeHashingInfo, refused]
      rfl
  | signerRecords =>
      obtain ⟨fault, refused, rfl⟩ := Option.map_eq_some_iff.mp failed
      rw [errorOf_eq_some_iff] at refused
      have hashing : HashingInfo.decode records.envelope.hashingInfo = .ok records.hashing :=
        passed .hashingRecord (by decide)
      rw [outcome_of_envelope (passed.mono (by decide)), Envelope.decodeHashingInfo, hashing,
        Envelope.decodeSigners, refused]
      rfl
  | selection =>
      rw [look, ← errorOf_chooseSigner, errorOf_eq_some_iff] at failed
      rw [outcome_of_records passed, failed, error_bind]
  | dataSize =>
      have chosen := chooseSigner_eq_ok_iff.mpr (passed .selection (by decide))
      rw [look, ← errorOf_signedData request.fileSize, errorOf_eq_some_iff] at failed
      rw [outcome_of_records (passed.mono (by decide)), chosen, ok_bind, failed, error_bind]
  | algorithm =>
      rw [look, ← errorOf_resolveAlgorithm, errorOf_eq_some_iff] at failed
      rw [outcome_of_data passed, result_checkSigner, failed]
      rfl
  | key =>
      have resolved := resolveAlgorithm_eq_ok_iff.mpr (passed .algorithm (by decide))
      rw [look, failure, ← errorOf_mapError, errorOf_eq_some_iff] at failed
      rw [outcome_of_data (passed.mono (by decide)), result_checkSigner, resolved, ok_bind,
        decodeKey, failed]
      rfl
  | signature =>
      rw [look, failure, errorOf_eq_some_iff] at failed
      rw [outcome_of_key passed, failed, error_bind]
  | certificate =>
      have accepted : checkSignature primitives records.algorithm records.key records.data
          records.signer.signature = .ok () := passed .signature (by decide)
      rw [look, failure, ← errorOf_mapError, errorOf_eq_some_iff] at failed
      rw [outcome_of_key (passed.mono (by decide)), accepted, ok_bind, decodeCertificate, failed,
        error_bind]
  | keyMatch =>
      obtain ⟨different, reported⟩ := Option.ite_none_left_eq_some.mp failed
      cases reported
      rw [outcome_of_certificate passed, if_neg different]
  | hashAlgorithm =>
      have same : records.certificate.subjectKey = records.signer.publicKey :=
        passed .keyMatch (by decide)
      rw [look, ← errorOf_vouch records.certificate records.signer, errorOf_eq_some_iff] at failed
      rw [outcome_of_certificate (passed.mono (by decide)), if_pos same, failed]

theorem passed_of_opens (opens : records.envelope.Opens request.bytes request.maxSize) :
    Passed primitives request records Check.hashingRecord.rank := by
  obtain ⟨tail, split⟩ := opens.atHead
  rw [Envelope.toBytes, List.append_assoc] at split
  intro check within
  cases check with
  | presence => exact nonempty_of_opens opens
  | versionField =>
      rw [List.append_assoc] at split
      exact ⟨_, split.symm⟩
  | version => exact opens.supported
  | hashingLength =>
      exact ⟨opens.hashingFits, Nat.le_trans (Nat.le_add_right _ _) opens.withinBudget,
        _, split.symm⟩
  | signersLength => exact opens
  | _ => contradiction

theorem passed_iff :
    Passed primitives request records Check.order.length ↔
      records.envelope.Opens request.bytes request.maxSize ∧
      HashingInfo.decode records.envelope.hashingInfo = .ok records.hashing ∧
      SignerList.decode records.envelope.signingInfos = .ok records.signers ∧
      records.signers.Means request.choice records.signer ∧
      SignedData.encode? request.fileSize records.hashing records.signer = some records.data ∧
      (records.algorithm ∈ SignatureAlgorithm.all ∧
        records.algorithm.id = records.signer.signatureAlgorithmId) ∧
      PublicKey.decode primitives records.algorithm.family records.signer.publicKey =
        .ok records.key ∧
      checkSignature primitives records.algorithm records.key records.data
        records.signer.signature = .ok () ∧
      primitives.certificate records.signer.certificate = .ok records.certificate ∧
      records.certificate.subjectKey = records.signer.publicKey ∧
      records.hashing.hashAlgorithm = HashingInfo.sha256 := by
  constructor
  · intro passed
    have holds (check : Check) := passed check check.rank_lt
    exact ⟨holds .signersLength, holds .hashingRecord, holds .signerRecords, holds .selection,
      holds .dataSize, holds .algorithm, holds .key, holds .signature, holds .certificate,
      holds .keyMatch, holds .hashAlgorithm⟩
  · rintro ⟨opens, hashed, listed, meant, rebuilt, resolved, keyDecoded, accepted, certified,
      sameKey, known⟩
    have opened : Passed primitives request records Check.hashingRecord.rank :=
      passed_of_opens opens
    intro check _
    cases check with
    | presence => exact opened .presence (by decide)
    | versionField => exact opened .versionField (by decide)
    | version => exact opened .version (by decide)
    | hashingLength => exact opened .hashingLength (by decide)
    | signersLength => exact opens
    | hashingRecord => exact hashed
    | signerRecords => exact listed
    | selection => exact meant
    | dataSize => exact rebuilt
    | algorithm => exact resolved
    | key => exact keyDecoded
    | signature => exact accepted
    | certificate => exact certified
    | keyMatch => exact sameKey
    | hashAlgorithm => exact known

def Records.verified (records : Records) : VerifiedSigner where
  certificates := [records.certificate]
  apkDigest := records.signer.apkDigest
  contentDigests := [(.verityChunkedSha256, records.hashing.rootHash)]

theorem outcome_of_passed (passed : Passed primitives request records Check.order.length) :
    request.outcome primitives = .ok records.verified := by
  have same : records.certificate.subjectKey = records.signer.publicKey :=
    passed .keyMatch (by decide)
  have known : records.hashing.hashAlgorithm = HashingInfo.sha256 :=
    passed .hashAlgorithm (by decide)
  rw [outcome_of_certificate (passed.mono (by decide)), if_pos same, vouch,
    ContentDigest.ofHashAlgorithm, if_pos known]
  rfl

/-! ### Passing on -/

def Records.replace (records further : Records) : Check → Records
  | .versionField =>
      { records with
        envelope := { records.envelope with version := further.envelope.version } }
  | .hashingLength =>
      { records with
        envelope := { records.envelope with hashingInfo := further.envelope.hashingInfo } }
  | .signersLength =>
      { records with
        envelope := { records.envelope with signingInfos := further.envelope.signingInfos } }
  | .hashingRecord => { records with hashing := further.hashing }
  | .signerRecords => { records with signers := further.signers }
  | .selection => { records with signer := further.signer }
  | .dataSize => { records with data := further.data }
  | .algorithm => { records with algorithm := further.algorithm }
  | .key => { records with key := further.key }
  | .certificate => { records with certificate := further.certificate }
  | .presence | .version | .signature | .keyMatch | .hashAlgorithm => records

/-- No check sees the record of a check behind it. -/
theorem holds_replace {check earlier : Check} (further : Records)
    (sooner : earlier.rank < check.rank) (held : Holds primitives request records earlier) :
    Holds primitives request (records.replace further check) earlier := by
  -- An earlier check reads only fields that are kept; any other pair contradicts the order.
  cases check <;> cases earlier <;> first | exact held | contradiction

theorem Passed.extend {check : Check} (passed : Passed primitives request records check.rank)
    (further : Records)
    (holds : Holds primitives request (records.replace further check) check) :
    Passed primitives request (records.replace further check) (check.rank + 1) := by
  intro other within
  by_cases same : other = check
  · rw [same]
    exact holds
  · have sooner : other.rank < check.rank := by
      have different : other.rank ≠ check.rank := fun equal => same (Check.rank_injective equal)
      omega
    exact holds_replace further sooner (passed other sooner)

theorem Passed.withAlgorithm {algorithm : SignatureAlgorithm}
    (passed : Passed primitives request records Check.algorithm.rank)
    (resolved : algorithm ∈ SignatureAlgorithm.all ∧
      algorithm.id = records.signer.signatureAlgorithmId) :
    Passed primitives request { records with algorithm } Check.key.rank :=
  passed.extend { records with algorithm } resolved

theorem Passed.withKey {key : PublicKey}
    (passed : Passed primitives request records Check.key.rank)
    (decoded : PublicKey.decode primitives records.algorithm.family records.signer.publicKey =
      .ok key) :
    Passed primitives request { records with key } Check.signature.rank :=
  passed.extend { records with key } decoded

theorem Passed.next {check : Check} (passed : Passed primitives request records check.rank)
    (sound : failure primitives (look request records check) = none) :
    ∃ further, Passed primitives request further (check.rank + 1) := by
  cases check with
  | presence =>
      refine ⟨_, passed.extend records ?_⟩
      intro empty
      rw [look, empty] at sound
      cases sound
  | versionField =>
      have enough : ¬ request.bytes.length < 4 := by
        intro short
        have taken : (request.bytes.take 4).length = min 4 request.bytes.length :=
          List.length_take
        rw [look, failure, if_pos (by omega)] at sound
        cases sound
      obtain ⟨version, rest, split⟩ := Envelope.exists_version enough
      exact ⟨_, passed.extend
        { records with envelope := { records.envelope with version } } ⟨rest, split⟩⟩
  | version => exact ⟨_, passed.extend records (of_ite_eq_none sound)⟩
  | hashingLength =>
      obtain ⟨rest, split⟩ := passed .versionField (by decide)
      have readable := Option.map_eq_none_iff.mp sound
      rw [drop_version split] at readable
      obtain ⟨hashingInfo, behind, fits, within, rfl⟩ :=
        Reader.lengthFault_eq_none_iff.mp readable
      rw [← List.append_assoc] at split
      exact ⟨_, passed.extend
        { records with envelope := { records.envelope with hashingInfo } }
        ⟨fits, within, behind, split⟩⟩
  | signersLength =>
      obtain ⟨hashingFits, hashingWithin, rest, split⟩ := passed .hashingLength (by decide)
      have readable := Option.map_eq_none_iff.mp sound
      rw [drop_hashingInfo split] at readable
      obtain ⟨signingInfos, behind, signersFit, signersWithin, rfl⟩ :=
        Reader.lengthFault_eq_none_iff.mp readable
      have opens : Envelope.Opens { records.envelope with signingInfos } request.bytes
          request.maxSize := by
        refine ⟨passed .version (by decide), hashingFits, signersFit, ?_, behind, ?_⟩
        · simp only
          omega
        · rw [split, Envelope.toBytes, List.append_assoc _ _ behind]
      exact ⟨_, passed.extend
        { records with envelope := { records.envelope with signingInfos } } opens⟩
  | hashingRecord =>
      obtain ⟨hashing, decoded⟩ := errorOf_eq_none_iff.mp (Option.map_eq_none_iff.mp sound)
      exact ⟨_, passed.extend { records with hashing } decoded⟩
  | signerRecords =>
      obtain ⟨signers, decoded⟩ := errorOf_eq_none_iff.mp (Option.map_eq_none_iff.mp sound)
      exact ⟨_, passed.extend { records with signers } decoded⟩
  | selection =>
      rw [look, ← errorOf_chooseSigner, errorOf_eq_none_iff] at sound
      obtain ⟨signer, chosen⟩ := sound
      exact ⟨_, passed.extend { records with signer } (chooseSigner_eq_ok_iff.mp chosen)⟩
  | dataSize =>
      rw [look, ← errorOf_signedData request.fileSize, errorOf_eq_none_iff] at sound
      obtain ⟨data, rebuilt⟩ := sound
      exact ⟨_, passed.extend { records with data } (signedData_eq_ok_iff.mp rebuilt)⟩
  | algorithm =>
      rw [look, ← errorOf_resolveAlgorithm, errorOf_eq_none_iff] at sound
      obtain ⟨algorithm, resolved⟩ := sound
      exact ⟨_, passed.withAlgorithm (resolveAlgorithm_eq_ok_iff.mp resolved)⟩
  | key =>
      obtain ⟨key, decoded⟩ := errorOf_eq_none_iff.mp (Option.map_eq_none_iff.mp sound)
      exact ⟨_, passed.withKey decoded⟩
  | signature =>
      obtain ⟨accepted, holds⟩ := errorOf_eq_none_iff.mp sound
      exact ⟨_, passed.extend records holds⟩
  | certificate =>
      obtain ⟨certificate, decoded⟩ := errorOf_eq_none_iff.mp (Option.map_eq_none_iff.mp sound)
      exact ⟨_, passed.extend { records with certificate } decoded⟩
  | keyMatch => exact ⟨_, passed.extend records (of_ite_eq_none sound)⟩
  | hashAlgorithm => exact ⟨_, passed.extend records (of_ite_eq_none sound)⟩

/-! ### The whole run -/

def Records.blank : Records where
  envelope := { version := 0, hashingInfo := [], signingInfos := [] }
  hashing := { hashAlgorithm := 0, log2BlockSize := 0, salt := [], rootHash := [] }
  signers := { defaultSigner := [], blocks := [] }
  signer :=
    { apkDigest := [], certificate := [], additionalData := [], publicKey := [],
      signatureAlgorithmId := 0, signature := [] }
  data := []
  algorithm := .ecdsaSha256
  key := .rsa { modulus := 0, exponent := 0 }
  certificate :=
    { encoded := [], serial := [], issuer := { parts := [] }, subject := { parts := [] },
      subjectKey := [] }

/-- The check is the first one that does not hold, and this is what it reports. -/
def FailsAt (primitives : Primitives) (request : Request) (check : Check) (error : VerifyError) :
    Prop :=
  ∃ records, Passed primitives request records check.rank ∧
    failure primitives (look request records check) = some error

theorem fails_or_passed (primitives : Primitives) (request : Request) {place : Nat}
    (within : place ≤ Check.order.length) :
    (∃ check error, FailsAt primitives request check error) ∨
      ∃ records, Passed primitives request records place := by
  -- One more check is made in each step; its records are those of the step before and its own.
  induction place with
  | zero => exact .inr ⟨Records.blank, fun _ impossible => (Nat.not_lt_zero _ impossible).elim⟩
  | succ place ih =>
      rcases ih (Nat.le_of_succ_le within) with failed | ⟨records, passed⟩
      · exact .inl failed
      · obtain ⟨check, rfl⟩ := Check.exists_rank within
        cases verdict : failure primitives (look request records check) with
        | some error => exact .inl ⟨check, error, records, passed, verdict⟩
        | none => exact .inr (passed.next verdict)

theorem outcome_of_failsAt {check : Check} {error : VerifyError}
    (fails : FailsAt primitives request check error) :
    request.outcome primitives = .error error := by
  obtain ⟨records, passed, failed⟩ := fails
  exact outcome_of_failure passed failed

theorem outcome_eq_error_iff {error : VerifyError} :
    request.outcome primitives = .error error ↔
      ∃ check, FailsAt primitives request check error := by
  constructor
  · intro failed
    rcases fails_or_passed primitives request (Nat.le_refl _) with
      ⟨check, other, fails⟩ | ⟨records, passed⟩
    · rw [outcome_of_failsAt fails] at failed
      cases failed
      exact ⟨check, fails⟩
    · rw [outcome_of_passed passed] at failed
      cases failed
  · rintro ⟨check, fails⟩
    exact outcome_of_failsAt fails

theorem outcome_eq_ok_iff {verified : VerifiedSigner} :
    request.outcome primitives = .ok verified ↔
      ∃ records, Passed primitives request records Check.order.length ∧
        verified = records.verified := by
  constructor
  · intro accepted
    rcases fails_or_passed primitives request (Nat.le_refl _) with
      ⟨check, other, fails⟩ | ⟨records, passed⟩
    · rw [outcome_of_failsAt fails] at accepted
      cases accepted
    · rw [outcome_of_passed passed] at accepted
      cases accepted
      exact ⟨records, passed, rfl⟩
  · rintro ⟨records, passed, rfl⟩
    exact outcome_of_passed passed

def sampleHashing : HashingInfo where
  hashAlgorithm := HashingInfo.sha256
  log2BlockSize := HashingInfo.log2BlockSize4096
  salt := []
  rootHash := [0x5a, 0x5b]

def sampleSigners (signer : SigningInfo) : SignerList :=
  (SignerList.ofDefault signer).addBlock 5 signer

def sampleEnvelope (signer : SigningInfo) : Envelope where
  version := 2
  hashingInfo := sampleHashing.toBytes
  signingInfos := (sampleSigners signer).toBytes

def sampleRequest (signer : SigningInfo) (choice : SignerChoice) (tail : Bytes) : Request where
  fileSize := 7
  bytes := (sampleEnvelope signer).toBytes ++ tail
  choice := choice
  maxSize := Envelope.defaultMaxSize

theorem sampleEnvelope_opens {signer : SigningInfo} (tail : Bytes)
    (short : (sampleSigners signer).toBytes.length ≤ 4096) :
    (sampleEnvelope signer).Opens ((sampleEnvelope signer).toBytes ++ tail)
      Envelope.defaultMaxSize where
  supported := Envelope.mem_supportedVersions_iff.mpr rfl
  hashingFits := (by decide : Encoding.Fits sampleHashing.toBytes)
  signersFit := Nat.le_trans short (by decide)
  withinBudget := Nat.le_trans (Nat.add_le_add_left short sampleHashing.toBytes.length) (by decide)
  atHead := List.prefix_append _ _

theorem decode_sampleHashing : HashingInfo.decode sampleHashing.toBytes = .ok sampleHashing :=
  HashingInfo.exact_read.decode_eq_ok.mpr ⟨⟨by decide, by decide⟩, List.prefix_rfl⟩

theorem decode_sampleSigners {signer : SigningInfo} (fits : signer.Fits)
    (short : (sampleSigners signer).toBytes.length ≤ 4096) :
    SignerList.decode (sampleSigners signer).toBytes = .ok (sampleSigners signer) := by
  have bodyFits : Encoding.Fits signer.toBytes := by
    rw [SignerList.toBytes, List.length_append] at short
    exact Nat.le_trans (Nat.le_trans (Nat.le_add_right _ _) short) (by decide)
  have encodable : ((SignerList.ofDefault signer).add (.signer 5 signer)).Encodable :=
    SignerList.add_encodable (SignerList.ofDefault_encodable fits) bodyFits
  exact SignerList.decode_eq_ok_iff.mpr ⟨encodable, rfl⟩

theorem sampleSigners_means {signer : SigningInfo} (fits : signer.Fits) {choice : SignerChoice}
    (either : choice = .default ∨ choice = .block 5) :
    (sampleSigners signer).Means choice signer := by
  have decoded : SigningInfo.decode signer.toBytes = .ok signer :=
    SigningInfo.exact_read.decode_eq_ok.mpr ⟨fits, List.prefix_rfl⟩
  rcases either with rfl | rfl
  · exact decoded
  · exact ⟨[], _, [], rfl, fun _ member => (List.not_mem_nil member).elim, rfl, decoded⟩

theorem sampleRequest_selects {signer : SigningInfo} (fits : signer.Fits)
    (short : (sampleSigners signer).toBytes.length ≤ 4096) {choice : SignerChoice}
    (either : choice = .default ∨ choice = .block 5) (tail : Bytes) :
    (sampleRequest signer choice tail).Selects sampleHashing signer :=
  ⟨sampleEnvelope signer, sampleSigners signer,
    Envelope.decode_eq_ok_iff.mpr (sampleEnvelope_opens tail short), decode_sampleHashing,
    decode_sampleSigners fits short, chooseSigner_eq_ok_iff.mpr (sampleSigners_means fits either)⟩

end Verification

end PackageSignature

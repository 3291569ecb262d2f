import PackageSignature.Proofs.Record.SignedData
import PackageSignature.Proofs.Verification.Outcome

/-! The order of failures. A verification that fails has one failing check: every check in
front of it is passed, and the failure follows from what this one check looks at. So no
failure depends on what only later checks would have looked at. -/

namespace PackageSignature

namespace Verification

variable {primitives : Primitives} {request : Request} {records records' : Records}
  {place : Nat}

theorem Passed.version_eq (passed : Passed primitives request records place)
    (passed' : Passed primitives request records' place)
    (reached : Check.versionField.rank < place) :
    records.envelope.version = records'.envelope.version := by
  obtain ⟨rest, split⟩ := passed .versionField reached
  obtain ⟨rest', split'⟩ := passed' .versionField reached
  exact (Reader.exact_u32 .version).unique trivial trivial ⟨rest, split.symm⟩
    ⟨rest', split'.symm⟩

theorem Passed.hashingInfo_eq (passed : Passed primitives request records place)
    (passed' : Passed primitives request records' place)
    (reached : Check.hashingLength.rank < place) :
    records.envelope.hashingInfo = records'.envelope.hashingInfo := by
  obtain ⟨fits, -, rest, split⟩ := passed .hashingLength reached
  obtain ⟨fits', -, rest', split'⟩ := passed' .hashingLength reached
  rw [List.append_assoc] at split split'
  exact (Reader.exact_bytes .hashingInfo).unique fits fits' ⟨rest, (drop_version split).symm⟩
    ⟨rest', (drop_version split').symm⟩

theorem Passed.envelope_eq (passed : Passed primitives request records place)
    (passed' : Passed primitives request records' place)
    (reached : Check.signersLength.rank < place) : records.envelope = records'.envelope := by
  have opened := Envelope.decode_eq_ok_iff.mpr (passed .signersLength reached)
  have opened' := Envelope.decode_eq_ok_iff.mpr (passed' .signersLength reached)
  rw [opened] at opened'
  exact Except.ok.inj opened'

theorem Passed.signers_eq (passed : Passed primitives request records place)
    (passed' : Passed primitives request records' place)
    (reached : Check.signerRecords.rank < place) : records.signers = records'.signers := by
  have opened := passed.envelope_eq passed' (Nat.lt_trans (by decide) reached)
  have listed : SignerList.decode records.envelope.signingInfos = .ok records.signers :=
    passed .signerRecords reached
  have listed' : SignerList.decode records'.envelope.signingInfos = .ok records'.signers :=
    passed' .signerRecords reached
  rw [opened, listed'] at listed
  exact (Except.ok.inj listed).symm

theorem Passed.selected_eq (passed : Passed primitives request records place)
    (passed' : Passed primitives request records' place)
    (reached : Check.selection.rank < place) :
    records.hashing = records'.hashing ∧ records.signer = records'.signer :=
  (passed.mono reached).selects.unique (passed'.mono reached).selects

theorem Passed.data_eq (passed : Passed primitives request records place)
    (passed' : Passed primitives request records' place)
    (reached : Check.dataSize.rank < place) : records.data = records'.data := by
  obtain ⟨sameHashing, sameSigner⟩ :=
    passed.selected_eq passed' (Nat.lt_trans (by decide) reached)
  have rebuilt : SignedData.encode? request.fileSize records.hashing records.signer =
      some records.data := passed .dataSize reached
  have rebuilt' : SignedData.encode? request.fileSize records'.hashing records'.signer =
      some records'.data := passed' .dataSize reached
  rw [sameHashing, sameSigner, rebuilt'] at rebuilt
  exact (Option.some.inj rebuilt).symm

theorem Passed.algorithm_eq (passed : Passed primitives request records place)
    (passed' : Passed primitives request records' place)
    (reached : Check.algorithm.rank < place) : records.algorithm = records'.algorithm := by
  have sameSigner := (passed.selected_eq passed' (Nat.lt_trans (by decide) reached)).2
  have resolved := SignatureAlgorithm.ofId?_eq_some_iff.mpr (passed .algorithm reached)
  have resolved' := SignatureAlgorithm.ofId?_eq_some_iff.mpr (passed' .algorithm reached)
  rw [sameSigner, resolved'] at resolved
  exact (Option.some.inj resolved).symm

theorem Passed.key_eq (passed : Passed primitives request records place)
    (passed' : Passed primitives request records' place)
    (reached : Check.key.rank < place) : records.key = records'.key := by
  have sameSigner := (passed.selected_eq passed' (Nat.lt_trans (by decide) reached)).2
  have sameAlgorithm := passed.algorithm_eq passed' (Nat.lt_trans (by decide) reached)
  have decoded : PublicKey.decode primitives records.algorithm.family
      records.signer.publicKey = .ok records.key := passed .key reached
  have decoded' : PublicKey.decode primitives records'.algorithm.family
      records'.signer.publicKey = .ok records'.key := passed' .key reached
  rw [sameSigner, sameAlgorithm, decoded'] at decoded
  exact (Except.ok.inj decoded).symm

theorem Passed.certificate_eq (passed : Passed primitives request records place)
    (passed' : Passed primitives request records' place)
    (reached : Check.certificate.rank < place) :
    records.certificate = records'.certificate := by
  have sameSigner := (passed.selected_eq passed' (Nat.lt_trans (by decide) reached)).2
  have certified : primitives.certificate records.signer.certificate =
      .ok records.certificate := passed .certificate reached
  have certified' : primitives.certificate records'.signer.certificate =
      .ok records'.certificate := passed' .certificate reached
  rw [sameSigner, certified'] at certified
  exact (Except.ok.inj certified).symm

/-- What a check looks at is settled by the checks in front of it. -/
theorem Passed.look_eq {check : Check} (passed : Passed primitives request records check.rank)
    (passed' : Passed primitives request records' check.rank) :
    look request records check = look request records' check := by
  cases check with
  | presence => rfl
  | versionField => rfl
  | version => rw [look, look, passed.version_eq passed' (by decide)]
  | hashingLength => rfl
  | signersLength => rw [look, look, passed.hashingInfo_eq passed' (by decide)]
  | hashingRecord => rw [look, look, passed.envelope_eq passed' (by decide)]
  | signerRecords => rw [look, look, passed.envelope_eq passed' (by decide)]
  | selection => rw [look, look, passed.signers_eq passed' (by decide)]
  | dataSize =>
      obtain ⟨sameHashing, sameSigner⟩ := passed.selected_eq passed' (by decide)
      rw [look, look, sameHashing, sameSigner]
  | algorithm => rw [look, look, (passed.selected_eq passed' (by decide)).2]
  | key =>
      rw [look, look, passed.algorithm_eq passed' (by decide),
        (passed.selected_eq passed' (by decide)).2]
  | signature =>
      rw [look, look, passed.algorithm_eq passed' (by decide), passed.key_eq passed' (by decide),
        passed.data_eq passed' (by decide), (passed.selected_eq passed' (by decide)).2]
  | certificate => rw [look, look, (passed.selected_eq passed' (by decide)).2]
  | keyMatch =>
      rw [look, look, passed.certificate_eq passed' (by decide),
        (passed.selected_eq passed' (by decide)).2]
  | hashAlgorithm => rw [look, look, (passed.selected_eq passed' (by decide)).1]

/-! ### One failing check -/

theorem failure_of_holds {check : Check} (holds : Holds primitives request records check) :
    failure primitives (look request records check) = none := by
  cases check with
  | presence =>
      have nonempty : request.bytes ≠ [] := holds
      rw [look, failure, if_neg (by rw [List.isEmpty_iff]; exact nonempty)]
  | versionField =>
      obtain ⟨rest, split⟩ := holds
      have taken : (request.bytes.take 4).length = 4 := by
        rw [split, List.length_take, List.length_append, Encoding.length_u32]
        omega
      rw [look, failure, if_neg (by omega)]
  | version => exact if_pos holds
  | hashingLength =>
      obtain ⟨fits, within, rest, split⟩ := holds
      rw [List.append_assoc] at split
      rw [look, drop_version split]
      exact Option.map_eq_none_iff.mpr
        (Reader.lengthFault_eq_none_iff.mpr ⟨_, rest, fits, within, rfl⟩)
  | signersLength =>
      have opens : records.envelope.Opens request.bytes request.maxSize := holds
      obtain ⟨rest, split⟩ := opens.atHead
      have within := opens.withinBudget
      rw [Envelope.toBytes, List.append_assoc] at split
      rw [look, drop_hashingInfo split.symm]
      exact Option.map_eq_none_iff.mpr
        (Reader.lengthFault_eq_none_iff.mpr ⟨_, rest, opens.signersFit, by omega, rfl⟩)
  | hashingRecord =>
      have decoded : HashingInfo.decode records.envelope.hashingInfo = .ok records.hashing := holds
      rw [look, failure, decoded]
      rfl
  | signerRecords =>
      have decoded : SignerList.decode records.envelope.signingInfos = .ok records.signers := holds
      rw [look, failure, decoded]
      rfl
  | selection =>
      rw [look, ← errorOf_chooseSigner, chooseSigner_eq_ok_iff.mpr holds]
      rfl
  | dataSize =>
      rw [look, ← errorOf_signedData request.fileSize, signedData_eq_ok_iff.mpr holds]
      rfl
  | algorithm =>
      rw [look, ← errorOf_resolveAlgorithm, resolveAlgorithm_eq_ok_iff.mpr holds]
      rfl
  | key =>
      have decoded : PublicKey.decode primitives records.algorithm.family
        records.signer.publicKey = .ok records.key := holds
      rw [look, failure, decoded]
      rfl
  | signature =>
      have accepted : checkSignature primitives records.algorithm records.key records.data
        records.signer.signature = .ok () := holds
      rw [look, failure, accepted]
      rfl
  | certificate =>
      have certified : primitives.certificate records.signer.certificate =
        .ok records.certificate := holds
      rw [look, failure, certified]
      rfl
  | keyMatch => exact if_pos holds
  | hashAlgorithm => exact if_pos holds

theorem FailsAt.unique {check check' : Check} {error error' : VerifyError}
    (fails : FailsAt primitives request check error)
    (fails' : FailsAt primitives request check' error') : check = check' ∧ error = error' := by
  have notLater {check check' : Check} {error error' : VerifyError}
      (fails : FailsAt primitives request check error)
      (fails' : FailsAt primitives request check' error') : ¬ check.rank < check'.rank := by
    obtain ⟨records, passed, failed⟩ := fails
    obtain ⟨records', passed', -⟩ := fails'
    intro sooner
    have sound := failure_of_holds (passed' check sooner)
    rw [← passed.look_eq (passed'.mono (Nat.le_of_lt sooner)), failed] at sound
    cases sound
  have notSooner := notLater fails fails'
  have notBehind := notLater fails' fails
  refine ⟨Check.rank_injective (by omega), ?_⟩
  have outcome := outcome_of_failsAt fails
  rw [outcome_of_failsAt fails'] at outcome
  exact (Except.error.inj outcome).symm

/-- Another request that comes as far and shows the failing check the same fails the same. -/
theorem FailsAt.transfer {check : Check} {error : VerifyError} {other : Request}
    (fails : FailsAt primitives request check error)
    (passed : Passed primitives request records check.rank)
    (passed' : Passed primitives other records' check.rank)
    (same : look request records check = look other records' check) :
    FailsAt primitives other check error := by
  obtain ⟨found, foundPassed, failed⟩ := fails
  refine ⟨records', passed', ?_⟩
  rw [← same, passed.look_eq foundPassed]
  exact failed

theorem outcome_of_unsupported_version {version : UInt32} {rest : Bytes}
    (split : request.bytes = Encoding.u32 version ++ rest)
    (unsupported : version ∉ Envelope.supportedVersions) :
    request.outcome primitives = .error (.unsupportedVersion version) := by
  let records : Records :=
    { Records.blank with envelope := { Records.blank.envelope with version } }
  have passed : Passed primitives request records Check.version.rank := by
    intro check within
    cases check with
    | presence => exact nonempty_of_version split
    | versionField => exact ⟨rest, split⟩
    | _ => contradiction
  exact outcome_of_failure passed (if_neg unsupported)

theorem outcome_of_refused_hashing {envelope : Envelope} {fault : DecodeError}
    (opened : Envelope.decode request.bytes request.maxSize = .ok envelope)
    (refused : HashingInfo.decode envelope.hashingInfo = .error fault) :
    request.outcome primitives = .error (.decode fault) := by
  let records : Records := { Records.blank with envelope }
  have passed : Passed primitives request records Check.hashingRecord.rank :=
    passed_of_opens (Envelope.decode_eq_ok_iff.mp opened)
  apply outcome_of_failure passed
  rw [look, failure, errorOf_eq_some_iff.mpr refused]
  rfl

variable {hashing : HashingInfo} {signer : SigningInfo} {algorithm : SignatureAlgorithm}
  {key : PublicKey} {data : Bytes}

theorem exists_passed_of_selects (primitives : Primitives)
    (selects : request.Selects hashing signer)
    (rebuilt : SignedData.encode? request.fileSize hashing signer = some data) :
    ∃ records : Records, records.signer = signer ∧ records.data = data ∧
      Passed primitives request records Check.algorithm.rank := by
  obtain ⟨envelope, signers, opened, hashed, listed, chosen⟩ := selects
  refine ⟨{ Records.blank with envelope, hashing, signers, signer, data }, rfl, rfl, ?_⟩
  have opens := Envelope.decode_eq_ok_iff.mp opened
  intro check within
  cases check with
  | hashingRecord => exact hashed
  | signerRecords => exact listed
  | selection => exact chooseSigner_eq_ok_iff.mp chosen
  | dataSize => exact rebuilt
  | _ => first | contradiction | exact passed_of_opens opens _ (by decide)

theorem outcome_of_unlisted_algorithm (selects : request.Selects hashing signer)
    (rebuilt : SignedData.encode? request.fileSize hashing signer = some data)
    (unlisted : ∀ algorithm ∈ SignatureAlgorithm.all, algorithm.id ≠ signer.signatureAlgorithmId) :
    request.outcome primitives = .error (.unsupportedAlgorithm signer.signatureAlgorithmId) := by
  obtain ⟨records, rfl, -, passed⟩ := exists_passed_of_selects primitives selects rebuilt
  apply outcome_of_failure passed
  apply if_neg
  rintro ⟨algorithm, listed, named⟩
  exact unlisted algorithm listed named

theorem outcome_of_refused_key {fault : KeyFault} (selects : request.Selects hashing signer)
    (rebuilt : SignedData.encode? request.fileSize hashing signer = some data)
    (resolved : SignatureAlgorithm.ofId? signer.signatureAlgorithmId = some algorithm)
    (refused : PublicKey.decode primitives algorithm.family signer.publicKey = .error fault) :
    request.outcome primitives = .error (.invalidPublicKey algorithm.family fault) := by
  obtain ⟨records, rfl, -, passed⟩ := exists_passed_of_selects primitives selects rebuilt
  apply outcome_of_failure
    (passed.withAlgorithm (SignatureAlgorithm.ofId?_eq_some_iff.mp resolved))
  rw [look, failure, errorOf_eq_some_iff.mpr refused]
  rfl

theorem outcome_of_refused_signature {error : VerifyError}
    (selects : request.Selects hashing signer)
    (rebuilt : SignedData.encode? request.fileSize hashing signer = some data)
    (resolved : SignatureAlgorithm.ofId? signer.signatureAlgorithmId = some algorithm)
    (decoded : PublicKey.decode primitives algorithm.family signer.publicKey = .ok key)
    (refused : checkSignature primitives algorithm key data signer.signature = .error error) :
    request.outcome primitives = .error error := by
  obtain ⟨records, rfl, rfl, passed⟩ := exists_passed_of_selects primitives selects rebuilt
  have resolvedPassed := passed.withAlgorithm (SignatureAlgorithm.ofId?_eq_some_iff.mp resolved)
  exact outcome_of_failure (resolvedPassed.withKey decoded) (errorOf_eq_some_iff.mpr refused)

/-- Every failure is the one of the first check that does not hold, whatever the checks
behind it would have said. -/
theorem failure_of_first_failing_check (primitives : Primitives) :
    (∀ (request : Request) (error : VerifyError),
      request.outcome primitives = .error error ↔
        ∃ check, FailsAt primitives request check error) ∧
    (∀ (request : Request) (check check' : Check) (error error' : VerifyError),
      FailsAt primitives request check error → FailsAt primitives request check' error' →
        check = check' ∧ error = error') ∧
    (∀ (request other : Request) (records records' : Records) (check : Check)
      (error : VerifyError), FailsAt primitives request check error →
      Passed primitives request records check.rank → Passed primitives other records' check.rank →
      look request records check = look other records' check →
        other.outcome primitives = .error error) ∧
    (∀ (request : Request) (version : UInt32) (rest : Bytes),
      request.bytes = Encoding.u32 version ++ rest → version ≠ 2 →
        request.outcome primitives = .error (.unsupportedVersion version)) ∧
    (∀ (request : Request) (envelope : Envelope) (fault : DecodeError),
      Envelope.decode request.bytes request.maxSize = .ok envelope →
      HashingInfo.decode envelope.hashingInfo = .error fault →
        request.outcome primitives = .error (.decode fault)) ∧
    (∀ (request : Request) (hashing : HashingInfo) (signer : SigningInfo),
      request.Selects hashing signer →
      SignedData.length hashing signer ≤ Encoding.maxLength →
      (∀ algorithm ∈ SignatureAlgorithm.all, algorithm.id ≠ signer.signatureAlgorithmId) →
        request.outcome primitives =
          .error (.unsupportedAlgorithm signer.signatureAlgorithmId)) ∧
    (∀ (request : Request) (hashing : HashingInfo) (signer : SigningInfo)
      (algorithm : SignatureAlgorithm) (fault : KeyFault), request.Selects hashing signer →
      SignedData.length hashing signer ≤ Encoding.maxLength →
      SignatureAlgorithm.ofId? signer.signatureAlgorithmId = some algorithm →
      PublicKey.decode primitives algorithm.family signer.publicKey = .error fault →
        request.outcome primitives = .error (.invalidPublicKey algorithm.family fault)) ∧
    (∀ (request : Request) (hashing : HashingInfo) (signer : SigningInfo) (data : Bytes)
      (algorithm : SignatureAlgorithm) (key : PublicKey) (error : VerifyError),
      request.Selects hashing signer →
      SignedData.encode? request.fileSize hashing signer = some data →
      SignatureAlgorithm.ofId? signer.signatureAlgorithmId = some algorithm →
      PublicKey.decode primitives algorithm.family signer.publicKey = .ok key →
      checkSignature primitives algorithm key data signer.signature = .error error →
        request.outcome primitives = .error error) := by
  refine ⟨?_, ?_, ?_, ?_, ?_, ?_, ?_, ?_⟩
  · intro request error
    exact outcome_eq_error_iff
  · intro request check check' error error' fails fails'
    exact fails.unique fails'
  · intro request other records records' check error fails passed passed' same
    exact outcome_of_failsAt (fails.transfer passed passed' same)
  · intro request version rest split different
    apply outcome_of_unsupported_version split
    intro supported
    exact different (Envelope.mem_supportedVersions_iff.mp supported)
  · intro request envelope fault opened refused
    exact outcome_of_refused_hashing opened refused
  · intro request hashing signer selects within unlisted
    exact outcome_of_unlisted_algorithm selects (SignedData.encode?_of_length_le within) unlisted
  · intro request hashing signer algorithm fault selects within resolved refused
    exact outcome_of_refused_key selects (SignedData.encode?_of_length_le within) resolved refused
  · intro request hashing signer data algorithm key error selects rebuilt resolved decoded refused
    exact outcome_of_refused_signature selects rebuilt resolved decoded refused

/-! ### Faults that hide one another -/

def strangeVersionRequest : Request where
  fileSize := 7
  bytes := Encoding.u32 3 ++ [0xff]
  choice := .default
  maxSize := 0

def cutEnvelope : Envelope where
  version := 2
  hashingInfo := [1, 0, 0]
  signingInfos := [0xff]

def cutRequest : Request where
  fileSize := 7
  bytes := cutEnvelope.toBytes
  choice := .block 5
  maxSize := Envelope.defaultMaxSize

def strangeSigner : SigningInfo :=
  { SignerList.sampleSigner with signatureAlgorithmId := 0x0999 }

theorem failure_of_first_failing_check_samples :
    strangeVersionRequest.outcome Primitives.standard = .error (.unsupportedVersion 3) ∧
      cutRequest.outcome Primitives.standard =
        .error (.decode (.truncated .hashAlgorithm 4 3)) ∧
      (sampleRequest strangeSigner .default []).outcome Primitives.standard =
        .error (.unsupportedAlgorithm 0x0999) ∧
      (sampleRequest SignerList.sampleSigner (.block 5) []).outcome Primitives.standard =
        .error (.invalidPublicKey .rsa (.undecodable Primitives.malformed)) ∧
      (∃ check, FailsAt Primitives.standard (sampleRequest strangeSigner .default []) check
        (.unsupportedAlgorithm 0x0999)) := by
  obtain ⟨first, -, -, version, hashing, algorithm, key, -⟩ :=
    failure_of_first_failing_check Primitives.standard
  have opened : Envelope.decode cutRequest.bytes cutRequest.maxSize = .ok cutEnvelope :=
    Envelope.decode_eq_ok_iff.mpr
      ⟨by decide, by decide, by decide, by decide, List.prefix_rfl⟩
  have strangeFits : strangeSigner.Fits := by
    constructor <;> decide
  have strangeSelects := sampleRequest_selects strangeFits (by decide) (.inl rfl) []
  have selects := sampleRequest_selects SignerList.sampleSigner_fits (by decide) (.inr rfl) []
  have unlisted := algorithm _ _ _ strangeSelects (by decide) (by decide)
  exact ⟨version _ 3 [0xff] rfl (by decide), hashing _ cutEnvelope _ opened rfl, unlisted,
    key _ _ _ .rsaPkcs1Sha256 _ selects (by decide) (by decide) rfl, (first _ _).mp unlisted⟩

end Verification

end PackageSignature

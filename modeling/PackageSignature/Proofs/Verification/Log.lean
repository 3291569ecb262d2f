import PackageSignature.Proofs.Verification.FailureOrder

/-! The log of a verification. Each stage that is passed leaves one mark, and the marks stand
in the order of the stages. So the number of marks in front of a failure tells between which
stages the failing check stands. -/

namespace PackageSignature

namespace Traced

variable {α β : Type}

theorem lift_ok_bind (value : α) (next : α → Traced β) :
    (lift (.ok value) >>= next) = next value := rfl

theorem events_emit_bind (event : Event) (next : Unit → Traced β) :
    (emit event >>= next).events = event :: (next ()).events := rfl

theorem events_bind_of_silent {first : Traced α} {next : α → Traced β}
    (silent : ∀ value, (next value).events = []) : (first >>= next).events = first.events := by
  rw [events_bind]
  cases first.result with
  | ok value =>
      simp only [silent]
      exact List.append_nil _
  | error error => exact List.append_nil _

theorem events_onFailure (run : Traced α) (event : VerifyError → Event) :
    (onFailure run event).events =
      run.events ++
        match run.result with
        | .ok _ => []
        | .error error => [event error] := by
  rw [onFailure]
  cases run.result with
  | ok value => exact (List.append_nil _).symm
  | error error => rfl

end Traced

namespace Verification

variable {primitives : Primitives} {request : Request} {records : Records} {check : Check}
  {error : VerifyError}

def Records.marks (records : Records) (path : Path) (choice : SignerChoice) : List Event :=
  [.decoded path records.envelope.version, .selected choice records.signers.blocks.length,
    .resolved records.algorithm, .verified records.algorithm]

/-- How many marks are in the log when the check is made. -/
def Check.marksBefore : Check → Nat
  | presence | versionField | version | hashingLength | signersLength => 0
  | hashingRecord | signerRecords | selection => 1
  | dataSize | algorithm => 2
  | key | signature => 3
  | certificate | keyMatch | hashAlgorithm => 4

theorem Check.marksBefore_mono {earlier : Check} (sooner : earlier.rank ≤ check.rank) :
    earlier.marksBefore ≤ check.marksBefore := by
  cases check <;> cases earlier <;> first | decide | contradiction

theorem run_of_envelope (passed : Passed primitives request records Check.hashingRecord.rank) :
    run primitives request.fileSize records.envelope request.choice = (do
      let hashing ← .lift (records.envelope.decodeHashingInfo.mapError .decode)
      let signers ← .lift (records.envelope.decodeSigners.mapError .decode)
      let signer ← .lift (chooseSigner signers request.choice)
      .emit (.selected request.choice signers.blocks.length)
      let data ← .lift (signedData request.fileSize hashing signer)
      let certificate ← checkSigner primitives signer data
      .lift (vouch certificate signer hashing)) := by
  have opens := passed .signersLength (by decide)
  rw [run, if_pos (Envelope.isSupported_iff.mpr opens.supported)]

theorem run_of_records (passed : Passed primitives request records Check.selection.rank) :
    run primitives request.fileSize records.envelope request.choice = (do
      let signer ← .lift (chooseSigner records.signers request.choice)
      .emit (.selected request.choice records.signers.blocks.length)
      let data ← .lift (signedData request.fileSize records.hashing signer)
      let certificate ← checkSigner primitives signer data
      .lift (vouch certificate signer records.hashing)) := by
  have hashing : HashingInfo.decode records.envelope.hashingInfo = .ok records.hashing :=
    passed .hashingRecord (by decide)
  have signers : SignerList.decode records.envelope.signingInfos = .ok records.signers :=
    passed .signerRecords (by decide)
  rw [run_of_envelope (passed.mono (by decide)), Envelope.decodeHashingInfo, hashing,
    Envelope.decodeSigners, signers, ok_mapError, Traced.lift_ok_bind, ok_mapError,
    Traced.lift_ok_bind]

theorem events_run_of_signer (passed : Passed primitives request records Check.dataSize.rank) :
    (run primitives request.fileSize records.envelope request.choice).events =
      .selected request.choice records.signers.blocks.length ::
        Traced.events (do
          let data ← .lift (signedData request.fileSize records.hashing records.signer)
          checkSigner primitives records.signer data) := by
  have chosen := chooseSigner_eq_ok_iff.mpr (passed .selection (by decide))
  rw [run_of_records (passed.mono (by decide)), chosen, Traced.lift_ok_bind,
    Traced.events_emit_bind]
  congr 1
  cases signedData request.fileSize records.hashing records.signer with
  | error error => rfl
  | ok data =>
      rw [Traced.lift_ok_bind, Traced.lift_ok_bind]
      exact Traced.events_bind_of_silent (fun _ => rfl)

theorem events_run_of_data (passed : Passed primitives request records Check.algorithm.rank) :
    (run primitives request.fileSize records.envelope request.choice).events =
      .selected request.choice records.signers.blocks.length ::
        (checkSigner primitives records.signer records.data).events := by
  have rebuilt := signedData_eq_ok_iff.mpr (passed .dataSize (by decide))
  rw [events_run_of_signer (passed.mono (by decide)), rebuilt, Traced.lift_ok_bind]

theorem events_run_of_algorithm (passed : Passed primitives request records Check.key.rank) :
    (run primitives request.fileSize records.envelope request.choice).events =
      [.selected request.choice records.signers.blocks.length, .resolved records.algorithm] ++
        Traced.events (do
          let key ← .lift (decodeKey primitives records.algorithm.family records.signer.publicKey)
          .lift (checkSignature primitives records.algorithm key records.data
            records.signer.signature)
          .emit (.verified records.algorithm)) := by
  have resolved := resolveAlgorithm_eq_ok_iff.mpr (passed .algorithm (by decide))
  rw [events_run_of_data (passed.mono (by decide)), checkSigner, resolved, Traced.lift_ok_bind,
    Traced.events_emit_bind]
  have silent (certificate : Certificate) :
      (if certificate.subjectKey = records.signer.publicKey then pure certificate
        else Traced.fail .publicKeyMismatch : Traced Certificate).events = [] := by
    rw [apply_ite Traced.events]
    exact ite_self _
  cases decodeKey primitives records.algorithm.family records.signer.publicKey with
  | error error => rfl
  | ok key =>
      rw [Traced.lift_ok_bind, Traced.lift_ok_bind]
      cases checkSignature primitives records.algorithm key records.data
          records.signer.signature with
      | error error => rfl
      | ok accepted =>
          rw [Traced.lift_ok_bind, Traced.lift_ok_bind, Traced.events_emit_bind,
            Traced.events_bind_of_silent silent]
          rfl

theorem events_run_of_signature
    (passed : Passed primitives request records Check.certificate.rank) :
    (run primitives request.fileSize records.envelope request.choice).events =
      [.selected request.choice records.signers.blocks.length, .resolved records.algorithm,
        .verified records.algorithm] := by
  have keyDecoded := decodeKey_eq_ok_iff.mpr (passed .key (by decide))
  have accepted : checkSignature primitives records.algorithm records.key records.data
      records.signer.signature = .ok () := passed .signature (by decide)
  rw [events_run_of_algorithm (passed.mono (by decide)), keyDecoded, Traced.lift_ok_bind,
    accepted, Traced.lift_ok_bind]
  rfl

theorem events_run_of_failure (path : Path)
    (passed : Passed primitives request records check.rank)
    (failed : failure primitives (look request records check) = some error)
    (opened : Check.signersLength.rank < check.rank) :
    .decoded path records.envelope.version ::
        (run primitives request.fileSize records.envelope request.choice).events =
      (records.marks path request.choice).take check.marksBefore := by
  cases check with
  | hashingRecord =>
      obtain ⟨fault, refused, rfl⟩ := Option.map_eq_some_iff.mp failed
      rw [errorOf_eq_some_iff] at refused
      rw [run_of_envelope passed, Envelope.decodeHashingInfo, refused]
      rfl
  | signerRecords =>
      obtain ⟨fault, refused, rfl⟩ := Option.map_eq_some_iff.mp failed
      rw [errorOf_eq_some_iff] at refused
      have hashing : HashingInfo.decode records.envelope.hashingInfo = .ok records.hashing :=
        passed .hashingRecord (by decide)
      rw [run_of_envelope (passed.mono (by decide)), Envelope.decodeHashingInfo, hashing,
        Envelope.decodeSigners, refused]
      rfl
  | selection =>
      rw [look, ← errorOf_chooseSigner, errorOf_eq_some_iff] at failed
      rw [run_of_records passed, failed]
      rfl
  | dataSize =>
      rw [look, ← errorOf_signedData request.fileSize, errorOf_eq_some_iff] at failed
      rw [events_run_of_signer passed, failed]
      rfl
  | algorithm =>
      rw [look, ← errorOf_resolveAlgorithm, errorOf_eq_some_iff] at failed
      rw [events_run_of_data passed, checkSigner, failed]
      rfl
  | key =>
      rw [look, failure, ← errorOf_mapError, errorOf_eq_some_iff] at failed
      rw [events_run_of_algorithm passed, decodeKey, failed]
      rfl
  | signature =>
      have keyDecoded := decodeKey_eq_ok_iff.mpr (passed .key (by decide))
      rw [look, failure, errorOf_eq_some_iff] at failed
      rw [events_run_of_algorithm (passed.mono (by decide)), keyDecoded, Traced.lift_ok_bind,
        failed]
      rfl
  | certificate => rw [events_run_of_signature passed]; rfl
  | keyMatch => rw [events_run_of_signature (passed.mono (by decide))]; rfl
  | hashAlgorithm => rw [events_run_of_signature (passed.mono (by decide))]; rfl
  | _ => contradiction

theorem FailsAt.rank_le_of_passed {place : Nat} (fails : FailsAt primitives request check error)
    (passed : Passed primitives request records place) : place ≤ check.rank := by
  obtain ⟨other, otherPassed, failed⟩ := fails
  apply Nat.le_of_not_lt
  intro within
  have sound := failure_of_holds (passed check within)
  rw [← otherPassed.look_eq (passed.mono (Nat.le_of_lt within)), failed] at sound
  cases sound

end Verification

end PackageSignature

import PackageSignature.Proofs.Verifier.Answers

/-! What a verifier reports as missing. A caller may look for another signature only where there
is nothing to verify: the source has no bytes or no size of the package, or the list of signers,
once everything in front of it is in order, has no block of the kind asked for. A record that is
damaged, not understood or not vouched for never counts as missing. -/

namespace PackageSignature

theorem ErrorKind.eq_security_iff {kind : ErrorKind} : kind = .security ↔ kind ≠ .notFound := by
  cases kind <;> decide

namespace Verifier

variable {verifier : Verifier} {path : Path} {choice : SignerChoice} {error : VerifyError}

inductive NothingThere (verifier : Verifier) (path : Path) (choice : SignerChoice) : Prop
  | unreadable {fault : SourceFault} (failed : verifier.source.fetch path = .error fault)
  | missing (nothing : verifier.source.fetch path = .ok none)
  | empty (nothing : verifier.source.fetch path = .ok (some []))
  | unsized {bytes : Bytes} {envelope : Envelope} {fault : SourceFault}
      (fetched : verifier.source.fetch path = .ok (some bytes))
      (opened : Envelope.decode bytes verifier.config.maxSignatureSize = .ok envelope)
      (failed : verifier.source.fileSize path = .error fault)
  | noBlock {bytes : Bytes} (fetched : verifier.source.fetch path = .ok (some bytes))
      (lacks : Verification.LacksBlock bytes verifier.config.maxSignatureSize choice)

theorem nothingThere_iff_of_fetched {bytes : Bytes}
    (fetched : verifier.source.fetch path = .ok (some bytes)) (nonempty : bytes ≠ []) :
    NothingThere verifier path choice ↔
      (∃ envelope fault,
        Envelope.decode bytes verifier.config.maxSignatureSize = .ok envelope ∧
        verifier.source.fileSize path = .error fault) ∨
      Verification.LacksBlock bytes verifier.config.maxSignatureSize choice := by
  constructor
  · intro nothing
    cases nothing with
    | unreadable failed =>
        rw [fetched] at failed
        cases failed
    | missing none =>
        rw [fetched] at none
        cases none
    | empty empty =>
        rw [fetched] at empty
        cases empty
        exact (nonempty rfl).elim
    | unsized same opened failed =>
        rw [fetched] at same
        cases same
        exact .inl ⟨_, _, opened, failed⟩
    | noBlock same lacks =>
        rw [fetched] at same
        cases same
        exact .inr lacks
  · intro either
    rcases either with ⟨envelope, fault, opened, failed⟩ | lacks
    · exact .unsized fetched opened failed
    · exact .noBlock fetched lacks

theorem kind_eq_notFound_iff (failed : (verifier.verify path choice).result = .error error) :
    error.kind = .notFound ↔ NothingThere verifier path choice := by
  obtain ⟨outcome, verdict⟩ := exists_verdict verifier path choice
  rw [verdict.result_eq] at failed
  cases verdict with
  | unreadable unread =>
      cases failed
      exact iff_of_true rfl (.unreadable unread)
  | missing nothing =>
      cases failed
      exact iff_of_true rfl (.missing nothing)
  | empty nothing =>
      cases failed
      exact iff_of_true rfl (.empty nothing)
  | unsized fetched nonempty opened unsized =>
      cases failed
      exact iff_of_true rfl (.unsized fetched (mapError_eq_ok_iff.mp opened) unsized)
  | @refused bytes error fetched nonempty refused =>
      cases failed
      have unopened (envelope : Envelope) :
          Envelope.decode bytes verifier.config.maxSignatureSize ≠ .ok envelope := by
        intro opened
        rw [Verification.decodeEnvelope, opened] at refused
        cases refused
      apply iff_of_false
      · rw [Verification.kind_of_decodeEnvelope refused]
        exact fun impossible => by cases impossible
      · rw [nothingThere_iff_of_fetched fetched nonempty]
        rintro (⟨envelope, _, opened, -⟩ | ⟨envelope, _, _, _, opened, -⟩)
        · exact unopened envelope opened
        · exact unopened envelope opened
  | @verified bytes envelope fileSize fetched nonempty opened sized =>
      change Verification.Request.outcome verifier.primitives
        { fileSize, bytes, choice, maxSize := verifier.config.maxSignatureSize } = _ at failed
      rw [Verification.kind_eq_notFound_iff failed, nothingThere_iff_of_fetched fetched nonempty]
      simp only [nonempty, sized, reduceCtorEq, and_false, exists_false, false_or]

theorem exists_error_of_nothingThere (nothing : NothingThere verifier path choice) :
    ∃ error, (verifier.verify path choice).result = .error error := by
  obtain ⟨outcome, verdict⟩ := exists_verdict verifier path choice
  rw [verdict.result_eq]
  cases verdict with
  | @verified bytes envelope fileSize fetched nonempty opened sized =>
      rw [nothingThere_iff_of_fetched fetched nonempty, sized] at nothing
      rcases nothing with ⟨_, _, _, impossible⟩ | lacks
      · cases impossible
      · obtain ⟨blockId, failed⟩ := Verification.exists_blockId_of_lacksBlock verifier.primitives
          { fileSize, bytes, choice, maxSize := verifier.config.maxSignatureSize } lacks
        exact ⟨_, failed⟩
  | _ => exact ⟨_, rfl⟩

/-- Nothing but what is not there is reported as missing, by the verifier and by the
verification of bytes. -/
theorem notFound_iff_nothing_there :
    (∀ (verifier : Verifier) (path : Path) (choice : SignerChoice),
      ((∃ error, (verifier.verify path choice).result = .error error ∧
          error.kind = .notFound) ↔ NothingThere verifier path choice) ∧
      ∀ error, (verifier.verify path choice).result = .error error →
        ¬ NothingThere verifier path choice → error.kind = .security) ∧
    (∀ (primitives : Primitives) (fileSize : UInt64) (bytes : Bytes) (choice : SignerChoice)
        (maxSize : Nat),
      ((∃ error, Verification.verify primitives fileSize bytes choice maxSize = .error error ∧
          error.kind = .notFound) ↔
        bytes = [] ∨ Verification.LacksBlock bytes maxSize choice) ∧
      ∀ error, Verification.verify primitives fileSize bytes choice maxSize = .error error →
        ¬ (bytes = [] ∨ Verification.LacksBlock bytes maxSize choice) →
          error.kind = .security) := by
  refine ⟨?_, ?_⟩
  · intro verifier path choice
    refine ⟨⟨?_, ?_⟩, ?_⟩
    · rintro ⟨error, failed, notFound⟩
      exact (kind_eq_notFound_iff failed).mp notFound
    · intro nothing
      obtain ⟨error, failed⟩ := exists_error_of_nothingThere nothing
      exact ⟨error, failed, (kind_eq_notFound_iff failed).mpr nothing⟩
    · intro error failed something
      rw [ErrorKind.eq_security_iff, ne_eq, kind_eq_notFound_iff failed]
      exact something
  · intro primitives fileSize bytes choice maxSize
    let request : Verification.Request := { fileSize, bytes, choice, maxSize }
    change ((∃ error, request.outcome primitives = .error error ∧ _) ↔ _) ∧
      ∀ error, request.outcome primitives = .error error → _
    refine ⟨⟨?_, ?_⟩, ?_⟩
    · rintro ⟨error, failed, notFound⟩
      exact (Verification.kind_eq_notFound_iff failed).mp notFound
    · intro nothing
      obtain ⟨error, failed⟩ := Verification.exists_error_of_nothing primitives request nothing
      exact ⟨error, failed, (Verification.kind_eq_notFound_iff failed).mpr nothing⟩
    · intro error failed something
      rw [ErrorKind.eq_security_iff, ne_eq, Verification.kind_eq_notFound_iff failed]
      exact something

def damagedEnvelope : Envelope :=
  Verification.listing 2 Verification.sampleHashing.toBytes SignerList.sampleSigner
    Verification.damagedBlocks

def sampleVerifier (bytes : Bytes) : Verifier where
  primitives := Verification.samplePrimitives
  source := { fetch := fun _ => .ok (some bytes), fileSize := fun _ => .ok 7 }
  config := .standard

theorem damagedEnvelope_opens :
    damagedEnvelope.Opens damagedEnvelope.toBytes Config.standard.maxSignatureSize :=
  ⟨by decide, by decide, by decide, by decide, List.prefix_rfl⟩

theorem notFound_iff_nothing_there_damaged_block :
    (∃ error, ((sampleVerifier damagedEnvelope.toBytes).verify ⟨"a.apk"⟩ (.block 6)).result =
        .error error ∧ error.kind = .notFound) ∧
      ((sampleVerifier damagedEnvelope.toBytes).verify ⟨"a.apk"⟩ (.block 7)).result =
        .error (.signerBlock 7 (.truncated .apkDigest 4 3)) ∧
      ¬ NothingThere (sampleVerifier damagedEnvelope.toBytes) ⟨"a.apk"⟩ (.block 7) ∧
      (VerifyError.signerBlock 7 (.truncated .apkDigest 4 3)).kind = .security := by
  let verifier := sampleVerifier damagedEnvelope.toBytes
  have fetched : verifier.source.fetch ⟨"a.apk"⟩ = .ok (some damagedEnvelope.toBytes) := rfl
  have nonempty := Verification.nonempty_of_opens damagedEnvelope_opens
  have opened := Envelope.decode_eq_ok_iff.mpr damagedEnvelope_opens
  have missing : Verification.LacksBlock damagedEnvelope.toBytes
      Config.standard.maxSignatureSize (.block 6) :=
    ⟨damagedEnvelope, Verification.sampleHashing, _, 6, opened,
      Verification.decode_sampleHashing, Verification.decode_damagedSigners, rfl, by decide⟩
  have there : ¬ NothingThere verifier ⟨"a.apk"⟩ (.block 7) := by
    rw [nothingThere_iff_of_fetched fetched nonempty]
    rintro (⟨_, _, _, impossible⟩ | ⟨_, _, _, _, same, -, listed, asked, none⟩)
    · cases impossible
    · cases opened.symm.trans same
      cases Verification.decode_damagedSigners.symm.trans listed
      cases asked
      exact none (Verification.damagedBlock 7) List.mem_cons_self rfl
  have refused :
      (verifier.verify ⟨"a.apk"⟩ (.block 7)).result =
        .error (.signerBlock 7 (.truncated .apkDigest 4 3)) := by
    have verdict : Verdict verifier ⟨"a.apk"⟩ (.block 7) _ :=
      .verified fetched nonempty (mapError_eq_ok_iff.mpr opened) rfl
    rw [verdict.result_eq]
    exact (Verification.verify_of_opens damagedEnvelope_opens).trans
      (Verification.verifyDecoded_of_refused_choice (by decide) Verification.decode_sampleHashing
        Verification.decode_damagedSigners (Verification.chooseSigner_of_damaged
          ⟨[], [Verification.soundBlock 7], rfl, by decide, rfl⟩ rfl))
  exact ⟨(notFound_iff_nothing_there.1 _ _ _).1.mpr (.noBlock rfl missing), refused, there,
    (notFound_iff_nothing_there.1 _ _ _).2 _ refused there⟩

end Verifier

end PackageSignature

import PackageSignature.Proofs.Record.Ends
import PackageSignature.Proofs.Record.Grammar
import PackageSignature.Proofs.Verification.Isolation

/-! Where the bytes of a signature end. A signature that is cut off is never accepted: the
lengths in its envelope are missed before anything is made of a list that lost its last
blocks. Bytes behind the envelope, behind the hashing info and behind the signer in a block
are left for later versions, and no outcome depends on them. -/

namespace PackageSignature

namespace Verification

variable {primitives : Primitives} {fileSize : UInt64} {bytes front kept : Bytes}
  {choice : SignerChoice} {maxSize : Nat}

theorem verify_of_fault {fault : DecodeError} (nonempty : bytes ≠ [])
    (failed : Envelope.decode bytes maxSize = .error (.decode fault)) :
    verify primitives fileSize bytes choice maxSize = .error (.decode fault) := by
  rw [verify_of_nonempty nonempty, decodeEnvelope, failed]
  rfl

/-- A front of an envelope is refused for the field that it ends in. Of a signer list the
fronts that are lists themselves are those that end behind the default signer or behind a
block. -/
theorem no_truncation_accepted :
    (∀ (primitives : Primitives) (fileSize : UInt64) (choice : SignerChoice) (buffer : Bytes)
        (maxSize : Nat) (envelope : Envelope) (front : Bytes),
      Envelope.decode buffer maxSize = .ok envelope →
      front <+: envelope.toBytes → front ≠ envelope.toBytes →
        (front = [] →
          verify primitives fileSize front choice maxSize = .error .emptySignature) ∧
        (front ≠ [] → ∃ entry kept needed remaining,
          Slot.CutIn (envelope.entries maxSize) front entry kept ∧
          verify primitives fileSize front choice maxSize =
            .error (.decode (.truncated entry.1.field needed remaining)) ∧
          remaining < needed)) ∧
    (∀ (signers : SignerList) (front : Bytes),
      SignerList.decode signers.toBytes = .ok signers →
      front <+: signers.toBytes → front ≠ signers.toBytes →
        ((∃ decoded, SignerList.decode front = .ok decoded) ↔
          ∃ count < signers.blocks.length, front.length = signers.endOf count) ∧
        ∀ count, front.length = signers.endOf count →
          SignerList.decode front = .ok (signers.firstBlocks count)) := by
  refine ⟨?_, ?_⟩
  · intro primitives fileSize choice buffer maxSize envelope front decoded here strict
    refine ⟨?_, ?_⟩
    · intro empty
      rw [empty, verify_of_empty]
    · intro nonempty
      have opens := Envelope.decode_eq_ok_iff.mp decoded
      rw [← Envelope.flatMap_entries envelope maxSize] at here strict
      obtain ⟨entry, kept, cutIn⟩ := Slot.exists_cutIn here strict
      obtain ⟨needed, remaining, failed, less⟩ := Envelope.decode_of_cutIn opens cutIn
      exact ⟨entry, kept, needed, remaining, cutIn, verify_of_fault nonempty failed, less⟩
  · intro signers front listed here strict
    obtain ⟨encodable, -⟩ := SignerList.decode_eq_ok_iff.mp listed
    refine ⟨SignerList.exists_decode_iff encodable here strict, ?_⟩
    intro count ends
    exact SignerList.decode_of_length_eq_endOf encodable here ends

theorem no_truncation_accepted_damaged_block :
    verify samplePrimitives 7 [] .default 8 = .error .emptySignature ∧
      (∃ entry kept needed remaining,
        Slot.CutIn (Envelope.fullEnvelope.entries 8) (Encoding.u32 2) entry kept ∧
        verify samplePrimitives 7 (Encoding.u32 2) .default 8 =
          .error (.decode (.truncated entry.1.field needed remaining)) ∧
        remaining < needed) ∧
      SignerList.decode (damagedSigners.toBytes.take 43) = .ok (damagedSigners.firstBlocks 1) ∧
      ¬ ∃ decoded, SignerList.decode (damagedSigners.toBytes.take 42) = .ok decoded := by
  have fullOpens : Envelope.fullEnvelope.Opens Envelope.fullEnvelope.toBytes 8 :=
    ⟨by decide, by decide, by decide, by decide, List.prefix_rfl⟩
  obtain ⟨refused, lists⟩ := no_truncation_accepted
  have envelopeCut (front : Bytes) := refused samplePrimitives 7 .default _ 8 _ front
    (Envelope.decode_eq_ok_iff.mpr fullOpens)
  have versionHere : Encoding.u32 2 <+: Envelope.fullEnvelope.toBytes :=
    ⟨_, (List.append_assoc _ _ _).symm⟩
  have listCut (count : Nat) := lists damagedSigners (damagedSigners.toBytes.take count)
    decode_damagedSigners (List.take_prefix _ _)
  refine ⟨?_, ?_, ?_, ?_⟩
  · exact (envelopeCut [] List.nil_prefix (by decide)).1 rfl
  · exact (envelopeCut (Encoding.u32 2) versionHere (by decide)).2 (by decide)
  · exact (listCut 43 (by decide)).2 1 (by decide)
  · rw [(listCut 42 (by decide)).1]
    decide

/-! ### Bytes behind what is read -/

theorem verify_append
    (complete : ∀ field needed remaining,
      Envelope.decode bytes maxSize ≠ .error (.decode (.truncated field needed remaining)))
    (tail : Bytes) :
    verify primitives fileSize (bytes ++ tail) choice maxSize =
      verify primitives fileSize bytes choice maxSize := by
  have nonempty : bytes ≠ [] := by
    rintro rfl
    exact complete _ _ _ (Envelope.decode_of_short (Nat.succ_pos 3))
  have longer : bytes ++ tail ≠ [] := List.append_ne_nil_of_left_ne_nil nonempty tail
  rw [verify_of_nonempty longer, verify_of_nonempty nonempty, decodeEnvelope, decodeEnvelope,
    Envelope.decode_append complete]

theorem verifyDecoded_hashingInfo_congr {version : UInt32}
    {hashingInfo otherInfo signingInfos : Bytes}
    (same : HashingInfo.decode hashingInfo = HashingInfo.decode otherInfo) :
    verifyDecoded primitives fileSize { version, hashingInfo, signingInfos } choice =
      verifyDecoded primitives fileSize { version, hashingInfo := otherInfo, signingInfos }
        choice := by
  by_cases supported : version ∈ Envelope.supportedVersions
  · rw [verifyDecoded_of_supported supported, verifyDecoded_of_supported supported]
    simp only [Envelope.decodeHashingInfo, Envelope.decodeSigners, same]
  · rw [verifyDecoded_of_unsupported supported, verifyDecoded_of_unsupported supported]

theorem chooseSigner_append_block {signers : SignerList} {before after : List SignerBlock}
    {block : SignerBlock} {signer : SigningInfo} (split : signers.blocks = before ++ block :: after)
    (first : ∀ earlier ∈ before, earlier.blockId ≠ block.blockId)
    (decoded : SigningInfo.decode block.signingInfo = .ok signer) (tail : Bytes) :
    chooseSigner { signers with blocks := before ++ block.append tail :: after }
        (.block block.blockId) =
      chooseSigner signers (.block block.blockId) := by
  have longer : SigningInfo.decode (block.append tail).signingInfo = .ok signer :=
    SigningInfo.exact_read.decode_append decoded tail
  have blockFirst : block.IsFirst block.blockId signers.blocks := ⟨before, after, split, first, rfl⟩
  have longerFirst : (block.append tail).IsFirst block.blockId
      (before ++ block.append tail :: after) := ⟨before, after, rfl, first, rfl⟩
  rw [chooseSigner_of_first blockFirst, chooseSigner_of_first longerFirst, decoded, longer]

/-- Bytes behind what has been read change no outcome: not behind an envelope or behind what
it is refused for, not behind a hashing info, and not behind the signer in a block. Behind a
signer list they do count. -/
theorem trailing_bytes_ignored (primitives : Primitives) (fileSize : UInt64)
    (choice : SignerChoice) (tail : Bytes) :
    (∀ (bytes : Bytes) (maxSize : Nat),
      (∀ field needed remaining,
        Envelope.decode bytes maxSize ≠ .error (.decode (.truncated field needed remaining))) →
      verify primitives fileSize (bytes ++ tail) choice maxSize =
        verify primitives fileSize bytes choice maxSize) ∧
    (∀ (envelope : Envelope) (hashing : HashingInfo),
      HashingInfo.decode envelope.hashingInfo = .ok hashing →
      verifyDecoded primitives fileSize
          { envelope with hashingInfo := envelope.hashingInfo ++ tail } choice =
        verifyDecoded primitives fileSize envelope choice) ∧
    (∀ (envelope : Envelope) (signers : SignerList) (before after : List SignerBlock)
        (block : SignerBlock) (signer : SigningInfo),
      SignerList.decode envelope.signingInfos = .ok signers →
      signers.blocks = before ++ block :: after →
      (∀ earlier ∈ before, earlier.blockId ≠ block.blockId) →
      SigningInfo.decode block.signingInfo = .ok signer →
      Encoding.Fits (block.signingInfo ++ tail) →
      verifyDecoded primitives fileSize
          { envelope with
            signingInfos := SignerList.toBytes
              { signers with blocks := before ++ block.append tail :: after } }
          (.block block.blockId) =
        verifyDecoded primitives fileSize envelope (.block block.blockId)) ∧
    (∀ (buffer : Bytes) (signers : SignerList), SignerList.decode buffer = .ok signers →
      tail ≠ [] → SignerList.decode (buffer ++ tail) ≠ .ok signers) := by
  refine ⟨?_, ?_, ?_, ?_⟩
  · intro bytes maxSize complete
    exact verify_append complete tail
  · intro envelope hashing hashed
    have longer : HashingInfo.decode (envelope.hashingInfo ++ tail) = .ok hashing :=
      HashingInfo.exact_read.decode_append hashed tail
    exact verifyDecoded_hashingInfo_congr (longer.trans hashed.symm)
  · intro envelope signers before after block signer listed split first decoded fits
    have longer := SignerList.decode_append_block listed split fits
    exact verifyDecoded_congr longer listed (chooseSigner_append_block split first decoded tail)
  · intro buffer signers listed something
    exact SignerList.decode_append_ne listed something

theorem trailing_bytes_ignored_accepted :
    verify samplePrimitives 7 ((sampleEnvelope SignerList.sampleSigner).toBytes ++ [0xff])
        (.block 5) Envelope.defaultMaxSize = .ok sampleRecords.verified ∧
      verifyDecoded samplePrimitives 7
          (listing 2 (sampleHashing.toBytes ++ [0xff]) SignerList.sampleSigner [soundBlock 5])
          (.block 5) = .ok sampleRecords.verified ∧
      verifyDecoded samplePrimitives 7
          (listing 2 sampleHashing.toBytes SignerList.sampleSigner
            [(soundBlock 5).append [0xff]]) (.block 5) = .ok sampleRecords.verified ∧
      SignerList.decode (damagedSigners.toBytes ++ [0xff]) ≠ .ok damagedSigners := by
  obtain ⟨behindEnvelope, behindHashing, behindSigner, behindList⟩ :=
    trailing_bytes_ignored samplePrimitives 7 (.block 5) [0xff]
  have opens := sampleEnvelope_opens [] sampleSigners_short
  rw [List.append_nil] at opens
  have accepted := verifyDecoded_sound (.inr rfl)
  have listed := decode_listed SignerList.sampleSigner_fits
    (fits_of_soundBlock_or_damagedBlock (by decide : ∀ block ∈ [soundBlock 5], _))
  refine ⟨?_, ?_, ?_, ?_⟩
  · rw [behindEnvelope _ _ ?_, verify_of_opens opens]
    · exact accepted
    · rw [Envelope.decode_eq_ok_iff.mpr opens]
      intro field needed remaining impossible
      cases impossible
  · exact (behindHashing (listing 2 sampleHashing.toBytes SignerList.sampleSigner [soundBlock 5])
      sampleHashing decode_sampleHashing).trans accepted
  · exact (behindSigner (listing 2 sampleHashing.toBytes SignerList.sampleSigner [soundBlock 5])
      _ [] [] (soundBlock 5) SignerList.sampleSigner listed rfl
      (fun _ member => (List.not_mem_nil member).elim)
      (SigningInfo.exact_read.decode_eq_ok.mpr ⟨SignerList.sampleSigner_fits, List.prefix_rfl⟩)
      (by decide)).trans accepted
  · exact behindList _ _ decode_damagedSigners (by decide)

end Verification

end PackageSignature

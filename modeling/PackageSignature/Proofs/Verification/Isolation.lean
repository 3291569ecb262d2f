import PackageSignature.Proofs.Verification.Binding

/-! Which signer is verified. The choice alone decides it: no block has a say where the
default signer is meant, and where a block is meant nothing has but the first one with its
id. A block that is missing or damaged is a failure of its own and never a reason to verify
somebody else. -/

namespace PackageSignature

def SignerBlock.IsFirst (block : SignerBlock) (blockId : UInt32) (blocks : List SignerBlock) :
    Prop :=
  ∃ before after, blocks = before ++ block :: after ∧
    (∀ earlier ∈ before, earlier.blockId ≠ blockId) ∧ block.blockId = blockId

theorem SignerList.find?_eq_some_iff_isFirst {signers : SignerList} {blockId : UInt32}
    {block : SignerBlock} :
    signers.find? blockId = some block ↔ block.IsFirst blockId signers.blocks :=
  SignerList.find?_eq_some_iff

theorem SignerBlock.exists_isFirst {signers : SignerList} {block : SignerBlock}
    (listed : block ∈ signers.blocks) :
    ∃ first : SignerBlock, first.IsFirst block.blockId signers.blocks := by
  cases found : signers.find? block.blockId with
  | some first => exact ⟨first, SignerList.find?_eq_some_iff_isFirst.mp found⟩
  | none =>
      rw [SignerList.find?, List.find?_eq_none] at found
      exact (found block listed (beq_self_eq_true _)).elim

theorem SignerBlock.IsFirst.iff_of_isFirst {block : SignerBlock} {blockId : UInt32}
    {blocks others : List SignerBlock} (first : block.IsFirst blockId blocks)
    (otherFirst : block.IsFirst blockId others) (candidate : SignerBlock) :
    candidate.IsFirst blockId blocks ↔ candidate.IsFirst blockId others := by
  have unique {list : List SignerBlock} (first : block.IsFirst blockId list) :
      candidate.IsFirst blockId list ↔ candidate = block := by
    let signers : SignerList := { defaultSigner := [], blocks := list }
    have found : signers.find? blockId = some block :=
      SignerList.find?_eq_some_iff_isFirst.mpr first
    have chosen : signers.find? blockId = some candidate ↔ candidate.IsFirst blockId list :=
      SignerList.find?_eq_some_iff_isFirst
    rw [← chosen, found, Option.some.injEq, eq_comm]
  rw [unique first, unique otherFirst]

namespace Verification

variable {primitives : Primitives} {fileSize : UInt64} {choice : SignerChoice}
  {version : UInt32} {hashingInfo signingInfos otherInfos : Bytes} {signers others : SignerList}

theorem verifyDecoded_of_unsupported {envelope : Envelope}
    (unsupported : envelope.version ∉ Envelope.supportedVersions) :
    verifyDecoded primitives fileSize envelope choice =
      .error (.unsupportedVersion envelope.version) := by
  have refused : ¬ envelope.isSupported = true :=
    fun supported => unsupported (Envelope.isSupported_iff.mp supported)
  rw [verifyDecoded, run, if_neg refused]
  rfl

theorem verifyDecoded_congr (listed : SignerList.decode signingInfos = .ok signers)
    (otherListed : SignerList.decode otherInfos = .ok others)
    (same : chooseSigner signers choice = chooseSigner others choice) :
    verifyDecoded primitives fileSize { version, hashingInfo, signingInfos } choice =
      verifyDecoded primitives fileSize { version, hashingInfo, signingInfos := otherInfos }
        choice := by
  by_cases supported : version ∈ Envelope.supportedVersions
  · rw [verifyDecoded_of_supported supported, verifyDecoded_of_supported supported]
    simp only [Envelope.decodeHashingInfo, Envelope.decodeSigners, listed, otherListed,
      ok_mapError, ok_bind, same]
  · rw [verifyDecoded_of_unsupported supported, verifyDecoded_of_unsupported supported]

theorem verifyDecoded_of_refused_choice {hashing : HashingInfo} {error : VerifyError}
    (supported : version ∈ Envelope.supportedVersions)
    (hashed : HashingInfo.decode hashingInfo = .ok hashing)
    (listed : SignerList.decode signingInfos = .ok signers)
    (refused : chooseSigner signers choice = .error error) :
    verifyDecoded primitives fileSize { version, hashingInfo, signingInfos } choice =
      .error error := by
  rw [verifyDecoded_of_supported supported]
  simp only [Envelope.decodeHashingInfo, Envelope.decodeSigners, hashed, listed, ok_mapError,
    ok_bind, refused, error_bind]

theorem chooseSigner_block_congr {blockId : UInt32}
    (same : ∀ block : SignerBlock,
      block.IsFirst blockId signers.blocks ↔ block.IsFirst blockId others.blocks) :
    chooseSigner signers (.block blockId) = chooseSigner others (.block blockId) := by
  have found : signers.find? blockId = others.find? blockId := by
    apply Option.ext
    intro block
    rw [SignerList.find?_eq_some_iff_isFirst, SignerList.find?_eq_some_iff_isFirst]
    exact same block
  rw [chooseSigner, chooseSigner, found]

theorem chooseSigner_of_missing {blockId : UInt32}
    (missing : ∀ block ∈ signers.blocks, block.blockId ≠ blockId) :
    chooseSigner signers (.block blockId) = .error (.signerBlockNotFound blockId) := by
  rw [chooseSigner]
  cases found : signers.find? blockId with
  | none => rfl
  | some block =>
      obtain ⟨before, after, split, -, same⟩ := SignerList.find?_eq_some_iff.mp found
      have member : block ∈ signers.blocks := by
        rw [split]
        exact List.mem_append_right _ List.mem_cons_self
      exact (missing block member same).elim

theorem chooseSigner_of_first {blockId : UInt32} {block : SignerBlock}
    (first : block.IsFirst blockId signers.blocks) :
    chooseSigner signers (.block blockId) =
      (SigningInfo.decode block.signingInfo).mapError (.signerBlock blockId) := by
  rw [chooseSigner, SignerList.find?_eq_some_iff_isFirst.mpr first]

theorem chooseSigner_of_damaged {blockId : UInt32} {block : SignerBlock} {error : DecodeError}
    (first : block.IsFirst blockId signers.blocks)
    (damaged : SigningInfo.decode block.signingInfo = .error error) :
    chooseSigner signers (.block blockId) = .error (.signerBlock blockId error) := by
  rw [chooseSigner_of_first first, damaged, error_mapError]

def listing (version : UInt32) (hashingInfo : Bytes) (signer : SigningInfo)
    (blocks : List SignerBlock) : Envelope where
  version := version
  hashingInfo := hashingInfo
  signingInfos := SignerList.toBytes { defaultSigner := signer.toBytes, blocks }

theorem decode_listed {signer : SigningInfo} {blocks : List SignerBlock} (fits : signer.Fits)
    (blocksFit : ∀ block ∈ blocks, Encoding.Fits block.signingInfo) :
    SignerList.decode (SignerList.toBytes { defaultSigner := signer.toBytes, blocks }) =
      .ok { defaultSigner := signer.toBytes, blocks } :=
  SignerList.decode_eq_ok_iff.mpr ⟨⟨⟨signer, fits, rfl⟩, blocksFit⟩, rfl⟩

/-- The choice alone decides who is verified, and nobody stands in for a signer that is not
there or cannot be read. Blocks with other ids, the order behind the first match and later
blocks with its id are of no account. -/
theorem choice_isolates_signer (primitives : Primitives) (fileSize : UInt64) (version : UInt32)
    (hashingInfo : Bytes) (signer other : SigningInfo) (blocks otherBlocks : List SignerBlock)
    (fits : signer.Fits) (otherFits : other.Fits)
    (blocksFit : ∀ block ∈ blocks, Encoding.Fits block.signingInfo)
    (otherBlocksFit : ∀ block ∈ otherBlocks, Encoding.Fits block.signingInfo) :
    verifyDecoded primitives fileSize (listing version hashingInfo signer blocks) .default =
        verifyDecoded primitives fileSize (listing version hashingInfo signer otherBlocks)
          .default ∧
    (∀ blockId : UInt32,
      (∀ block : SignerBlock,
        block.IsFirst blockId blocks ↔ block.IsFirst blockId otherBlocks) →
      verifyDecoded primitives fileSize (listing version hashingInfo signer blocks)
          (.block blockId) =
        verifyDecoded primitives fileSize (listing version hashingInfo other otherBlocks)
          (.block blockId)) ∧
    (∀ (blockId : UInt32) (hashing : HashingInfo), version ∈ Envelope.supportedVersions →
      HashingInfo.decode hashingInfo = .ok hashing →
      (∀ block ∈ blocks, block.blockId ≠ blockId) →
        verifyDecoded primitives fileSize (listing version hashingInfo signer blocks)
          (.block blockId) = .error (.signerBlockNotFound blockId)) ∧
    (∀ (blockId : UInt32) (hashing : HashingInfo) (block : SignerBlock) (error : DecodeError),
      version ∈ Envelope.supportedVersions → HashingInfo.decode hashingInfo = .ok hashing →
      block.IsFirst blockId blocks → SigningInfo.decode block.signingInfo = .error error →
        verifyDecoded primitives fileSize (listing version hashingInfo signer blocks)
          (.block blockId) = .error (.signerBlock blockId error)) := by
  have listed := decode_listed fits blocksFit
  refine ⟨?_, ?_, ?_, ?_⟩
  · exact verifyDecoded_congr listed (decode_listed fits otherBlocksFit) rfl
  · intro blockId same
    exact verifyDecoded_congr listed (decode_listed otherFits otherBlocksFit)
      (chooseSigner_block_congr same)
  · intro blockId hashing supported hashed missing
    exact verifyDecoded_of_refused_choice supported hashed listed
      (chooseSigner_of_missing missing)
  · intro blockId hashing block error supported hashed first damaged
    exact verifyDecoded_of_refused_choice supported hashed listed
      (chooseSigner_of_damaged first damaged)

/-! ### A damaged block in front of a sound one -/

def soundBlock (blockId : UInt32) : SignerBlock where
  blockId := blockId
  signingInfo := SignerList.sampleSigner.toBytes

def damagedBlock (blockId : UInt32) : SignerBlock where
  blockId := blockId
  signingInfo := [1, 2, 3]

def damagedBlocks : List SignerBlock :=
  [damagedBlock 7, soundBlock 7]

def crowdedBlocks : List SignerBlock :=
  [damagedBlock 6, soundBlock 5, damagedBlock 5]

def unsignedSigner : SigningInfo :=
  { SignerList.sampleSigner with signature := [] }

theorem fits_of_soundBlock_or_damagedBlock {blocks : List SignerBlock}
    (known : ∀ block ∈ blocks, block = soundBlock block.blockId ∨
      block = damagedBlock block.blockId) :
    ∀ block ∈ blocks, Encoding.Fits block.signingInfo := by
  intro block member
  rcases known block member with sound | damaged
  · rw [sound]
    exact (by decide : Encoding.Fits SignerList.sampleSigner.toBytes)
  · rw [damaged]
    exact (by decide : Encoding.Fits [1, 2, 3])

def damagedSigners : SignerList where
  defaultSigner := SignerList.sampleSigner.toBytes
  blocks := damagedBlocks

theorem decode_damagedSigners : SignerList.decode damagedSigners.toBytes = .ok damagedSigners :=
  decode_listed SignerList.sampleSigner_fits (fits_of_soundBlock_or_damagedBlock (by decide))

theorem verifyDecoded_sound {choice : SignerChoice}
    (either : choice = .default ∨ choice = .block 5) :
    verifyDecoded samplePrimitives 7
        (listing 2 sampleHashing.toBytes SignerList.sampleSigner [soundBlock 5]) choice =
      .ok sampleRecords.verified := by
  have accepted := sampleRequest_accepted either []
  rw [Request.outcome] at accepted
  rw [← accepted]
  exact (verify_of_opens (sampleEnvelope_opens [] sampleSigners_short)).symm

theorem choice_isolates_signer_damaged_block :
    verifyDecoded samplePrimitives 7
        (listing 2 sampleHashing.toBytes SignerList.sampleSigner damagedBlocks) .default =
      .ok sampleRecords.verified ∧
    verifyDecoded samplePrimitives 7
        (listing 2 sampleHashing.toBytes SignerList.sampleSigner damagedBlocks) (.block 7) =
      .error (.signerBlock 7 (.truncated .apkDigest 4 3)) ∧
    verifyDecoded samplePrimitives 7
        (listing 2 sampleHashing.toBytes SignerList.sampleSigner damagedBlocks) (.block 6) =
      .error (.signerBlockNotFound 6) ∧
    verifyDecoded samplePrimitives 7
        (listing 2 sampleHashing.toBytes unsignedSigner crowdedBlocks) (.block 5) =
      .ok sampleRecords.verified := by
  have damagedFit : ∀ block ∈ damagedBlocks, Encoding.Fits block.signingInfo :=
    fits_of_soundBlock_or_damagedBlock (by decide)
  have crowdedFit : ∀ block ∈ crowdedBlocks, Encoding.Fits block.signingInfo :=
    fits_of_soundBlock_or_damagedBlock (by decide)
  have soundFit : ∀ block ∈ [soundBlock 5], Encoding.Fits block.signingInfo :=
    fits_of_soundBlock_or_damagedBlock (by decide)
  have unsignedFits : unsignedSigner.Fits := by
    constructor <;> decide
  obtain ⟨default, -, missing, damaged⟩ := choice_isolates_signer samplePrimitives 7 2
    sampleHashing.toBytes SignerList.sampleSigner unsignedSigner damagedBlocks [soundBlock 5]
    SignerList.sampleSigner_fits unsignedFits damagedFit soundFit
  obtain ⟨-, isolated, -, -⟩ := choice_isolates_signer samplePrimitives 7 2
    sampleHashing.toBytes unsignedSigner SignerList.sampleSigner crowdedBlocks [soundBlock 5]
    unsignedFits SignerList.sampleSigner_fits crowdedFit soundFit
  have crowdedFirst : (soundBlock 5).IsFirst 5 crowdedBlocks :=
    ⟨[damagedBlock 6], [damagedBlock 5], rfl, by decide, rfl⟩
  have soundFirst : (soundBlock 5).IsFirst 5 [soundBlock 5] :=
    ⟨[], [], rfl, by decide, rfl⟩
  refine ⟨?_, ?_, ?_, ?_⟩
  · rw [default]
    exact verifyDecoded_sound (.inl rfl)
  · exact damaged 7 sampleHashing (damagedBlock 7) _ (by decide) decode_sampleHashing
      ⟨[], [soundBlock 7], rfl, by decide, rfl⟩ rfl
  · exact missing 6 sampleHashing (by decide) decode_sampleHashing (by decide)
  · rw [isolated 5 (crowdedFirst.iff_of_isFirst soundFirst)]
    exact verifyDecoded_sound (.inr rfl)

end Verification

end PackageSignature

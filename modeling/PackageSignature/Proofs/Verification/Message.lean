import PackageSignature.Proofs.Verification.Budget
import PackageSignature.Proofs.Verification.Kinds

/-! The message that a signature is made over. It is rebuilt from the size of the package and
the two records, unless it is too long for its own length field, and it tells all that it was
rebuilt from. The records of an envelope leave it little room to grow: it is longer than the two
of them by eight bytes at most, so only an extreme budget lets a message be too long. -/

namespace PackageSignature

theorem SignerList.Means.length_toBytes_le {signers : SignerList} {choice : SignerChoice}
    {signer : SigningInfo} (means : signers.Means choice signer) :
    signer.toBytes.length ≤ signers.toBytes.length := by
  cases choice with
  | default =>
      exact Nat.le_trans (SigningInfo.exact_read.length_encode_le means)
        signers.length_defaultSigner_le
  | block blockId =>
      obtain ⟨before, block, after, split, -, -, decoded⟩ := means
      have listed : block ∈ signers.blocks := by
        rw [split]
        exact List.mem_append_right _ List.mem_cons_self
      exact Nat.le_trans (SigningInfo.exact_read.length_encode_le decoded)
        (SignerList.length_signingInfo_le listed)

namespace Verification

variable {primitives : Primitives} {request : Request} {fileSize : UInt64}
  {hashing : HashingInfo} {signer : SigningInfo} {data : Bytes}

theorem signedData_eq_error_iff {error : VerifyError} :
    signedData fileSize hashing signer = .error error ↔
      Encoding.maxLength < SignedData.length hashing signer ∧
        error = .signedDataTooLarge (SignedData.length hashing signer) := by
  unfold signedData SignedData.encode?
  by_cases within : SignedData.length hashing signer ≤ Encoding.maxLength
  · rw [if_pos within]
    constructor
    · intro impossible
      cases impossible
    · rintro ⟨above, -⟩
      omega
  · rw [if_neg within]
    constructor
    · intro failed
      cases failed
      exact ⟨Nat.lt_of_not_le within, rfl⟩
    · rintro ⟨-, rfl⟩
      rfl

theorem signedData_replace_signature (signature : Bytes) :
    signedData fileSize hashing { signer with signature } =
      signedData fileSize hashing signer := rfl

theorem length_of_signedData (rebuilt : signedData fileSize hashing signer = .ok data) :
    data.length = SignedData.length hashing signer := by
  obtain ⟨-, rfl⟩ := SignedData.encode?_eq_some_iff.mp (signedData_eq_ok_iff.mp rebuilt)
  exact SignedData.length_layout _ _ _ _

theorem toNatLE_take_of_signedData (rebuilt : signedData fileSize hashing signer = .ok data) :
    Bytes.toNatLE (data.take 4) = SignedData.length hashing signer := by
  obtain ⟨within, rfl⟩ := SignedData.encode?_eq_some_iff.mp (signedData_eq_ok_iff.mp rebuilt)
  have small : SignedData.length hashing signer < UInt32.size := Nat.lt_succ_of_le within
  rw [SignedData.layout_eq, List.take_left' (Encoding.length_u32 _), Encoding.toNatLE_u32,
    UInt32.toNat_ofNat_of_lt' small]

/-- Unless it is too long, the message is rebuilt. It tells the size of the package and all of the
two records but the signature, and no other message begins with it. -/
theorem message_tells_all_but_signature (fileSize : UInt64) (hashing : HashingInfo)
    (signer : SigningInfo) :
    let length := 45 + hashing.salt.length + hashing.rootHash.length + signer.apkDigest.length +
      signer.certificate.length + signer.additionalData.length + signer.publicKey.length
    (∀ error, signedData fileSize hashing signer = .error error ↔
      4294967295 < length ∧ error = .signedDataTooLarge length) ∧
    (∀ signature, signedData fileSize hashing { signer with signature } =
      signedData fileSize hashing signer) ∧
    (length ≤ 4294967295 → ∃ data, signedData fileSize hashing signer = .ok data ∧
      data.length = length ∧
      Bytes.toNatLE (data.take 4) = length ∧
      (∀ before field after, SignedData.fields hashing signer = before ++ field :: after →
        Bytes.toNatLE ((data.drop (SignedData.place before)).take 4) = field.length ∧
          (data.drop (SignedData.place before + 4)).take field.length = field) ∧
      (∀ tail, SignedData.parse (data ++ tail) =
        .ok
          { total := UInt32.ofNat length, fileSize, hashing
            signer := { signer with signature := [] } }) ∧
      ∀ fileSize' hashing' signer' data', signedData fileSize' hashing' signer' = .ok data' →
        data <+: data' →
          fileSize = fileSize' ∧ hashing = hashing' ∧
            { signer with signature := signer'.signature } = signer') := by
  intro length
  refine ⟨?_, ?_, ?_⟩
  · intro error
    exact signedData_eq_error_iff
  · intro signature
    exact signedData_replace_signature signature
  · intro within
    have encoded : SignedData.encode? fileSize hashing signer = some _ :=
      SignedData.encode?_of_length_le within
    have rebuilt := signedData_eq_ok_iff.mpr encoded
    refine ⟨_, rebuilt, length_of_signedData rebuilt, toNatLE_take_of_signedData rebuilt, ?_, ?_,
      ?_⟩
    · intro before field after split
      exact SignedData.field_of_split encoded split
    · intro tail
      exact SignedData.parse_append encoded tail
    · intro fileSize' hashing' signer' data' rebuilt' beginning
      exact SignedData.eq_of_encode?_isPrefix encoded (signedData_eq_ok_iff.mp rebuilt') beginning

def shortHashing : HashingInfo where
  hashAlgorithm := HashingInfo.sha256
  log2BlockSize := HashingInfo.log2BlockSize4096
  salt := [0x5a, 0x5a]
  rootHash := [0xaa, 0xaa, 0xaa]

def shortSigner : SigningInfo where
  apkDigest := [0xd1]
  certificate := [0xc1, 0xc2]
  additionalData := []
  publicKey := [0x9e]
  signatureAlgorithmId := 0x0103
  signature := [0xff, 0xff]

def shortMessage : Bytes :=
  [54, 0, 0, 0, 0x22, 0x11, 0, 0, 0, 0, 0, 0, 1, 0, 0, 0, 12] ++
    [2, 0, 0, 0, 0x5a, 0x5a] ++ [3, 0, 0, 0, 0xaa, 0xaa, 0xaa] ++ [1, 0, 0, 0, 0xd1] ++
    [2, 0, 0, 0, 0xc1, 0xc2] ++ [0, 0, 0, 0] ++ [1, 0, 0, 0, 0x9e] ++ [0x03, 0x01, 0, 0]

theorem message_tells_all_but_signature_sample :
    signedData 0x1122 shortHashing shortSigner = .ok shortMessage ∧
      shortMessage.length = 54 ∧
      Bytes.toNatLE ((shortMessage.drop 35).take 4) = 2 ∧
      (shortMessage.drop 39).take 2 = shortSigner.certificate ∧
      SignedData.parse (shortMessage ++ [0xff]) =
        .ok
          { total := 54, fileSize := 0x1122, hashing := shortHashing
            signer := { shortSigner with signature := [] } } := by
  have rebuilt : signedData 0x1122 shortHashing shortSigner = .ok shortMessage := rfl
  obtain ⟨-, -, told⟩ := message_tells_all_but_signature 0x1122 shortHashing shortSigner
  obtain ⟨data, same, measured, -, stands, parsed, -⟩ := told (by decide)
  obtain rfl : data = shortMessage := Except.ok.inj (same.symm.trans rebuilt)
  obtain ⟨certificateLength, certificate⟩ :=
    stands [shortHashing.salt, shortHashing.rootHash, shortSigner.apkDigest] _ _ rfl
  exact ⟨rebuilt, measured, certificateLength, certificate, parsed [0xff]⟩

/-! ### How long a message can be -/

theorem length_message_le {envelope : Envelope} {signers : SignerList} {choice : SignerChoice}
    (hashed : envelope.decodeHashingInfo = .ok hashing)
    (listed : envelope.decodeSigners = .ok signers) (means : signers.Means choice signer) :
    SignedData.length hashing signer ≤
      envelope.hashingInfo.length + envelope.signingInfos.length + 8 := by
  have hashingLength := HashingInfo.exact_read.length_encode_le hashed
  have signerLength := means.length_toBytes_le
  obtain ⟨-, written⟩ := SignerList.decode_eq_ok_iff.mp listed
  rw [HashingInfo.length_toBytes] at hashingLength
  rw [SigningInfo.length_toBytes, ← written] at signerLength
  unfold SignedData.length
  omega

theorem Request.Selects.length_le (selects : request.Selects hashing signer) :
    SignedData.length hashing signer ≤ request.maxSize + 8 := by
  obtain ⟨envelope, signers, opened, hashed, listed, chosen⟩ := selects
  have bounded := length_message_le hashed listed (chooseSigner_eq_ok_iff.mp chosen)
  have within := (Envelope.decode_eq_ok_iff.mp opened).withinBudget
  omega

theorem outcome_ne_signedDataTooLarge (small : request.maxSize + 8 ≤ Encoding.maxLength)
    (length : Nat) : request.outcome primitives ≠ .error (.signedDataTooLarge length) := by
  intro failed
  obtain ⟨check, records, passed, reported⟩ := outcome_eq_error_iff.mp failed
  cases reports_of_failure reported with
  | dataSize =>
      obtain ⟨above, -⟩ := Option.ite_none_left_eq_some.mp reported
      have bounded := passed.selects.length_le
      exact above (Nat.le_trans bounded small)

/-- The message of a signer in an envelope is eight bytes longer than the records at most. Below
the largest budgets it is never too long, and none of its length fields is cut short. -/
theorem message_within_budget (primitives : Primitives) :
    (∀ (envelope : Envelope) (hashing : HashingInfo) (signers : SignerList)
      (choice : SignerChoice) (signer : SigningInfo),
      envelope.decodeHashingInfo = .ok hashing → envelope.decodeSigners = .ok signers →
      chooseSigner signers choice = .ok signer →
        SignedData.length hashing signer ≤
          envelope.hashingInfo.length + envelope.signingInfos.length + 8) ∧
    (∀ (fileSize : UInt64) (bytes : Bytes) (choice : SignerChoice) (maxSize : Nat),
      maxSize ≤ 4294967287 →
        (∀ length, verify primitives fileSize bytes choice maxSize ≠
          .error (.signedDataTooLarge length)) ∧
        ∀ hashing signer, Request.Selects { fileSize, bytes, choice, maxSize } hashing signer →
          ∃ data, signedData fileSize hashing signer = .ok data ∧ data.length ≤ maxSize + 8 ∧
            ∀ before field after, SignedData.fields hashing signer = before ++ field :: after →
              Bytes.toNatLE ((data.drop (SignedData.place before)).take 4) = field.length ∧
                (data.drop (SignedData.place before + 4)).take field.length = field) := by
  constructor
  · intro envelope hashing signers choice signer hashed listed chosen
    exact length_message_le hashed listed (chooseSigner_eq_ok_iff.mp chosen)
  · intro fileSize bytes choice maxSize small
    have room : maxSize + 8 ≤ Encoding.maxLength := Nat.add_le_add_right small 8
    constructor
    · intro length
      change Request.outcome primitives { fileSize, bytes, choice, maxSize } ≠ _
      exact outcome_ne_signedDataTooLarge room length
    · intro hashing signer selects
      have bounded := selects.length_le
      have within := Nat.le_trans bounded room
      have encoded : SignedData.encode? fileSize hashing signer = some _ :=
        SignedData.encode?_of_length_le within
      refine ⟨_, signedData_eq_ok_iff.mpr encoded, ?_, ?_⟩
      · rw [SignedData.length_layout]
        exact bounded
      · intro before field after split
        exact SignedData.field_of_split encoded split

theorem message_within_budget_largest :
    4294967287 ≤ 4294967287 ∧
      Request.Selects
        { fileSize := 7, bytes := sampleBytes, choice := .block 5, maxSize := 4294967287 }
        sampleHashing SignerList.sampleSigner ∧
      (∀ length, verify samplePrimitives 7 sampleBytes (.block 5) 4294967287 ≠
        .error (.signedDataTooLarge length)) ∧
      (∃ data, signedData 7 sampleHashing SignerList.sampleSigner = .ok data ∧
        data.length ≤ 4294967287 + 8) ∧
      SignedData.length sampleHashing SignerList.sampleSigner ≤ 15 + 72 + 8 := by
  obtain ⟨bounded, unrefused⟩ := message_within_budget samplePrimitives
  have opened := Envelope.decode_eq_ok_iff.mpr (sampleBytes_opens (by decide : 87 ≤ 4294967287))
  have listed := decode_sampleSigners SignerList.sampleSigner_fits sampleSigners_short
  have chosen := chooseSigner_eq_ok_iff.mpr
    (sampleSigners_means SignerList.sampleSigner_fits (.inr rfl))
  have selects : Request.Selects
      { fileSize := 7, bytes := sampleBytes, choice := .block 5, maxSize := 4294967287 }
      sampleHashing SignerList.sampleSigner :=
    ⟨_, _, opened, decode_sampleHashing, listed, chosen⟩
  obtain ⟨never, fields⟩ := unrefused 7 sampleBytes (.block 5) 4294967287 (Nat.le_refl _)
  obtain ⟨data, rebuilt, short, -⟩ := fields _ _ selects
  exact ⟨Nat.le_refl _, selects, never, ⟨data, rebuilt, short⟩,
    bounded (sampleEnvelope SignerList.sampleSigner) _ _ _ _ decode_sampleHashing listed chosen⟩

end Verification

end PackageSignature

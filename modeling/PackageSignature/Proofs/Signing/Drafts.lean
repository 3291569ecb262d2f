import PackageSignature.Proofs.Record.SignedData
import PackageSignature.Proofs.Signing.Keys
import PackageSignature.Proofs.Verification.Outcome

/-! Drafts of envelopes. Settings leave the key of a draft alone unless they replace it, and
blocks only ever come behind those that are there; what a draft of which every signer can sign
is built to is an envelope that opens, and its records are decoded to those of the draft. -/

namespace PackageSignature.Signing

variable {primitives : Primitives} {fileSize : UInt64} {key : SigningKey}
  {certificate : Certificate}

namespace SignerPlan

variable {plan : SignerPlan} {hashing : HashingInfo} {additionalData : Bytes}
  {signer : SigningInfo}

theorem exists_signature (signed : plan.sign? fileSize hashing additionalData = some signer) :
    ∃ data signature, SignedData.encode? fileSize hashing signer = some data ∧
      plan.key.sign? plan.algorithm data = some signature ∧
      signer = { plan.unsigned additionalData with signature } := by
  rw [sign?] at signed
  obtain ⟨data, rebuilt, rest⟩ := Option.bind_eq_some_iff.mp signed
  obtain ⟨signature, made, same⟩ := Option.bind_eq_some_iff.mp rest
  cases same
  exact ⟨data, signature, rebuilt, made, rfl⟩

theorem verify_of_signed {envelope : Envelope} {signers : SignerList} {bytes : Bytes}
    {choice : SignerChoice} {maxSize : Nat}
    (signed : plan.sign? fileSize hashing additionalData = some signer)
    (certified : plan.key.Certified primitives certificate)
    (own : plan.certificate = plan.key.certificate)
    (opens : envelope.Opens bytes maxSize)
    (hashed : HashingInfo.decode envelope.hashingInfo = .ok hashing)
    (listed : SignerList.decode envelope.signingInfos = .ok signers)
    (meant : signers.Means choice signer)
    (known : hashing.hashAlgorithm = HashingInfo.sha256) :
    Verification.verify primitives fileSize bytes choice maxSize =
      .ok
        { certificates := [certificate]
          apkDigest := plan.apkDigest
          contentDigests := [(.verityChunkedSha256, hashing.rootHash)] } := by
  obtain ⟨data, signature, rebuilt, made, rfl⟩ := exists_signature signed
  obtain ⟨verifying, decoded, accepted⟩ := certified.accepts made
  let request : Verification.Request := { fileSize, bytes, choice, maxSize }
  let records : Verification.Records :=
    { envelope, hashing, signers, signer := { plan.unsigned additionalData with signature },
      data, algorithm := plan.algorithm, key := verifying, certificate }
  have certificateRead : primitives.certificate plan.certificate = .ok certificate := by
    rw [own]
    exact certified.read
  have listedAlgorithm : plan.algorithm ∈ SignatureAlgorithm.all := by
    cases plan.algorithm <;> decide
  have passed : Verification.Passed primitives request records
      Verification.Check.order.length :=
    Verification.passed_iff.mpr ⟨opens, hashed, listed, meant, rebuilt,
      ⟨listedAlgorithm, rfl⟩, decoded, accepted, certificateRead, certified.carries, known⟩
  exact Verification.outcome_of_passed passed

end SignerPlan

namespace EnvelopeDraft

def Setting.overrides : Setting → Bool
  | .certificate _ | .publicKeyAfterSigning _ | .algorithmIdAfterSigning _ => true
  | _ => false

def Setting.block? : Setting → Option (UInt32 × SignerPlan)
  | .block blockId key digest => some (blockId, SignerPlan.ofKey key digest)
  | _ => none

/-- The draft is one of the key for a package of the size, with no field of the key replaced. -/
structure Belongs (key : SigningKey) (fileSize : UInt64) (draft : EnvelopeDraft) : Prop where
  fileSize : draft.fileSize = fileSize
  signer : draft.defaultSigner.key = key
  certificate : draft.defaultSigner.certificate = key.certificate
  publicKey : draft.publicKeyAfterSigning = none
  algorithmId : draft.algorithmIdAfterSigning = none

variable {draft : EnvelopeDraft} {setting : Setting} {settings : List Setting}

theorem start_belongs (key : SigningKey) (fileSize : UInt64) :
    (start key fileSize).Belongs key fileSize :=
  ⟨rfl, rfl, rfl, rfl, rfl⟩

theorem Belongs.set (belongs : draft.Belongs key fileSize) (keeps : setting.overrides = false) :
    (draft.set setting).Belongs key fileSize := by
  obtain ⟨size, signer, certificate, publicKey, algorithmId⟩ := belongs
  cases setting with
  | certificate bytes => cases keeps
  | publicKeyAfterSigning bytes => cases keeps
  | algorithmIdAfterSigning id => cases keeps
  | _ => exact ⟨size, signer, certificate, publicKey, algorithmId⟩

theorem Belongs.setAll (belongs : draft.Belongs key fileSize)
    (keep : ∀ setting ∈ settings, setting.overrides = false) :
    (draft.setAll settings).Belongs key fileSize := by
  induction settings generalizing draft with
  | nil => exact belongs
  | cons setting later ih =>
      obtain ⟨first, others⟩ := List.forall_mem_cons.mp keep
      exact ih (belongs.set first) others

theorem blocks_set (draft : EnvelopeDraft) (setting : Setting) :
    (draft.set setting).blocks = draft.blocks ++ setting.block?.toList := by
  cases setting with
  | block blockId key apkDigest => rfl
  | _ => exact (List.append_nil _).symm

theorem blocks_setAll (draft : EnvelopeDraft) (settings : List Setting) :
    (draft.setAll settings).blocks = draft.blocks ++ settings.filterMap Setting.block? := by
  induction settings generalizing draft with
  | nil => exact (List.append_nil _).symm
  | cons setting later ih =>
      have further := ih (draft.set setting)
      rw [setAll] at further
      rw [setAll, List.foldl_cons, further, blocks_set, List.append_assoc]
      cases added : setting.block? with
      | none => rw [List.filterMap_cons_none added, Option.toList_none, List.nil_append]
      | some block => rw [List.filterMap_cons_some added, Option.toList_some, List.singleton_append]

/-! ### The signers of a draft -/

structure Signs (draft : EnvelopeDraft) : Prop where
  default :
    (draft.defaultSigner.sign? draft.fileSize draft.hashing draft.additionalData).isSome = true
  blocks : ∀ block ∈ draft.blocks,
    (block.2.sign? draft.fileSize draft.hashing []).isSome = true

def entry (fileSize : UInt64) (hashing : HashingInfo) (block : UInt32 × SignerPlan) :
    SignerBlock where
  blockId := block.1
  signingInfo := ((block.2.sign? fileSize hashing []).map SigningInfo.toBytes).getD []

theorem entry_of_signed {hashing : HashingInfo} {block : UInt32 × SignerPlan}
    {signer : SigningInfo} (signed : block.2.sign? fileSize hashing [] = some signer) :
    entry fileSize hashing block = { blockId := block.1, signingInfo := signer.toBytes } := by
  rw [entry, signed, Option.map_some, Option.getD_some]

theorem foldlM_addBlock {hashing : HashingInfo} (blocks : List (UInt32 × SignerPlan))
    (signs : ∀ block ∈ blocks, (block.2.sign? fileSize hashing []).isSome = true)
    (signers : SignerList) :
    blocks.foldlM (fun signers block => do
        let signer ← block.2.sign? fileSize hashing []
        return signers.addBlock block.1 signer) signers =
      some { signers with
        blocks := signers.blocks ++ blocks.map (entry fileSize hashing) } := by
  induction blocks generalizing signers with
  | nil =>
      rw [List.foldlM_nil, List.map_nil, List.append_nil]
      rfl
  | cons block later ih =>
      obtain ⟨first, others⟩ := List.forall_mem_cons.mp signs
      obtain ⟨signer, signed⟩ := Option.isSome_iff_exists.mp first
      have further := ih others (signers.addBlock block.1 signer)
      rw [List.foldlM_cons, signed]
      exact further.trans (by
        rw [SignerList.addBlock, List.map_cons, entry_of_signed signed, List.append_assoc,
          List.singleton_append])

theorem exists_signers (belongs : draft.Belongs key fileSize) (signs : draft.Signs) :
    ∃ signer,
      draft.defaultSigner.sign? draft.fileSize draft.hashing draft.additionalData =
        some signer ∧
      draft.signers? = some
        { defaultSigner := signer.toBytes
          blocks := draft.blocks.map (entry draft.fileSize draft.hashing) } := by
  obtain ⟨signer, signed⟩ := Option.isSome_iff_exists.mp signs.default
  have default : draft.defaultSigningInfo? = some signer := by
    rw [defaultSigningInfo?, signed, belongs.publicKey, belongs.algorithmId]
    rfl
  refine ⟨signer, signed, ?_⟩
  rw [signers?, default]
  exact foldlM_addBlock draft.blocks signs.blocks (SignerList.ofDefault signer)

/-! ### The envelope of a draft -/

/-- The nested records keep to the limit. -/
def HasRoom (draft : EnvelopeDraft) (maxSize : Nat) : Prop :=
  ∀ envelope, draft.envelope? = some envelope →
    envelope.hashingInfo.length + envelope.signingInfos.length ≤ maxSize

theorem HasRoom.signersFit {maxSize : Nat} {envelope : Envelope} (room : draft.HasRoom maxSize)
    (tellable : Encoding.maxLength < maxSize → Encoding.Fits envelope.signingInfos)
    (enveloped : draft.envelope? = some envelope) : Encoding.Fits envelope.signingInfos := by
  have within := room envelope enveloped
  by_cases limit : maxSize ≤ Encoding.maxLength
  · exact Nat.le_trans (Nat.le_add_left _ _) (Nat.le_trans within limit)
  · exact tellable (Nat.lt_of_not_le limit)

structure Holds (draft : EnvelopeDraft) (maxSize : Nat) (bytes : Bytes) (envelope : Envelope)
    (signers : SignerList) (signer : SigningInfo) : Prop where
  built : draft.build? = some bytes
  opens : envelope.Opens bytes maxSize
  hashed : HashingInfo.decode envelope.hashingInfo = .ok draft.hashing
  listed : SignerList.decode envelope.signingInfos = .ok signers
  signed : draft.defaultSigner.sign? draft.fileSize draft.hashing draft.additionalData =
    some signer
  default : signers.defaultSigner = signer.toBytes
  blocks : signers.blocks = draft.blocks.map (entry draft.fileSize draft.hashing)

theorem exists_holds {maxSize : Nat} (belongs : draft.Belongs key fileSize)
    (version : draft.version = 2) (signs : draft.Signs) (room : draft.HasRoom maxSize)
    (tellable : Encoding.maxLength < maxSize → ∀ envelope, draft.envelope? = some envelope →
      Encoding.Fits envelope.signingInfos) :
    ∃ bytes envelope signers signer, draft.Holds maxSize bytes envelope signers signer := by
  obtain ⟨signer, signed, listed⟩ := exists_signers belongs signs
  obtain ⟨data, signature, rebuilt, -, rfl⟩ := SignerPlan.exists_signature signed
  obtain ⟨dataWithin, -⟩ := SignedData.encode?_eq_some_iff.mp rebuilt
  obtain ⟨⟨saltFits, rootFits⟩, -⟩ := SignedData.fits_of_length_le dataWithin
  let record := { draft.defaultSigner.unsigned draft.additionalData with signature }
  let signers : SignerList :=
    { defaultSigner := record.toBytes
      blocks := draft.blocks.map (entry draft.fileSize draft.hashing) }
  let envelope : Envelope :=
    { version := draft.version
      hashingInfo := draft.hashing.toBytes
      signingInfos := signers.toBytes }
  have enveloped : draft.envelope? = some envelope := by
    rw [envelope?, listed]
    rfl
  have signersFit : Encoding.Fits signers.toBytes :=
    room.signersFit (fun above => tellable above envelope enveloped) enveloped
  have hashingFits : Encoding.Fits draft.hashing.toBytes := by
    rw [SignedData.length] at dataWithin
    rw [Encoding.Fits, HashingInfo.length_toBytes]
    omega
  have built : draft.build? = some (envelope.toBytes ++ draft.trailing) := by
    rw [build?, enveloped]
    rfl
  have opens : envelope.Opens (envelope.toBytes ++ draft.trailing) maxSize :=
    { supported := Envelope.mem_supportedVersions_iff.mpr version
      hashingFits
      signersFit
      withinBudget := room envelope enveloped
      atHead := List.prefix_append _ _ }
  have hashed : HashingInfo.decode draft.hashing.toBytes = .ok draft.hashing :=
    HashingInfo.exact_read.decode_eq_ok.mpr ⟨⟨saltFits, rootFits⟩, List.prefix_rfl⟩
  have decoded : SignerList.decode signers.toBytes = .ok signers :=
    SignerList.decode_eq_ok_iff.mpr ⟨SignerList.encodable_of_length_le rfl signersFit, rfl⟩
  exact ⟨_, envelope, signers, record, built, opens, hashed, decoded, signed, rfl, rfl⟩

variable {maxSize : Nat} {bytes : Bytes} {envelope : Envelope} {signers : SignerList}
  {signer : SigningInfo}

theorem Holds.signersFit (holds : draft.Holds maxSize bytes envelope signers signer) :
    Encoding.Fits signers.toBytes := by
  obtain ⟨-, same⟩ := SignerList.decode_eq_ok_iff.mp holds.listed
  rw [← same]
  exact holds.opens.signersFit

theorem Holds.means_default (holds : draft.Holds maxSize bytes envelope signers signer) :
    signers.Means .default signer := by
  have fits : Encoding.Fits signers.defaultSigner :=
    Nat.le_trans signers.length_defaultSigner_le holds.signersFit
  rw [SignerList.Means, SignerList.decodeDefault]
  rw [holds.default] at fits ⊢
  exact SigningInfo.decode_toBytes fits

theorem Holds.means_block (holds : draft.Holds maxSize bytes envelope signers signer)
    {before after : List (UInt32 × SignerPlan)} {blockId : UInt32} {plan : SignerPlan}
    {info : SigningInfo} (split : draft.blocks = before ++ (blockId, plan) :: after)
    (others : ∀ earlier ∈ before, earlier.1 ≠ blockId)
    (signed : plan.sign? draft.fileSize draft.hashing [] = some info) :
    signers.Means (.block blockId) info := by
  let written := entry draft.fileSize draft.hashing
  have here : written (blockId, plan) = { blockId, signingInfo := info.toBytes } :=
    entry_of_signed signed
  have listed : signers.blocks =
      before.map written ++ { blockId, signingInfo := info.toBytes } :: after.map written := by
    rw [holds.blocks, split, List.map_append, List.map_cons, ← here]
  have member : { blockId, signingInfo := info.toBytes } ∈ signers.blocks := by
    rw [listed]
    exact List.mem_append_right _ List.mem_cons_self
  have fits : Encoding.Fits info.toBytes :=
    Nat.le_trans (SignerList.length_signingInfo_le member) holds.signersFit
  refine ⟨_, _, _, listed, ?_, rfl, SigningInfo.decode_toBytes fits⟩
  intro earlier inFront
  obtain ⟨block, added, rfl⟩ := List.mem_map.mp inFront
  exact others block added

end EnvelopeDraft

end PackageSignature.Signing

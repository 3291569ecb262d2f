import PackageSignature.Proofs.Rsa.Pss
import PackageSignature.Proofs.Signing.Drafts

/-! Envelopes that are built are envelopes that are accepted. Whatever is set and in whatever
order, signing happens last and over what is set by then; so as long as nothing is replaced
behind the signature, each signer of the envelope verifies with its own certificate. -/

namespace PackageSignature.Signing.EnvelopeDraft

variable {draft : EnvelopeDraft} {settings : List Setting}

def Setting.adds (blockId : UInt32) : Setting → Bool
  | .block added _ _ => added == blockId
  | _ => false

theorem exists_first_block {blockId : UInt32}
    (added : ∃ setting ∈ settings, setting.adds blockId = true) :
    ∃ before blockKey apkDigest after,
      settings = before ++ .block blockId blockKey apkDigest :: after ∧
        ∀ earlier ∈ before, earlier.adds blockId = false := by
  obtain ⟨first, found⟩ := Option.isSome_iff_exists.mp (List.find?_isSome.mpr added)
  obtain ⟨adds, before, after, split, others⟩ := List.find?_eq_some_iff_append.mp found
  have none : ∀ earlier ∈ before, earlier.adds blockId = false :=
    fun earlier inFront => Bool.not_eq_eq_eq_not.mp (others earlier inFront)
  cases first with
  | block other blockKey apkDigest =>
      cases beq_iff_eq.mp adds
      exact ⟨before, blockKey, apkDigest, after, split, none⟩
  | _ => cases adds

theorem ne_of_no_adds {blockId : UInt32}
    (none : ∀ earlier ∈ settings, earlier.adds blockId = false) :
    ∀ block ∈ settings.filterMap Setting.block?, block.1 ≠ blockId := by
  intro block member
  obtain ⟨setting, listed, same⟩ := List.mem_filterMap.mp member
  have different := none setting listed
  cases setting with
  | block added key apkDigest =>
      cases same
      exact beq_eq_false_iff_ne.mp different
  | _ => cases same

/-- Every envelope that is built is accepted. Start from a certified key and set anything in
any order, with blocks of certified keys and without replacing what belongs to the key: if
the version and the hash algorithm end up as the supported ones, every signer can sign and
the records have room, then an envelope is built. Only a limit beyond what a length field can
tell asks for more, that the length field of the signers can tell theirs. By default it is accepted with the
certificate of the key, the digest of the package and the root hash that are set by then;
and for the id of any block that was added it is accepted with the certificate and the
digest of the first such block. -/
theorem every_built_envelope_accepted (primitives : Primitives) (key : SigningKey)
    (fileSize : UInt64) (settings : List Setting) (maxSize : Nat) {certificate : Certificate}
    {draft : EnvelopeDraft} (reached : draft = (start key fileSize).setAll settings)
    (certified : key.Certified primitives certificate)
    (blocksCertified : ∀ blockId blockKey apkDigest,
      Setting.block blockId blockKey apkDigest ∈ settings →
        ∃ certificate, blockKey.Certified primitives certificate)
    (keep : ∀ setting ∈ settings, setting.overrides = false)
    (version : draft.version = 2)
    (known : draft.hashing.hashAlgorithm = HashingInfo.sha256)
    (signs : draft.Signs) (room : draft.HasRoom maxSize)
    (tellable : Encoding.maxLength < maxSize → ∀ envelope, draft.envelope? = some envelope →
      Encoding.Fits envelope.signingInfos) :
    ∃ bytes, draft.build? = some bytes ∧
      primitives.certificate draft.defaultSigner.certificate = .ok certificate ∧
      Verification.verify primitives fileSize bytes .default maxSize =
        .ok
          { certificates := [certificate]
            apkDigest := draft.defaultSigner.apkDigest
            contentDigests := [(.verityChunkedSha256, draft.hashing.rootHash)] } ∧
      ∀ blockId, (∃ setting ∈ settings, setting.adds blockId = true) →
        ∃ before blockKey apkDigest after blockCertificate,
          settings = before ++ .block blockId blockKey apkDigest :: after ∧
          (∀ earlier ∈ before, earlier.adds blockId = false) ∧
          primitives.certificate blockKey.certificate = .ok blockCertificate ∧
          Verification.verify primitives fileSize bytes (.block blockId) maxSize =
            .ok
              { certificates := [blockCertificate]
                apkDigest
                contentDigests := [(.verityChunkedSha256, draft.hashing.rootHash)] } := by
  have belongs : draft.Belongs key fileSize := by
    rw [reached]
    exact (start_belongs key fileSize).setAll keep
  have blocks : draft.blocks = settings.filterMap Setting.block? := by
    rw [reached, blocks_setAll]
    rfl
  obtain ⟨bytes, envelope, signers, signer, holds⟩ := exists_holds belongs version signs room
    tellable
  have size := belongs.fileSize
  subst size
  refine ⟨bytes, holds.built, ?_, ?_, ?_⟩
  · rw [belongs.certificate]
    exact certified.read
  · have own : draft.defaultSigner.certificate = draft.defaultSigner.key.certificate := by
      rw [belongs.certificate, belongs.signer]
    rw [← belongs.signer] at certified
    exact SignerPlan.verify_of_signed holds.signed certified own holds.opens holds.hashed
      holds.listed holds.means_default known
  · intro blockId added
    obtain ⟨before, blockKey, apkDigest, after, split, none⟩ := exists_first_block added
    have member : Setting.block blockId blockKey apkDigest ∈ settings := by
      rw [split]
      exact List.mem_append_right _ List.mem_cons_self
    obtain ⟨blockCertificate, blockCertified⟩ := blocksCertified _ _ _ member
    let plan := SignerPlan.ofKey blockKey apkDigest
    have inDraft : draft.blocks = before.filterMap Setting.block? ++
        (blockId, plan) :: after.filterMap Setting.block? := by
      rw [blocks, split, List.filterMap_append]
      rfl
    have planned : (blockId, plan) ∈ draft.blocks := by
      rw [inDraft]
      exact List.mem_append_right _ List.mem_cons_self
    obtain ⟨info, signed⟩ := Option.isSome_iff_exists.mp (signs.blocks _ planned)
    have meant := holds.means_block inDraft (ne_of_no_adds none) signed
    exact ⟨before, blockKey, apkDigest, after, blockCertificate, split, none,
      blockCertified.read,
      SignerPlan.verify_of_signed signed blockCertified rfl holds.opens holds.hashed
        holds.listed meant known⟩

/-! ### A sample draft -/

theorem standard_serves {key : Rsa.PublicKey} {exponent p q : Nat}
    (inverts : key.Inverts exponent p q)
    (read : SubjectKey.decode? (SubjectKey.encode SubjectKey.rsaAlgorithm key.toBytes) =
      some (SubjectKey.ofBytes SubjectKey.rsaAlgorithm key.toBytes))
    (pair : Rsa.PublicKey.decode? key.toBytes = some key) (limits : key.check = .ok key) :
    Primitives.standard.Serves (.rsa key exponent) := by
  refine .rsa ?_ ?_ limits ?_ ?_
  · simp only [Primitives.standard, Primitives.orMalformed, read]
  · simp only [Primitives.standard, Primitives.orMalformed, pair]
  · intro digest hash signature signed
    exact inverts.pkcs1_holds signed
  · intro digest salt hash signature signed
    exact inverts.pss_holds signed

def samplePrivateKey : PrivateKey :=
  .rsa Rsa.PublicKey.sampleKey Rsa.PublicKey.sampleExponent

theorem samplePrivateKey_served : Primitives.standard.Serves samplePrivateKey :=
  standard_serves Rsa.PublicKey.sampleKey_inverts (by decide +kernel) (by decide +kernel)
    (by decide +kernel)

def sampleValidity : Validity where
  notBefore := { year := 2024, month := 1, day := 1, hour := 0, minute := 0, second := 0 }
  notAfter := { year := 2024, month := 1, day := 2, hour := 0, minute := 0, second := 0 }

def sampleRandomness : Bytes :=
  List.replicate 32 0x07

def sampleSigningKey : SigningKey where
  publicKey := SubjectKey.encode SubjectKey.rsaAlgorithm Rsa.PublicKey.sampleKey.toBytes
  certificate :=
    (issueFor? (SubjectKey.encode SubjectKey.rsaAlgorithm Rsa.PublicKey.sampleKey.toBytes)
      defaultSubject sampleValidity).getD []
  defaultAlgorithm := samplePrivateKey.defaultAlgorithm
  sign? := samplePrivateKey.sign? sampleRandomness

theorem sampleSigningKey_made :
    samplePrivateKey.signingKey? sampleValidity sampleRandomness = some sampleSigningKey := by
  have issued : (issueFor? (SubjectKey.encode SubjectKey.rsaAlgorithm
      Rsa.PublicKey.sampleKey.toBytes) defaultSubject sampleValidity).isSome = true := by
    decide +kernel
  obtain ⟨certificate, made⟩ := Option.isSome_iff_exists.mp issued
  have published : samplePrivateKey.publicKey? =
      some (SubjectKey.encode SubjectKey.rsaAlgorithm Rsa.PublicKey.sampleKey.toBytes) := rfl
  rw [PrivateKey.signingKey?, published, sampleSigningKey]
  simp only [Option.bind_eq_bind, Option.bind_some, made, Option.getD_some]
  rfl

theorem sampleSigningKey_certified :
    ∃ certificate, sampleSigningKey.Certified Primitives.standard certificate := by
  have read : (Certificate.decode? sampleSigningKey.certificate).map
      Certificate.subjectKey = some sampleSigningKey.publicKey := by
    decide +kernel
  obtain ⟨certificate, decoded, carries⟩ := Option.map_eq_some_iff.mp read
  exact ⟨certificate, ⟨_, _, _, samplePrivateKey_served, sampleSigningKey_made⟩,
    congrArg Primitives.orMalformed decoded, carries⟩

/-- The settings of a sample draft. The algorithm and the root hash are set behind the blocks,
of which the first two have the same id. -/
def sampleSettings : List Setting :=
  [.trailing [0xff], .block 3 sampleSigningKey [0xb1], .rootHash [0x01],
    .block 3 sampleSigningKey [0xb2], .apkDigest [0xd1], .algorithm .rsaPssSha256,
    .block 5 sampleSigningKey [0xb3], .rootHash [0x02], .additionalData [0xad]]

def sampleDraft : EnvelopeDraft :=
  (start sampleSigningKey 4096).setAll sampleSettings

theorem sampleDraft_signs : sampleDraft.Signs where
  default := by decide +kernel
  blocks := by decide +kernel

theorem sampleDraft_hasRoom : sampleDraft.HasRoom 8096 := by
  have within : sampleDraft.envelope?.all (fun envelope => decide
      (envelope.hashingInfo.length + envelope.signingInfos.length ≤ 8096)) = true := by
    decide +kernel
  intro envelope enveloped
  rw [enveloped] at within
  exact of_decide_eq_true within

theorem every_built_envelope_accepted_repeated_block :
    ∃ certificate bytes, sampleDraft.build? = some bytes ∧
      Primitives.standard.certificate sampleSigningKey.certificate = .ok certificate ∧
      Verification.verify Primitives.standard 4096 bytes .default 8096 =
        .ok
          { certificates := [certificate]
            apkDigest := [0xd1]
            contentDigests := [(.verityChunkedSha256, [0x02])] } ∧
      Verification.verify Primitives.standard 4096 bytes (.block 3) 8096 =
        .ok
          { certificates := [certificate]
            apkDigest := [0xb1]
            contentDigests := [(.verityChunkedSha256, [0x02])] } := by
  obtain ⟨certificate, certified⟩ := sampleSigningKey_certified
  have blocksCertified : ∀ blockId blockKey apkDigest,
      Setting.block blockId blockKey apkDigest ∈ sampleSettings →
        ∃ certificate, blockKey.Certified Primitives.standard certificate := by
    intro blockId blockKey apkDigest listed
    have same : blockKey = sampleSigningKey := by
      simp only [sampleSettings, List.mem_cons, Setting.block.injEq, reduceCtorEq,
        List.not_mem_nil, false_or, or_false] at listed
      rcases listed with ⟨-, same, -⟩ | ⟨-, same, -⟩ | ⟨-, same, -⟩ <;> exact same
    rw [same]
    exact ⟨certificate, certified⟩
  have reached : sampleDraft = (start sampleSigningKey 4096).setAll sampleSettings := rfl
  obtain ⟨bytes, built, read, byDefault, byBlock⟩ :=
    every_built_envelope_accepted Primitives.standard sampleSigningKey 4096 sampleSettings 8096
      reached certified blocksCertified (by decide +kernel) rfl rfl sampleDraft_signs
      sampleDraft_hasRoom (fun above => absurd above (by decide))
  have added : ∃ setting ∈ sampleSettings, setting.adds 3 = true :=
    ⟨_, List.mem_cons_of_mem _ List.mem_cons_self, rfl⟩
  obtain ⟨before, blockKey, apkDigest, after, blockCertificate, split, none, blockRead,
    accepted⟩ := byBlock 3 added
  have first : sampleSettings.find? (Setting.adds 3) = some (.block 3 blockKey apkDigest) :=
    List.find?_eq_some_iff_append.mpr
      ⟨rfl, before, after, split, fun earlier inFront => by rw [none earlier inFront]; rfl⟩
  have expected : sampleSettings.find? (Setting.adds 3) =
      some (.block 3 sampleSigningKey [0xb1]) := rfl
  rw [expected] at first
  obtain ⟨-, rfl, rfl⟩ := Setting.block.inj (Option.some.inj first)
  obtain rfl := Except.ok.inj (certified.read.symm.trans blockRead)
  exact ⟨certificate, bytes, built, certified.read, byDefault, accepted⟩

end PackageSignature.Signing.EnvelopeDraft

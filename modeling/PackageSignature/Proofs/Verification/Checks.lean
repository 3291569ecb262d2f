import PackageSignature.Proofs.Verification.Stages

/-! The checks of a verification, one by one and in the order in which they are made.
A check that holds hands a record on to the checks behind it; a check that does not hold
reports a failure that follows from the little it looks at. Each stage of the run fails
with the failure of its check. -/

namespace PackageSignature

namespace Verification

/-- What the checks hand on. Where a verification stops early, the records of the checks
that are not made are of no account. -/
structure Records where
  envelope : Envelope
  hashing : HashingInfo
  signers : SignerList
  signer : SigningInfo
  data : Bytes
  algorithm : SignatureAlgorithm
  key : PublicKey
  certificate : Certificate

inductive Check where
  | presence
  | versionField
  | version
  | hashingLength
  | signersLength
  | hashingRecord
  | signerRecords
  | selection
  | dataSize
  | algorithm
  | key
  | signature
  | certificate
  | keyMatch
  | hashAlgorithm
deriving DecidableEq, Repr

namespace Check

def order : List Check :=
  [presence, versionField, version, hashingLength, signersLength, hashingRecord, signerRecords,
    selection, dataSize, algorithm, key, signature, certificate, keyMatch, hashAlgorithm]

def rank (check : Check) : Nat :=
  order.idxOf check

theorem order_rank (check : Check) : order[check.rank]? = some check := by
  cases check <;> rfl

theorem rank_injective {first second : Check} (same : first.rank = second.rank) :
    first = second := by
  have found := order_rank first
  rw [same, order_rank second] at found
  exact (Option.some.inj found).symm

theorem rank_lt (check : Check) : check.rank < order.length :=
  (List.getElem?_eq_some_iff.mp (order_rank check)).1

theorem exists_rank {place : Nat} (within : place < order.length) :
    ∃ check : Check, check.rank = place := by
  have distinct : order.Nodup := by decide
  exact ⟨order[place], distinct.idxOf_getElem place within⟩

end Check

variable (primitives : Primitives)

/-- The check is passed, and its record is as stated. -/
def Holds (request : Request) (records : Records) : Check → Prop
  | .presence => request.bytes ≠ []
  | .versionField => ∃ rest, request.bytes = Encoding.u32 records.envelope.version ++ rest
  | .version => records.envelope.version ∈ Envelope.supportedVersions
  | .hashingLength =>
      Encoding.Fits records.envelope.hashingInfo ∧
        records.envelope.hashingInfo.length ≤ request.maxSize ∧
        ∃ rest, request.bytes = Encoding.u32 records.envelope.version ++
          Encoding.prefixed records.envelope.hashingInfo ++ rest
  | .signersLength => records.envelope.Opens request.bytes request.maxSize
  | .hashingRecord => HashingInfo.decode records.envelope.hashingInfo = .ok records.hashing
  | .signerRecords => SignerList.decode records.envelope.signingInfos = .ok records.signers
  | .selection => records.signers.Means request.choice records.signer
  | .dataSize =>
      SignedData.encode? request.fileSize records.hashing records.signer = some records.data
  | .algorithm =>
      records.algorithm ∈ SignatureAlgorithm.all ∧
        records.algorithm.id = records.signer.signatureAlgorithmId
  | .key =>
      PublicKey.decode primitives records.algorithm.family records.signer.publicKey =
        .ok records.key
  | .signature =>
      checkSignature primitives records.algorithm records.key records.data
        records.signer.signature = .ok ()
  | .certificate => primitives.certificate records.signer.certificate = .ok records.certificate
  | .keyMatch => records.certificate.subjectKey = records.signer.publicKey
  | .hashAlgorithm => records.hashing.hashAlgorithm = HashingInfo.sha256

def Passed (request : Request) (records : Records) (place : Nat) : Prop :=
  ∀ check : Check, check.rank < place → Holds primitives request records check

/-! ### What a check looks at -/

/-- All that the verdict of a check depends on. -/
inductive Look where
  | presence (isEmpty : Bool)
  | versionField (head : Bytes)
  | version (version : UInt32)
  | length (field : Field) (limit : Nat) (head : Bytes) (behind : Nat)
  | hashingRecord (encoded : Bytes)
  | signerRecords (encoded : Bytes)
  | defaultSigner (encoded : Bytes)
  | blockSigner (blockId : UInt32) (found : Option Bytes)
  | dataSize (length : Nat)
  | algorithm (id : UInt32)
  | key (family : KeyFamily) (encoded : Bytes)
  | signature (algorithm : SignatureAlgorithm) (key : PublicKey) (data signature : Bytes)
  | certificate (encoded : Bytes)
  | keyMatch (certified recorded : Bytes)
  | hashAlgorithm (id : UInt32)

def lookAtLength (field : Field) (limit : Nat) (rest : Bytes) : Look :=
  .length field limit (rest.take 4) (rest.drop 4).length

def lookAtSigner (signers : SignerList) : SignerChoice → Look
  | .default => .defaultSigner signers.defaultSigner
  | .block blockId => .blockSigner blockId ((signers.find? blockId).map (·.signingInfo))

def look (request : Request) (records : Records) : Check → Look
  | .presence => .presence request.bytes.isEmpty
  | .versionField => .versionField (request.bytes.take 4)
  | .version => .version records.envelope.version
  | .hashingLength => lookAtLength .hashingInfo request.maxSize (request.bytes.drop 4)
  | .signersLength =>
      lookAtLength .signingInfos (request.maxSize - records.envelope.hashingInfo.length)
        (request.bytes.drop (8 + records.envelope.hashingInfo.length))
  | .hashingRecord => .hashingRecord records.envelope.hashingInfo
  | .signerRecords => .signerRecords records.envelope.signingInfos
  | .selection => lookAtSigner records.signers request.choice
  | .dataSize => .dataSize (SignedData.length records.hashing records.signer)
  | .algorithm => .algorithm records.signer.signatureAlgorithmId
  | .key => .key records.algorithm.family records.signer.publicKey
  | .signature =>
      .signature records.algorithm records.key records.data records.signer.signature
  | .certificate => .certificate records.signer.certificate
  | .keyMatch => .keyMatch records.certificate.subjectKey records.signer.publicKey
  | .hashAlgorithm => .hashAlgorithm records.hashing.hashAlgorithm

def errorOf {ε α : Type} : Except ε α → Option ε
  | .error error => some error
  | .ok _ => none

def failure : Look → Option VerifyError
  | .presence isEmpty => if isEmpty then some .emptySignature else none
  | .versionField head =>
      if head.length < 4 then some (.decode (.truncated .version 4 head.length)) else none
  | .version version =>
      if version ∈ Envelope.supportedVersions then none else some (.unsupportedVersion version)
  | .length field limit head behind => (Reader.lengthFault field limit head behind).map .decode
  | .hashingRecord encoded => (errorOf (HashingInfo.decode encoded)).map .decode
  | .signerRecords encoded => (errorOf (SignerList.decode encoded)).map .decode
  | .defaultSigner encoded => (errorOf (SigningInfo.decode encoded)).map .decode
  | .blockSigner blockId none => some (.signerBlockNotFound blockId)
  | .blockSigner blockId (some encoded) =>
      (errorOf (SigningInfo.decode encoded)).map (.signerBlock blockId)
  | .dataSize length =>
      if length ≤ Encoding.maxLength then none else some (.signedDataTooLarge length)
  | .algorithm id =>
      if ∃ algorithm ∈ SignatureAlgorithm.all, algorithm.id = id then none
      else some (.unsupportedAlgorithm id)
  | .key family encoded =>
      (errorOf (PublicKey.decode primitives family encoded)).map (.invalidPublicKey family)
  | .signature algorithm key data signature =>
      errorOf (checkSignature primitives algorithm key data signature)
  | .certificate encoded => (errorOf (primitives.certificate encoded)).map .invalidCertificate
  | .keyMatch certified recorded =>
      if certified = recorded then none else some .publicKeyMismatch
  | .hashAlgorithm id =>
      if id = HashingInfo.sha256 then none else some (.unsupportedHashAlgorithm id)

variable {primitives}

theorem of_ite_eq_none {ε : Type} {condition : Prop} {_ : Decidable condition} {error : ε}
    (sound : (if condition then none else some error) = none) : condition := by
  split at sound
  · assumption
  · cases sound

theorem errorOf_eq_some_iff {ε α : Type} {result : Except ε α} {error : ε} :
    errorOf result = some error ↔ result = .error error := by
  cases result with
  | ok value => simp only [errorOf, reduceCtorEq]
  | error same => simp only [errorOf, Option.some.injEq, Except.error.injEq]

theorem errorOf_eq_none_iff {ε α : Type} {result : Except ε α} :
    errorOf result = none ↔ ∃ value, result = .ok value := by
  cases result with
  | ok value => simp only [errorOf, Except.ok.injEq, exists_eq']
  | error error => simp only [errorOf, reduceCtorEq, exists_false]

theorem errorOf_mapError {ε ε' α : Type} (result : Except ε α) (change : ε → ε') :
    errorOf (result.mapError change) = (errorOf result).map change := by
  cases result with
  | ok value => rfl
  | error error => rfl

theorem errorOf_chooseSigner (signers : SignerList) (choice : SignerChoice) :
    errorOf (chooseSigner signers choice) = failure primitives (lookAtSigner signers choice) := by
  cases choice with
  | default => exact errorOf_mapError _ _
  | block blockId =>
      rw [chooseSigner, lookAtSigner]
      cases signers.find? blockId with
      | none => rfl
      | some block => exact errorOf_mapError _ _

theorem errorOf_signedData (fileSize : UInt64) (hashing : HashingInfo) (signer : SigningInfo) :
    errorOf (signedData fileSize hashing signer) =
      failure primitives (.dataSize (SignedData.length hashing signer)) := by
  rw [signedData, SignedData.encode?, failure]
  by_cases fits : SignedData.length hashing signer ≤ Encoding.maxLength
  · simp only [if_pos fits, errorOf]
  · simp only [if_neg fits, errorOf]

theorem errorOf_resolveAlgorithm (id : UInt32) :
    errorOf (resolveAlgorithm id) = failure primitives (.algorithm id) := by
  rw [failure, resolveAlgorithm]
  cases found : SignatureAlgorithm.ofId? id with
  | some algorithm =>
      rw [if_pos ⟨algorithm, SignatureAlgorithm.ofId?_eq_some_iff.mp found⟩]
      rfl
  | none =>
      have unlisted : ¬ ∃ algorithm ∈ SignatureAlgorithm.all, algorithm.id = id := by
        rintro ⟨algorithm, listed⟩
        rw [SignatureAlgorithm.ofId?_eq_some_iff.mpr listed] at found
        cases found
      rw [if_neg unlisted]
      rfl

theorem errorOf_vouch (certificate : Certificate) (signer : SigningInfo) (hashing : HashingInfo) :
    errorOf (vouch certificate signer hashing) =
      failure primitives (.hashAlgorithm hashing.hashAlgorithm) := by
  rw [vouch, ContentDigest.ofHashAlgorithm, failure]
  by_cases known : hashing.hashAlgorithm = HashingInfo.sha256
  · simp only [if_pos known, ok_bind]
    rfl
  · simp only [if_neg known, error_bind, errorOf]

end Verification

end PackageSignature

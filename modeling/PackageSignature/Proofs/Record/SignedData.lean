import PackageSignature.Proofs.Record.Signer
import PackageSignature.Record.SignedData

/-! The signed data tells what was signed. Each field either has a fixed width or stands
behind its length, so a parser that knows no more than the layout finds the size of the
package and every field except the signature, whatever comes behind them. Two signed data of
which one is a beginning of the other are then signed for the same thing. -/

namespace PackageSignature

namespace Encoding

theorem toNatLE_take_prefixed_eq_iff {bytes : Bytes} :
    Bytes.toNatLE ((prefixed bytes).take 4) = bytes.length ↔ Fits bytes := by
  have small : min bytes.length maxLength < Bytes.capacity 4 :=
    Nat.lt_of_le_of_lt (Nat.min_le_right _ _) (by decide)
  rw [prefixed, List.take_left' (Bytes.length_ofNatLE 4 _), Bytes.toNatLE_ofNatLE,
    Nat.mod_eq_of_lt small]
  unfold Fits
  omega

end Encoding

namespace SignedData

variable {fileSize fileSize' : UInt64} {hashing hashing' : HashingInfo}
  {signer signer' : SigningInfo} {data data' : Bytes}

theorem encode?_eq_some_iff :
    encode? fileSize hashing signer = some data ↔
      length hashing signer ≤ Encoding.maxLength ∧
        data = layout (UInt32.ofNat (length hashing signer)) fileSize hashing signer := by
  rw [encode?]
  by_cases within : length hashing signer ≤ Encoding.maxLength
  · rw [if_pos within]
    simp only [Option.some.injEq, within, true_and]
    exact eq_comm
  · rw [if_neg within]
    simp only [reduceCtorEq, within, false_and]

theorem encode?_of_length_le (within : length hashing signer ≤ Encoding.maxLength) :
    encode? fileSize hashing signer =
      some (layout (UInt32.ofNat (length hashing signer)) fileSize hashing signer) :=
  if_pos within

theorem fits_of_length_le (within : length hashing signer ≤ Encoding.maxLength) :
    (Encoding.Fits hashing.salt ∧ Encoding.Fits hashing.rootHash) ∧
      Encoding.Fits signer.apkDigest ∧ Encoding.Fits signer.certificate ∧
      Encoding.Fits signer.additionalData ∧ Encoding.Fits signer.publicKey := by
  unfold length at within
  unfold Encoding.Fits
  omega

def fields (hashing : HashingInfo) (signer : SigningInfo) : List Bytes :=
  [hashing.salt, hashing.rootHash, signer.apkDigest, signer.certificate, signer.additionalData,
    signer.publicKey]

theorem fits_of_mem_fields (within : length hashing signer ≤ Encoding.maxLength) {field : Bytes}
    (listed : field ∈ fields hashing signer) : Encoding.Fits field := by
  obtain ⟨⟨saltFits, rootFits⟩, digestFits, certificateFits, dataFits, keyFits⟩ :=
    fits_of_length_le within
  simp only [fields, List.mem_cons, List.not_mem_nil, or_false] at listed
  rcases listed with rfl | rfl | rfl | rfl | rfl | rfl <;> assumption

/-- Where the field behind these fields stands. -/
def place : List Bytes → Nat
  | [] => 17
  | field :: rest => 4 + field.length + place rest

theorem place_eq (before : List Bytes) :
    place before = 17 + (before.flatMap Encoding.prefixed).length := by
  induction before with
  | nil => rfl
  | cons field rest ih =>
      rw [place, ih, List.flatMap_cons, List.length_append, Encoding.length_prefixed]
      omega

theorem drop_layout {before after : List Bytes} {field : Bytes}
    (split : fields hashing signer = before ++ field :: after) (total : UInt32) :
    (layout total fileSize hashing signer).drop (place before) =
      Encoding.prefixed field ++
        (after.flatMap Encoding.prefixed ++ Encoding.u32 signer.signatureAlgorithmId) := by
  have written : (fields hashing signer).flatMap Encoding.prefixed =
      before.flatMap Encoding.prefixed ++
        (Encoding.prefixed field ++ after.flatMap Encoding.prefixed) := by
    rw [split, List.flatMap_append, List.flatMap_cons]
  have whole : layout total fileSize hashing signer =
      Encoding.u32 total ++ Encoding.u64 fileSize ++ Encoding.u32 hashing.hashAlgorithm ++
        [hashing.log2BlockSize] ++ ((fields hashing signer).flatMap Encoding.prefixed ++
          Encoding.u32 signer.signatureAlgorithmId) := by
    simp only [layout, fields, List.flatMap_cons, List.flatMap_nil, List.append_assoc,
      List.nil_append]
  have opening : (Encoding.u32 total ++ Encoding.u64 fileSize ++
      Encoding.u32 hashing.hashAlgorithm ++ [hashing.log2BlockSize]).length = 17 := rfl
  rw [whole, place_eq, ← List.drop_drop, List.drop_left' opening, written, List.append_assoc,
    List.drop_left, List.append_assoc]

/-- Each field stands where the fields before it end, behind the length that it has. -/
theorem field_of_split (encoded : encode? fileSize hashing signer = some data)
    {before after : List Bytes} {field : Bytes}
    (split : fields hashing signer = before ++ field :: after) :
    Bytes.toNatLE ((data.drop (place before)).take 4) = field.length ∧
      (data.drop (place before + 4)).take field.length = field := by
  obtain ⟨within, rfl⟩ := encode?_eq_some_iff.mp encoded
  have listed : field ∈ fields hashing signer := by
    rw [split]
    exact List.mem_append_right _ List.mem_cons_self
  have told := Encoding.toNatLE_take_prefixed_eq_iff.mpr (fits_of_mem_fields within listed)
  have lengthField := Bytes.length_ofNatLE 4 (min field.length Encoding.maxLength)
  rw [← List.drop_drop, drop_layout split]
  rw [Encoding.prefixed, List.take_left' lengthField] at told
  constructor
  · rw [Encoding.prefixed, List.append_assoc, List.take_left' lengthField, told]
  · rw [Encoding.prefixed, List.append_assoc, List.drop_left' lengthField, List.take_left]

/-! ### Taking signed data apart -/

def readRecords : Reader (HashingInfo × SigningInfo) := do
  let hashAlgorithm ← Reader.u32 .hashAlgorithm
  let log2BlockSize ← Reader.u8 .log2BlockSize
  let salt ← Reader.bytes .salt
  let rootHash ← Reader.bytes .rootHash
  let apkDigest ← Reader.bytes .apkDigest
  let certificate ← Reader.bytes .certificate
  let additionalData ← Reader.bytes .additionalData
  let publicKey ← Reader.bytes .publicKey
  let signatureAlgorithmId ← Reader.u32 .signatureAlgorithmId
  return ({ hashAlgorithm, log2BlockSize, salt, rootHash },
    { apkDigest, certificate, additionalData, publicKey, signatureAlgorithmId, signature := [] })

structure Content where
  total : UInt32
  fileSize : UInt64
  hashing : HashingInfo
  signer : SigningInfo
deriving DecidableEq

/-- Takes signed data apart by its layout. Bytes behind it are not looked at. -/
def parse (data : Bytes) : Except DecodeError Content := do
  let (hashing, signer) ← Reader.decode readRecords ((data.drop 4).drop 8)
  return {
    total := UInt32.ofNat (Bytes.toNatLE (data.take 4))
    fileSize := UInt64.ofNat (Bytes.toNatLE ((data.drop 4).take 8))
    hashing
    signer }

def records (hashing : HashingInfo) (signer : SigningInfo) : Bytes :=
  Encoding.u32 hashing.hashAlgorithm ++ [hashing.log2BlockSize] ++
    Encoding.prefixed hashing.salt ++ Encoding.prefixed hashing.rootHash ++
    Encoding.prefixed signer.apkDigest ++ Encoding.prefixed signer.certificate ++
    Encoding.prefixed signer.additionalData ++ Encoding.prefixed signer.publicKey ++
    Encoding.u32 signer.signatureAlgorithmId

theorem layout_eq (total : UInt32) :
    layout total fileSize hashing signer =
      Encoding.u32 total ++ (Encoding.u64 fileSize ++ records hashing signer) := by
  simp only [layout, records, List.append_assoc]

theorem decode_readRecords {buffer : Bytes}
    (fits : ∀ field ∈ fields hashing signer, Encoding.Fits field)
    (here : records hashing signer <+: buffer) :
    Reader.decode readRecords buffer = .ok (hashing, { signer with signature := [] }) := by
  simp only [fields, List.forall_mem_cons] at fits
  obtain ⟨saltFits, rootFits, digestFits, certificateFits, dataFits, keyFits, -⟩ := fits
  simp only [records, append_isPrefix_iff, List.length_append] at here
  obtain ⟨⟨⟨⟨⟨⟨⟨⟨algorithmHere, sizeHere⟩, saltHere⟩, rootHere⟩, digestHere⟩, certificateHere⟩,
    dataHere⟩, keyHere⟩, idHere⟩ := here
  rw [Reader.decode, Reader.outcome_eq_iff]
  simp only [readRecords, (Reader.exact_u32 _).bind_eq_ok, (Reader.exact_u8 _).bind_eq_ok,
    (Reader.exact_bytes _).bind_eq_ok, Reader.runFrom_pure, Prod.mk.injEq, Except.ok.injEq,
    Cursor.rest_advance, Cursor.rest_start, List.drop_drop, true_and]
  exact ⟨_, hashing.hashAlgorithm, algorithmHere, hashing.log2BlockSize, sizeHere, hashing.salt,
    saltFits, saltHere, hashing.rootHash, rootFits, rootHere, signer.apkDigest, digestFits,
    digestHere, signer.certificate, certificateFits, certificateHere, signer.additionalData,
    dataFits, dataHere, signer.publicKey, keyFits, keyHere, signer.signatureAlgorithmId, idHere,
    ⟨rfl, rfl⟩, rfl⟩

theorem parse_of_leading (total : UInt32) (fileSize : UInt64) (behind : Bytes) :
    parse (Encoding.u32 total ++ (Encoding.u64 fileSize ++ behind)) =
      (Reader.decode readRecords behind).map fun (hashing, signer) =>
        { total, fileSize, hashing, signer } := by
  have size : fileSize.toNat < Bytes.capacity 8 := fileSize.toNat_lt
  have behindTotal : (Encoding.u32 total ++ (Encoding.u64 fileSize ++ behind)).drop 4 =
      Encoding.u64 fileSize ++ behind := List.drop_left' (Encoding.length_u32 total)
  have readTotal : (Encoding.u32 total ++ (Encoding.u64 fileSize ++ behind)).take 4 =
      Encoding.u32 total := List.take_left' (Encoding.length_u32 total)
  have behindSize : (Encoding.u64 fileSize ++ behind).drop 8 = behind :=
    List.drop_left' (Encoding.length_u64 fileSize)
  have readSize : (Encoding.u64 fileSize ++ behind).take 8 = Encoding.u64 fileSize :=
    List.take_left' (Encoding.length_u64 fileSize)
  unfold parse
  rw [behindTotal, readTotal, behindSize, readSize, Encoding.toNatLE_u32, UInt32.ofNat_toNat,
    Encoding.u64, Bytes.toNatLE_ofNatLE, Nat.mod_eq_of_lt size, UInt64.ofNat_toNat]
  cases Reader.decode readRecords behind with
  | error fault => rfl
  | ok found => rfl

theorem parse_append (encoded : encode? fileSize hashing signer = some data) (tail : Bytes) :
    parse (data ++ tail) =
      .ok
        { total := UInt32.ofNat (length hashing signer), fileSize, hashing
          signer := { signer with signature := [] } } := by
  obtain ⟨within, rfl⟩ := encode?_eq_some_iff.mp encoded
  have fits : ∀ field ∈ fields hashing signer, Encoding.Fits field :=
    fun _ listed => fits_of_mem_fields within listed
  have found := decode_readRecords fits (List.prefix_append _ tail)
  rw [layout_eq, List.append_assoc, List.append_assoc, parse_of_leading, found]
  rfl

theorem eq_of_encode?_isPrefix (first : encode? fileSize hashing signer = some data)
    (second : encode? fileSize' hashing' signer' = some data') (beginning : data <+: data') :
    fileSize = fileSize' ∧ hashing = hashing' ∧
      { signer with signature := signer'.signature } = signer' := by
  obtain ⟨tail, rfl⟩ := beginning
  have found := parse_append first tail
  have foundWhole := parse_append second []
  rw [List.append_nil, found] at foundWhole
  obtain ⟨-, sameSize, sameHashing, sameSigner⟩ := Content.mk.inj (Except.ok.inj foundWhole)
  refine ⟨sameSize, sameHashing, ?_⟩
  cases signer
  cases signer'
  simp only [SigningInfo.mk.injEq, and_true] at sameSigner ⊢
  exact sameSigner

end SignedData

end PackageSignature

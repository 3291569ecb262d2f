import PackageSignature.Proofs.Record.Reading
import PackageSignature.Record.HashingInfo
import PackageSignature.Record.SigningInfo

/-! The hashing info and the signer record are read exactly, field by field. The walk
over a signer record is the reading of it with the value thrown away, so it goes
through just where the reading does and ends where the reading ends. -/

namespace PackageSignature

namespace HashingInfo

structure Fits (info : HashingInfo) : Prop where
  salt : Encoding.Fits info.salt
  rootHash : Encoding.Fits info.rootHash

theorem exact_read : Reader.Exact read toBytes Fits := by
  intro cursor info after
  simp only [read, (Reader.exact_u32 _).bind_eq_ok, (Reader.exact_u8 _).bind_eq_ok,
    (Reader.exact_bytes _).bind_eq_ok, Reader.runFrom_pure, Prod.mk.injEq, Except.ok.injEq,
    Cursor.rest_advance, toBytes, append_isPrefix_iff, List.length_append, true_and]
  constructor
  · rintro ⟨hashAlgorithm, algorithmHere, log2BlockSize, sizeHere, salt, saltFits, saltHere,
      rootHash, rootFits, rootHere, rfl, rfl⟩
    refine ⟨⟨saltFits, rootFits⟩, ?_, ⟨⟨algorithmHere, sizeHere⟩, ?_⟩, ?_⟩
    · simp only [Cursor.advance, Nat.add_assoc]
    · simpa only [List.drop_drop] using saltHere
    · simpa only [List.drop_drop, Nat.add_assoc] using rootHere
  · rintro ⟨⟨saltFits, rootFits⟩, rfl, ⟨⟨algorithmHere, sizeHere⟩, saltHere⟩, rootHere⟩
    refine ⟨info.hashAlgorithm, algorithmHere, info.log2BlockSize, sizeHere, info.salt, saltFits,
      ?_, info.rootHash, rootFits, ?_, rfl, ?_⟩
    · simpa only [List.drop_drop] using saltHere
    · simpa only [List.drop_drop, Nat.add_assoc] using rootHere
    · simp only [Cursor.advance, Nat.add_assoc]

theorem length_toBytes (info : HashingInfo) :
    info.toBytes.length = 13 + info.salt.length + info.rootHash.length := by
  simp only [toBytes, List.length_append, Encoding.length_u32, Encoding.length_prefixed,
    List.length_cons, List.length_nil]
  omega

end HashingInfo

namespace SigningInfo

structure Fits (info : SigningInfo) : Prop where
  apkDigest : Encoding.Fits info.apkDigest
  certificate : Encoding.Fits info.certificate
  additionalData : Encoding.Fits info.additionalData
  publicKey : Encoding.Fits info.publicKey
  signature : Encoding.Fits info.signature

theorem exact_read : Reader.Exact read toBytes Fits := by
  intro cursor info after
  simp only [read, (Reader.exact_u32 _).bind_eq_ok, (Reader.exact_bytes _).bind_eq_ok,
    Reader.runFrom_pure, Prod.mk.injEq, Except.ok.injEq, Cursor.rest_advance, toBytes,
    append_isPrefix_iff, List.length_append, List.drop_drop, true_and]
  constructor
  · rintro ⟨apkDigest, digestFits, digestHere, certificate, certificateFits, certificateHere,
      additionalData, dataFits, dataHere, publicKey, keyFits, keyHere, id, idHere,
      signature, signatureFits, signatureHere, rfl, rfl⟩
    refine ⟨⟨digestFits, certificateFits, dataFits, keyFits, signatureFits⟩, ?_,
      ⟨⟨⟨⟨digestHere, certificateHere⟩, dataHere⟩, keyHere⟩, idHere⟩, signatureHere⟩
    simp only [Cursor.advance, Nat.add_assoc]
  · rintro ⟨⟨digestFits, certificateFits, dataFits, keyFits, signatureFits⟩, rfl,
      ⟨⟨⟨⟨digestHere, certificateHere⟩, dataHere⟩, keyHere⟩, idHere⟩, signatureHere⟩
    refine ⟨info.apkDigest, digestFits, digestHere, info.certificate, certificateFits,
      certificateHere, info.additionalData, dataFits, dataHere, info.publicKey, keyFits, keyHere,
      info.signatureAlgorithmId, idHere, info.signature, signatureFits, signatureHere, rfl, ?_⟩
    simp only [Cursor.advance, Nat.add_assoc]

theorem length_toBytes (info : SigningInfo) :
    info.toBytes.length =
      24 + info.apkDigest.length + info.certificate.length + info.additionalData.length +
        info.publicKey.length + info.signature.length := by
  simp only [toBytes, List.length_append, Encoding.length_prefixed, Encoding.length_u32]
  omega

theorem skip_eq_read : skip = (do let _ ← read; return ()) := by
  simp only [skip, skipBytes, read, bind_assoc, pure_bind]

theorem fits_of_length_le {info : SigningInfo} (within : Encoding.Fits info.toBytes) :
    info.Fits := by
  rw [Encoding.Fits, length_toBytes] at within
  constructor <;> unfold Encoding.Fits <;> omega

theorem decode_toBytes {info : SigningInfo} (within : Encoding.Fits info.toBytes) :
    decode info.toBytes = .ok info :=
  exact_read.decode_eq_ok.mpr ⟨fits_of_length_le within, List.prefix_rfl⟩

end SigningInfo

end PackageSignature

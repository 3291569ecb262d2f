import PackageSignature.Record.Envelope

/-! No reader leaves the buffer. Whether a read succeeds or fails, the cursor behind it is in
the same buffer, no further back than before and not behind the end. The readers of the
records keep this because their parts do. -/

namespace PackageSignature

structure Cursor.Reaches (cursor after : Cursor) : Prop where
  sameBuffer : after.buffer = cursor.buffer
  forward : cursor.position ≤ after.position
  inside : after.position ≤ after.buffer.length

theorem Cursor.reaches_self {cursor : Cursor} (inside : cursor.position ≤ cursor.buffer.length) :
    cursor.Reaches cursor :=
  ⟨rfl, Nat.le_refl _, inside⟩

theorem Cursor.Reaches.trans {cursor between after : Cursor} (first : cursor.Reaches between)
    (second : between.Reaches after) : cursor.Reaches after :=
  ⟨second.sameBuffer.trans first.sameBuffer, Nat.le_trans first.forward second.forward,
    second.inside⟩

namespace Reader

variable {α β : Type}

def Bounded (reader : Reader α) : Prop :=
  ∀ cursor : Cursor, cursor.position ≤ cursor.buffer.length →
    cursor.Reaches (runFrom reader cursor).2

theorem bounded_pure (value : α) : Bounded (pure value) := by
  intro cursor inside
  exact Cursor.reaches_self inside

theorem bounded_throw (error : DecodeError) : Bounded (throw error : Reader α) := by
  intro cursor inside
  exact Cursor.reaches_self inside

theorem Bounded.bind {first : Reader α} {next : α → Reader β} (firstBounded : first.Bounded)
    (nextBounded : ∀ value, (next value).Bounded) : (first >>= next).Bounded := by
  intro cursor inside
  have reached := firstBounded cursor inside
  rw [runFrom_bind]
  cases outcome : runFrom first cursor with
  | mk result between =>
      rw [outcome] at reached
      cases result with
      | error error => exact reached
      | ok value => exact reached.trans (nextBounded value between reached.inside)

theorem bounded_take (field : Field) (needed : Nat) : (take field needed).Bounded := by
  intro cursor inside
  by_cases enough : needed ≤ cursor.remaining
  · rw [runFrom_take_of_le enough]
    refine ⟨rfl, Nat.le_add_right _ _, ?_⟩
    rw [Cursor.remaining] at enough
    rw [Cursor.position_advance, Cursor.buffer_advance]
    omega
  · rw [runFrom_take_of_lt (Nat.lt_of_not_le enough)]
    exact Cursor.reaches_self inside

theorem bounded_u8 (field : Field) : (u8 field).Bounded :=
  (bounded_take field 1).bind (fun _ => bounded_pure _)

theorem bounded_u32 (field : Field) : (u32 field).Bounded :=
  (bounded_take field 4).bind (fun _ => bounded_pure _)

theorem bounded_bytes (field : Field) : (bytes field).Bounded :=
  (bounded_u32 field).bind (fun _ => bounded_take field _)

theorem bounded_bytesUpTo (limit : Nat) (field : Field) : (bytesUpTo limit field).Bounded := by
  apply (bounded_u32 field).bind
  intro length
  by_cases above : limit < length.toNat
  · rw [if_pos above]
    exact (bounded_throw _).bind (fun _ => bounded_take field _)
  · rw [if_neg above]
    exact bounded_take field _

end Reader

open Reader

theorem HashingInfo.bounded_read : HashingInfo.read.Bounded := by
  apply (bounded_u32 .hashAlgorithm).bind
  intro hashAlgorithm
  apply (bounded_u8 .log2BlockSize).bind
  intro log2BlockSize
  apply (bounded_bytes .salt).bind
  intro salt
  apply (bounded_bytes .rootHash).bind
  intro rootHash
  exact bounded_pure _

namespace SigningInfo

theorem bounded_read : SigningInfo.read.Bounded := by
  apply (bounded_bytes .apkDigest).bind
  intro apkDigest
  apply (bounded_bytes .certificate).bind
  intro certificate
  apply (bounded_bytes .additionalData).bind
  intro additionalData
  apply (bounded_bytes .publicKey).bind
  intro publicKey
  apply (bounded_u32 .signatureAlgorithmId).bind
  intro signatureAlgorithmId
  apply (bounded_bytes .signature).bind
  intro signature
  exact bounded_pure _

theorem bounded_skipBytes (fields : List Field) : (skipBytes fields).Bounded := by
  induction fields with
  | nil => exact bounded_pure ()
  | cons field others ih => exact (bounded_bytes field).bind (fun _ => ih)

theorem bounded_skip : skip.Bounded := by
  apply (bounded_skipBytes _).bind
  intro _
  apply (bounded_u32 .signatureAlgorithmId).bind
  intro _
  exact (bounded_bytes .signature).bind (fun _ => bounded_pure ())

end SigningInfo

namespace SignerBlock

theorem bounded_read : SignerBlock.read.Bounded := by
  apply (bounded_u32 .blockId).bind
  intro blockId
  exact (bounded_bytes .blockSigningInfo).bind (fun _ => bounded_pure _)

theorem bounded_readAll : Bounded (readAll : Reader (List SignerBlock)) := by
  intro cursor inside
  change cursor.Reaches (readAll cursor).2
  fun_induction readAll cursor with
  | case1 cursor nothing => exact Cursor.reaches_self inside
  | case2 cursor something error after failed =>
      have reached := bounded_read cursor inside
      rw [failed] at reached
      exact reached
  | case3 cursor something block after done error last failed ih =>
      have reached := bounded_read cursor inside
      rw [done] at reached
      have further := ih reached.inside
      rw [failed] at further
      exact reached.trans further
  | case4 cursor something block after done blocks last read ih =>
      have reached := bounded_read cursor inside
      rw [done] at reached
      have further := ih reached.inside
      rw [read] at further
      exact reached.trans further

end SignerBlock

theorem SignerList.bounded_read : SignerList.read.Bounded := by
  have bounded_get : Bounded (get : Reader Cursor) := by
    intro cursor inside
    exact Cursor.reaches_self inside
  apply SigningInfo.bounded_skip.bind
  intro _
  apply bounded_get.bind
  intro behindDefault
  exact SignerBlock.bounded_readAll.bind (fun _ => bounded_pure _)

theorem Envelope.bounded_readNested (version : UInt32) (maxSize : Nat) :
    (Envelope.readNested version maxSize).Bounded := by
  apply (bounded_bytesUpTo maxSize .hashingInfo).bind
  intro hashingInfo
  exact (bounded_bytesUpTo _ .signingInfos).bind (fun _ => bounded_pure _)

end PackageSignature

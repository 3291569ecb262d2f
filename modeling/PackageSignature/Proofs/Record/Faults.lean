import PackageSignature.Proofs.Record.Bounds
import PackageSignature.Proofs.Record.SignerList
import PackageSignature.Proofs.Record.Slot

/-! Which error a damaged record is refused with. Each record is a row of slots, and its
decoder fails exactly where a walk over the row stops; behind the default signer of a list
the row of a block starts over for as long as bytes are left. The lengths of an envelope
are the only ones with a limit, and the second limit is what the first record leaves. -/

namespace PackageSignature

open Slot Reader

namespace HashingInfo

def slots : List Slot :=
  [⟨.hashAlgorithm, .number 4⟩, ⟨.log2BlockSize, .number 1⟩, ⟨.salt, .bytes none⟩,
    ⟨.rootHash, .bytes none⟩]

theorem decode_eq_error_iff {buffer : Bytes} {error : DecodeError} :
    decode buffer = .error error ↔ Stops slots buffer error := by
  have walked : (do let _ ← read; return ()) = walk slots := by
    simp only [read, slots, walk, Slot.read, u32, u8, bind_assoc, pure_bind]
  exact outcome_eq_error_iff_stops walked

end HashingInfo

namespace SigningInfo

def slots : List Slot :=
  [⟨.apkDigest, .bytes none⟩, ⟨.certificate, .bytes none⟩, ⟨.additionalData, .bytes none⟩,
    ⟨.publicKey, .bytes none⟩, ⟨.signatureAlgorithmId, .number 4⟩, ⟨.signature, .bytes none⟩]

theorem discard_read_eq_walk : (do let _ ← read; return ()) = walk slots := by
  simp only [read, slots, walk, Slot.read, u32, bind_assoc, pure_bind]

theorem decode_eq_error_iff {buffer : Bytes} {error : DecodeError} :
    decode buffer = .error error ↔ Stops slots buffer error :=
  outcome_eq_error_iff_stops discard_read_eq_walk

theorem skip_eq_error_iff {cursor : Cursor} {error : DecodeError} :
    (runFrom skip cursor).1 = .error error ↔ Stops slots cursor.rest error := by
  rw [skip_eq_read, discard_read_eq_walk, walk_eq_error_iff]

end SigningInfo

namespace SignerBlock

def slots : List Slot :=
  [⟨.blockId, .number 4⟩, ⟨.blockSigningInfo, .bytes none⟩]

theorem read_eq_error_iff {cursor : Cursor} {error : DecodeError} :
    (runFrom read cursor).1 = .error error ↔ Stops slots cursor.rest error := by
  have walked : (do let _ ← read; return ()) = walk slots := by
    simp only [read, slots, walk, Slot.read, u32, bind_assoc, pure_bind]
  exact outcome_eq_error_iff_stops walked

theorem readAll_eq_error_iff {cursor : Cursor} {error : DecodeError} :
    (readAll cursor).1 = .error error ↔
      ∃ (blocks : List SignerBlock) (behind : Bytes),
        (∀ block ∈ blocks, Encoding.Fits block.signingInfo) ∧
        cursor.rest = blocks.flatMap toBytes ++ behind ∧ behind ≠ [] ∧
        Stops slots behind error := by
  constructor
  · intro failed
    -- What is left behind the complete blocks is not empty, or the reading would have ended.
    obtain ⟨blocks, fits, here, nothing | ⟨something, fault, refused⟩⟩ :=
      exists_blocks_in_front cursor
    · rw [readAll_of_blocks blocks cursor fits here, readAll_of_nothing_left nothing] at failed
      cases failed
    · obtain ⟨after, outcome⟩ := outcome_eq_iff.mp refused
      rw [readAll_of_blocks blocks cursor fits here,
        readAll_of_failed_read something outcome] at failed
      cases failed
      have stops := read_eq_error_iff.mp refused
      rw [← Cursor.length_rest, ne_eq, List.length_eq_zero_iff] at something
      rw [Cursor.rest_advance] at something stops
      exact ⟨blocks, _, fits, (List.prefix_iff_eq_append.mp here).symm, something, stops⟩
  · intro stopped
    obtain ⟨blocks, behind, fits, split, something, stops⟩ := stopped
    have here : blocks.flatMap toBytes <+: cursor.rest := split ▸ List.prefix_append _ _
    have left : (cursor.advance (blocks.flatMap toBytes).length).rest = behind := by
      rw [Cursor.rest_advance, split, List.drop_left]
    rw [← left] at something stops
    obtain ⟨after, outcome⟩ := outcome_eq_iff.mp (read_eq_error_iff.mpr stops)
    rw [readAll_of_blocks blocks cursor fits here, readAll_of_failed_read ?_ outcome]
    · rfl
    · rw [← Cursor.length_rest, ne_eq, List.length_eq_zero_iff]
      exact something

end SignerBlock

namespace SignerList

private theorem blocks_eq_error_iff {cursor : Cursor} {error : DecodeError} :
    (runFrom (do
        let behindDefault ← get
        let blocks ← (SignerBlock.readAll : Reader (List SignerBlock))
        return ({ defaultSigner := behindDefault.buffer.take behindDefault.position, blocks } :
          SignerList)) cursor).1 = .error error ↔
      (SignerBlock.readAll cursor).1 = .error error := by
  have got : runFrom (get : Reader Cursor) cursor = (.ok cursor, cursor) := rfl
  rw [runFrom_bind, got]
  simp only
  rw [bind_eq_error_iff]
  constructor
  · intro either
    rcases either with failed | ⟨_, _, _, impossible⟩
    · exact failed
    · cases impossible
  · intro failed
    exact .inl failed

theorem decode_eq_error_iff {buffer : Bytes} {error : DecodeError} :
    decode buffer = .error error ↔
      Stops SigningInfo.slots buffer error ∨
        ∃ (signer : SigningInfo) (blocks : List SignerBlock) (behind : Bytes),
          signer.Fits ∧ (∀ block ∈ blocks, Encoding.Fits block.signingInfo) ∧
          buffer = signer.toBytes ++ blocks.flatMap SignerBlock.toBytes ++ behind ∧
          behind ≠ [] ∧ Stops SignerBlock.slots behind error := by
  rw [decode, Reader.decode, read, bind_eq_error_iff, SigningInfo.skip_eq_error_iff,
    Cursor.rest_start]
  apply or_congr_right
  simp only [blocks_eq_error_iff, SignerBlock.readAll_eq_error_iff]
  constructor
  · intro later
    obtain ⟨_, between, skipped, blocks, behind, fits, split, something, stops⟩ := later
    rw [SigningInfo.skip_eq_read, SigningInfo.exact_read.bind_eq_ok] at skipped
    obtain ⟨signer, signerFits, here, skipped⟩ := skipped
    cases skipped
    rw [Cursor.rest_start] at here
    rw [Cursor.rest_advance, Cursor.rest_start] at split
    refine ⟨signer, blocks, behind, signerFits, fits, ?_, something, stops⟩
    rw [List.append_assoc, ← split]
    exact (List.prefix_iff_eq_append.mp here).symm
  · intro later
    obtain ⟨signer, blocks, behind, signerFits, fits, split, something, stops⟩ := later
    rw [List.append_assoc] at split
    have here : signer.toBytes <+: (Cursor.start buffer).rest := split ▸ List.prefix_append _ _
    have skipped : runFrom SigningInfo.skip (Cursor.start buffer) =
        (.ok (), (Cursor.start buffer).advance signer.toBytes.length) := by
      rw [SigningInfo.skip_eq_read, SigningInfo.exact_read.bind_eq_ok]
      exact ⟨signer, signerFits, here, rfl⟩
    refine ⟨(), _, skipped, blocks, behind, fits, ?_, something, stops⟩
    rw [Cursor.rest_advance, Cursor.rest_start, split, List.drop_left]

end SignerList

namespace Envelope

variable {buffer : Bytes} {maxSize : Nat} {error : DecodeError}

theorem decode_eq_error_iff_of_supported {version : UInt32} {rest : Bytes}
    (split : buffer = Encoding.u32 version ++ rest) (supported : version ∈ supportedVersions) :
    decode buffer maxSize = .error (.decode error) ↔
      Fault ⟨.hashingInfo, .bytes (some maxSize)⟩ rest error ∨
        ∃ (hashingInfo behind : Bytes), Encoding.Fits hashingInfo ∧
          hashingInfo.length ≤ maxSize ∧ rest = Encoding.prefixed hashingInfo ++ behind ∧
          Fault ⟨.signingInfos, .bytes (some (maxSize - hashingInfo.length))⟩ behind error := by
  have nested := @readNested_eq_error_iff version maxSize ((Cursor.start buffer).advance 4) error
  simp only [rest_behind_version split, lengthFault_eq_some_iff] at nested
  rw [decode_of_version split, if_pos supported, ← nested]
  cases (runFrom (readNested version maxSize) ((Cursor.start buffer).advance 4)).1 with
  | ok envelope => simp only [ok_mapError, reduceCtorEq]
  | error fault => simp only [error_mapError, Except.error.injEq, EnvelopeError.decode.injEq]

theorem decode_eq_error_iff :
    decode buffer maxSize = .error (.decode error) ↔
      Fault ⟨.version, .number 4⟩ buffer error ∨
        ∃ (version : UInt32) (rest : Bytes), version ∈ supportedVersions ∧
          buffer = Encoding.u32 version ++ rest ∧
          (Fault ⟨.hashingInfo, .bytes (some maxSize)⟩ rest error ∨
            ∃ (hashingInfo behind : Bytes), Encoding.Fits hashingInfo ∧
              hashingInfo.length ≤ maxSize ∧ rest = Encoding.prefixed hashingInfo ++ behind ∧
              Fault ⟨.signingInfos, .bytes (some (maxSize - hashingInfo.length))⟩ behind
                error) := by
  constructor
  · intro failed
    by_cases short : buffer.length < 4
    · rw [decode_of_short short] at failed
      cases failed
      exact .inl (.number short)
    · obtain ⟨version, rest, split⟩ := exists_version short
      by_cases supported : version ∈ supportedVersions
      · have stopped := (decode_eq_error_iff_of_supported split supported).mp failed
        exact .inr ⟨version, rest, supported, split, stopped⟩
      · rw [decode_of_version split, if_neg supported] at failed
        cases failed
  · intro either
    rcases either with fault | ⟨version, rest, supported, split, stopped⟩
    · cases fault with
      | number short => exact decode_of_short short
    · exact (decode_eq_error_iff_of_supported split supported).mpr stopped

theorem truncated_or_tooLong (failed : decode buffer maxSize = .error (.decode error)) :
    (∃ field needed remaining, error = .truncated field needed remaining ∧ remaining < needed) ∨
      ∃ field length limit, error = .tooLong field length limit ∧ limit < length := by
  have told {slot : Slot} {rest : Bytes} (fault : slot.Fault rest error) :
      (∃ field needed remaining, error = .truncated field needed remaining ∧
        remaining < needed) ∨
      ∃ field length limit, error = .tooLong field length limit ∧ limit < length := by
    rcases fault.truncated_or_tooLong with truncated | ⟨length, limit, tooLong, above, -⟩
    · exact .inl ⟨slot.field, truncated⟩
    · exact .inr ⟨slot.field, length, limit, tooLong, above⟩
  rcases decode_eq_error_iff.mp failed with
    fault | ⟨_, _, _, _, fault | ⟨_, _, _, _, _, fault⟩⟩
  · exact told fault
  · exact told fault
  · exact told fault

end Envelope

namespace DecodeError

theorem truncated_of_nested {buffer : Bytes} {error : DecodeError}
    (failed : HashingInfo.decode buffer = .error error ∨
      SigningInfo.decode buffer = .error error ∨ SignerList.decode buffer = .error error) :
    ∃ field needed remaining, error = .truncated field needed remaining ∧
      remaining < needed := by
  rcases failed with hashing | signing | listing
  · exact (HashingInfo.decode_eq_error_iff.mp hashing).truncated (by decide)
  · exact (SigningInfo.decode_eq_error_iff.mp signing).truncated (by decide)
  · rcases SignerList.decode_eq_error_iff.mp listing with
      stops | ⟨_, _, _, _, _, _, _, stops⟩
    · exact stops.truncated (by decide)
    · exact stops.truncated (by decide)

/-- A decoder that fails names the first field that cannot be read, and says of it what is
wrong: what it needs and what is left, or what it declares and what is allowed. -/
theorem first_unreadable_field :
    (∀ buffer error, HashingInfo.decode buffer = .error error ↔
      Stops HashingInfo.slots buffer error) ∧
    (∀ buffer error, SigningInfo.decode buffer = .error error ↔
      Stops SigningInfo.slots buffer error) ∧
    (∀ buffer error, SignerList.decode buffer = .error error ↔
      Stops SigningInfo.slots buffer error ∨
        ∃ (signer : SigningInfo) (blocks : List SignerBlock) (behind : Bytes),
          signer.Fits ∧ (∀ block ∈ blocks, Encoding.Fits block.signingInfo) ∧
          buffer = signer.toBytes ++ blocks.flatMap SignerBlock.toBytes ++ behind ∧
          behind ≠ [] ∧ Stops SignerBlock.slots behind error) ∧
    (∀ buffer maxSize error, Envelope.decode buffer maxSize = .error (.decode error) ↔
      Fault ⟨.version, .number 4⟩ buffer error ∨
        ∃ (version : UInt32) (rest : Bytes), version ∈ Envelope.supportedVersions ∧
          buffer = Encoding.u32 version ++ rest ∧
          (Fault ⟨.hashingInfo, .bytes (some maxSize)⟩ rest error ∨
            ∃ (hashingInfo behind : Bytes), Encoding.Fits hashingInfo ∧
              hashingInfo.length ≤ maxSize ∧ rest = Encoding.prefixed hashingInfo ++ behind ∧
              Fault ⟨.signingInfos, .bytes (some (maxSize - hashingInfo.length))⟩ behind
                error)) ∧
    (∀ buffer error, HashingInfo.decode buffer = .error error ∨
        SigningInfo.decode buffer = .error error ∨ SignerList.decode buffer = .error error →
      ∃ field needed remaining, error = .truncated field needed remaining ∧
        remaining < needed) ∧
    (∀ buffer maxSize error, Envelope.decode buffer maxSize = .error (.decode error) →
      (∃ field needed remaining, error = .truncated field needed remaining ∧
        remaining < needed) ∨
      ∃ field length limit, error = .tooLong field length limit ∧ limit < length) ∧
    (HashingInfo.read.Bounded ∧ SigningInfo.read.Bounded ∧ SignerList.read.Bounded ∧
      (Reader.u32 .version).Bounded ∧
      ∀ version maxSize, (Envelope.readNested version maxSize).Bounded) := by
  refine ⟨?_, ?_, ?_, ?_, ?_, ?_, ?_⟩
  · intro buffer error
    exact HashingInfo.decode_eq_error_iff
  · intro buffer error
    exact SigningInfo.decode_eq_error_iff
  · intro buffer error
    exact SignerList.decode_eq_error_iff
  · intro buffer maxSize error
    exact Envelope.decode_eq_error_iff
  · intro buffer error failed
    exact truncated_of_nested failed
  · intro buffer maxSize error failed
    exact Envelope.truncated_or_tooLong failed
  · exact ⟨HashingInfo.bounded_read, SigningInfo.bounded_read, SignerList.bounded_read,
      bounded_u32 .version, Envelope.bounded_readNested⟩

def cutBlock : Bytes :=
  Encoding.u32 7 ++ (Encoding.u32 9 ++ [1])

/-- A signer, a complete block whose body is no signer, and a block with a byte of nine. -/
def cutSigners : Bytes :=
  SignerList.sampleSigner.toBytes ++
    [{ blockId := 5, signingInfo := [1, 2, 3] }].flatMap SignerBlock.toBytes ++ cutBlock

def longSecondRecord : Bytes :=
  Encoding.u32 2 ++ (Encoding.prefixed [1, 2, 3] ++ (Encoding.u32 6 ++ [4, 5]))

theorem first_unreadable_field_cut_block :
    SignerList.decode cutSigners = .error (.truncated .blockSigningInfo 9 1) ∧
      (∃ field needed remaining,
        DecodeError.truncated .blockSigningInfo 9 1 = .truncated field needed remaining ∧
          remaining < needed) ∧
      Envelope.decode longSecondRecord 8 = .error (.decode (.tooLong .signingInfos 6 5)) ∧
      ((∃ field needed remaining,
        DecodeError.tooLong .signingInfos 6 5 = .truncated field needed remaining ∧
          remaining < needed) ∨
        ∃ field length limit, DecodeError.tooLong .signingInfos 6 5 = .tooLong field length limit ∧
          limit < length) := by
  obtain ⟨-, -, listing, opening, nested, outer, -⟩ := first_unreadable_field
  have stops : Stops SignerBlock.slots cutBlock (.truncated .blockSigningInfo 9 1) := by
    refine ⟨[(⟨.blockId, .number 4⟩, Encoding.u32 7)], ⟨.blockSigningInfo, .bytes none⟩, [],
      Encoding.u32 9 ++ [1], rfl, ?_, rfl, .body (fun most impossible => by cases impossible)
        (by decide)⟩
    intro entry member
    cases List.mem_singleton.mp member
    exact Encoding.length_u32 7
  have cut : SignerList.decode cutSigners = .error (.truncated .blockSigningInfo 9 1) := by
    refine (listing _ _).mpr (.inr ⟨SignerList.sampleSigner, _, cutBlock,
      SignerList.sampleSigner_fits, ?_, rfl, by decide, stops⟩)
    intro block member
    cases List.mem_singleton.mp member
    exact (by decide : Encoding.Fits [1, 2, 3])
  have long : Envelope.decode longSecondRecord 8 =
      .error (.decode (.tooLong .signingInfos 6 5)) :=
    (opening _ _ _).mpr (.inr ⟨2, _, by decide, rfl,
      .inr ⟨[1, 2, 3], _, by decide, by decide, rfl, .tooLong (by decide)⟩⟩)
  exact ⟨cut, nested _ _ (.inr (.inr cut)), long, outer _ _ _ long⟩

end DecodeError

end PackageSignature

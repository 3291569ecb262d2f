import PackageSignature.Proofs.Record.Reading
import PackageSignature.Record.Envelope

/-! The envelope at the head of a buffer. It is accepted precisely where its encoding
stands in front and its nested records keep within their common budget; whatever comes
behind is not looked at. A refusal is decided by the version, then by the two length
fields in their order, and never by what the nested records hold. -/

namespace PackageSignature

namespace Reader

/-- Why a byte string cannot be read. Of the bytes at the cursor the first four decide,
and of the others only how many there are. -/
def lengthFault (field : Field) (limit : Nat) (head : Bytes) (behind : Nat) :
    Option DecodeError :=
  if head.length < 4 then
    some (.truncated field 4 head.length)
  else if limit < Bytes.toNatLE head then
    some (.tooLong field (Bytes.toNatLE head) limit)
  else if behind < Bytes.toNatLE head then
    some (.truncated field (Bytes.toNatLE head) behind)
  else
    none

theorem bytesUpTo_eq_error_iff {limit : Nat} {field : Field} {cursor : Cursor}
    {error : DecodeError} :
    (runFrom (bytesUpTo limit field) cursor).1 = .error error ↔
      lengthFault field limit (cursor.rest.take 4) (cursor.rest.drop 4).length = some error := by
  have left : (cursor.rest.drop 4).length = cursor.remaining - 4 := by
    rw [List.length_drop, Cursor.length_rest]
  rw [left, lengthFault, bytesUpTo, runFrom_bind]
  by_cases enough : 4 ≤ cursor.remaining
  · have four : (cursor.rest.take 4).length = 4 := by
      rw [List.length_take, Cursor.length_rest, Nat.min_eq_left enough]
    have small : Bytes.toNatLE (cursor.rest.take 4) < UInt32.size := by
      have bounded := Bytes.toNatLE_lt (cursor.rest.take 4)
      rw [four] at bounded
      exact bounded
    rw [runFrom_u32_of_le enough, if_neg (by rw [four]; decide)]
    simp only [UInt32.toNat_ofNat_of_lt' small]
    by_cases above : limit < Bytes.toNatLE (cursor.rest.take 4)
    · rw [if_pos above, if_pos above, runFrom_bind, runFrom_throw]
      simp only [Except.error.injEq, Option.some.injEq]
    · rw [if_neg above, if_neg above]
      by_cases held : Bytes.toNatLE (cursor.rest.take 4) ≤ (cursor.advance 4).remaining
      · rw [runFrom_take_of_le held]
        rw [Cursor.remaining_advance] at held
        rw [if_neg (Nat.not_lt.mpr held)]
        simp only [reduceCtorEq]
      · rw [runFrom_take_of_lt (Nat.lt_of_not_le held)]
        rw [Cursor.remaining_advance] at held ⊢
        rw [if_pos (Nat.lt_of_not_le held)]
        simp only [Except.error.injEq, Option.some.injEq]
  · have short : cursor.remaining < 4 := Nat.lt_of_not_le enough
    have taken : (cursor.rest.take 4).length = cursor.remaining := by
      rw [List.length_take, Cursor.length_rest, Nat.min_eq_right (Nat.le_of_lt short)]
    rw [runFrom_u32_of_lt short, taken, if_pos short]
    simp only [Except.error.injEq, Option.some.injEq]

theorem lengthFault_eq_none_iff {limit : Nat} {field : Field} {rest : Bytes} :
    lengthFault field limit (rest.take 4) (rest.drop 4).length = none ↔
      ∃ bytes behind, Encoding.Fits bytes ∧ bytes.length ≤ limit ∧
        rest = Encoding.prefixed bytes ++ behind := by
  constructor
  · intro readable
    cases outcome : runFrom (bytesUpTo limit field) (Cursor.start rest) with
    | mk result after =>
        cases result with
        | error error =>
            have refused := bytesUpTo_eq_error_iff.mp (congrArg Prod.fst outcome)
            rw [Cursor.rest_start, readable] at refused
            cases refused
        | ok bytes =>
            obtain ⟨⟨fits, within⟩, -, behind, split⟩ := (exact_bytesUpTo _ _ _ _ _).mp outcome
            exact ⟨bytes, behind, fits, within, split.symm⟩
  · rintro ⟨bytes, behind, fits, within, split⟩
    have read := (exact_bytesUpTo limit field (Cursor.start rest) bytes _).mpr
      ⟨⟨fits, within⟩, rfl, behind, split.symm⟩
    cases fault : lengthFault field limit (rest.take 4) (rest.drop 4).length with
    | none => rfl
    | some error =>
        rw [← Cursor.rest_start rest, ← bytesUpTo_eq_error_iff, read] at fault
        cases fault

end Reader

namespace Envelope

theorem mem_supportedVersions_iff {version : UInt32} :
    version ∈ supportedVersions ↔ version = 2 :=
  List.mem_singleton

theorem isSupported_iff {envelope : Envelope} :
    envelope.isSupported = true ↔ envelope.version ∈ supportedVersions :=
  List.contains_iff_mem

/-- The envelope stands at the head of the buffer and is in order. -/
structure Opens (envelope : Envelope) (buffer : Bytes) (maxSize : Nat) : Prop where
  supported : envelope.version ∈ supportedVersions
  hashingFits : Encoding.Fits envelope.hashingInfo
  signersFit : Encoding.Fits envelope.signingInfos
  withinBudget : envelope.hashingInfo.length + envelope.signingInfos.length ≤ maxSize
  atHead : envelope.toBytes <+: buffer

theorem readNested_eq_ok_iff {version : UInt32} {maxSize : Nat} {cursor : Cursor}
    {envelope : Envelope} :
    (Reader.runFrom (readNested version maxSize) cursor).1 = .ok envelope ↔
      envelope.version = version ∧ Encoding.Fits envelope.hashingInfo ∧
        Encoding.Fits envelope.signingInfos ∧
        envelope.hashingInfo.length + envelope.signingInfos.length ≤ maxSize ∧
        Encoding.prefixed envelope.hashingInfo ++ Encoding.prefixed envelope.signingInfos <+:
          cursor.rest := by
  rw [Reader.outcome_eq_iff]
  simp only [readNested, (Reader.exact_bytesUpTo _ _).bind_eq_ok, Reader.runFrom_pure,
    Prod.mk.injEq, Except.ok.injEq, Cursor.rest_advance, append_isPrefix_iff]
  constructor
  · rintro ⟨after, hashingInfo, ⟨hashingFits, hashingWithin⟩, hashingHere, signingInfos,
      ⟨signersFit, signersWithin⟩, signersHere, rfl, rfl⟩
    refine ⟨rfl, hashingFits, signersFit, ?_, hashingHere, signersHere⟩
    simp only
    omega
  · rintro ⟨rfl, hashingFits, signersFit, within, hashingHere, signersHere⟩
    exact ⟨_, envelope.hashingInfo, ⟨hashingFits, by omega⟩, hashingHere, envelope.signingInfos,
      ⟨signersFit, by omega⟩, signersHere, rfl, rfl⟩

theorem readNested_eq_error_iff {version : UInt32} {maxSize : Nat} {cursor : Cursor}
    {error : DecodeError} :
    (Reader.runFrom (readNested version maxSize) cursor).1 = .error error ↔
      Reader.lengthFault .hashingInfo maxSize (cursor.rest.take 4) (cursor.rest.drop 4).length =
          some error ∨
        ∃ hashingInfo behind, Encoding.Fits hashingInfo ∧ hashingInfo.length ≤ maxSize ∧
          cursor.rest = Encoding.prefixed hashingInfo ++ behind ∧
          Reader.lengthFault .signingInfos (maxSize - hashingInfo.length) (behind.take 4)
            (behind.drop 4).length = some error := by
  rw [readNested, Reader.bind_eq_error_iff, Reader.bytesUpTo_eq_error_iff]
  apply or_congr_right
  constructor
  · rintro ⟨hashingInfo, between, read, failed⟩
    obtain ⟨⟨fits, within⟩, rfl, here⟩ := (Reader.exact_bytesUpTo _ _ _ _ _).mp read
    rw [Reader.bind_eq_error_iff, Reader.bytesUpTo_eq_error_iff, Cursor.rest_advance] at failed
    rcases failed with refused | ⟨_, _, _, impossible⟩
    · exact ⟨hashingInfo, _, fits, within, (List.prefix_iff_eq_append.mp here).symm, refused⟩
    · cases impossible
  · rintro ⟨hashingInfo, behind, fits, within, split, refused⟩
    have here : Encoding.prefixed hashingInfo <+: cursor.rest := split ▸ List.prefix_append _ _
    refine ⟨hashingInfo, _, (Reader.exact_bytesUpTo _ _ _ _ _).mpr ⟨⟨fits, within⟩, rfl, here⟩, ?_⟩
    rw [Reader.bind_eq_error_iff, Reader.bytesUpTo_eq_error_iff, Cursor.rest_advance, split,
      List.drop_left]
    exact .inl refused

theorem decode_of_short {buffer : Bytes} {maxSize : Nat} (short : buffer.length < 4) :
    decode buffer maxSize = .error (.decode (.truncated .version 4 buffer.length)) := by
  have few : (Cursor.start buffer).remaining < 4 := short
  rw [decode, Reader.runFrom_u32_of_lt few]
  rfl

theorem decode_of_version {buffer rest : Bytes} {maxSize : Nat} {version : UInt32}
    (split : buffer = Encoding.u32 version ++ rest) :
    decode buffer maxSize =
      if version ∈ supportedVersions then
        (Reader.runFrom (readNested version maxSize) ((Cursor.start buffer).advance 4)).1.mapError
          .decode
      else
        .error (.unsupportedVersion version) := by
  have here : Encoding.u32 version <+: (Cursor.start buffer).rest := by
    rw [split]
    exact List.prefix_append _ _
  have read := (Reader.exact_u32 .version _ version _).mpr ⟨trivial, rfl, here⟩
  rw [decode, read]
  simp only [List.contains_iff_mem, Encoding.length_u32]
  by_cases supported : version ∈ supportedVersions
  · rw [if_pos supported, if_pos supported]
    cases (Reader.runFrom (readNested version maxSize) ((Cursor.start buffer).advance 4)).1 with
    | error error => rfl
    | ok envelope => rfl
  · rw [if_neg supported, if_neg supported]

theorem exists_version {buffer : Bytes} (enough : ¬ buffer.length < 4) :
    ∃ version rest, buffer = Encoding.u32 version ++ rest := by
  have four : (buffer.take 4).length = 4 := by
    rw [List.length_take]
    omega
  refine ⟨UInt32.ofNat (Bytes.toNatLE (buffer.take 4)), buffer.drop 4, ?_⟩
  rw [Encoding.u32_ofNat_toNatLE four, List.take_append_drop]

theorem rest_behind_version {buffer rest : Bytes} {version : UInt32}
    (split : buffer = Encoding.u32 version ++ rest) :
    ((Cursor.start buffer).advance 4).rest = rest := by
  rw [Cursor.rest_advance, Cursor.rest_start, split]
  exact List.drop_left' (Encoding.length_u32 version)

theorem decode_eq_ok_iff {buffer : Bytes} {maxSize : Nat} {envelope : Envelope} :
    decode buffer maxSize = .ok envelope ↔ envelope.Opens buffer maxSize := by
  by_cases short : buffer.length < 4
  · rw [decode_of_short short]
    constructor
    · intro impossible
      cases impossible
    · intro opens
      have bounded := opens.atHead.length_le
      rw [toBytes, List.length_append, List.length_append, Encoding.length_u32] at bounded
      omega
  · obtain ⟨version, rest, split⟩ := exists_version short
    have behind := rest_behind_version split
    have sameVersion (here : Encoding.u32 envelope.version <+: buffer) :
        envelope.version = version :=
      (Reader.exact_u32 .version).unique trivial trivial here (split ▸ List.prefix_append _ _)
    rw [decode_of_version split]
    constructor
    · intro decoded
      by_cases supported : version ∈ supportedVersions
      · rw [if_pos supported] at decoded
        have read := mapError_eq_ok_iff.mp decoded
        obtain ⟨rfl, hashingFits, signersFit, within, here⟩ := readNested_eq_ok_iff.mp read
        rw [behind] at here
        refine ⟨supported, hashingFits, signersFit, within, ?_⟩
        rw [toBytes, List.append_assoc, split]
        exact (List.prefix_append_right_inj _).mpr here
      · rw [if_neg supported] at decoded
        cases decoded
    · rintro ⟨supported, hashingFits, signersFit, within, atHead⟩
      rw [toBytes, List.append_assoc] at atHead
      have versionHere := ((append_isPrefix_iff _ _ _).mp atHead).1
      obtain rfl := sameVersion versionHere
      have read : (Reader.runFrom (readNested envelope.version maxSize)
          ((Cursor.start buffer).advance 4)).1 = .ok envelope := by
        refine readNested_eq_ok_iff.mpr ⟨rfl, hashingFits, signersFit, within, ?_⟩
        rw [split] at atHead
        rw [behind]
        exact (List.prefix_append_right_inj _).mp atHead
      rw [if_pos supported, read]
      rfl

end Envelope

end PackageSignature

import PackageSignature.Proofs.Record.Faults

/-! What the decoders accept. A buffer is accepted as a record exactly when the encoding of
that record stands in front of it and the record can be written down at all; the record is
then the only one, and its encoding is what was consumed. For the envelope the two nested
records have to keep within one budget besides, and what the first of them takes of it is
never more than there is. -/

namespace PackageSignature

open Slot

namespace Reader

variable {α : Type} {reader : Reader α} {encode : α → Bytes} {fits : α → Prop}

theorem Exact.decode_eq_ok_iff_tail (exact : Exact reader encode fits) {buffer : Bytes}
    {value : α} :
    decode reader buffer = .ok value ↔
      (∃ tail, buffer = encode value ++ tail) ∧ fits value := by
  rw [exact.decode_eq_ok]
  constructor
  · intro accepted
    obtain ⟨fit, tail, split⟩ := accepted
    exact ⟨⟨tail, split.symm⟩, fit⟩
  · intro accepted
    obtain ⟨⟨tail, split⟩, fit⟩ := accepted
    exact ⟨fit, tail, split.symm⟩

theorem Exact.decode_encode_iff (exact : Exact reader encode fits) {value : α} :
    decode reader (encode value) = .ok value ↔ fits value := by
  rw [exact.decode_eq_ok]
  exact and_iff_left List.prefix_rfl

theorem Exact.consumes (exact : Exact reader encode fits) {buffer : Bytes} {value : α}
    (accepted : decode reader buffer = .ok value) :
    ∃ after, runFrom reader (Cursor.start buffer) = (.ok value, after) ∧
      buffer.take after.position = encode value ∧ buffer = encode value ++ after.rest := by
  obtain ⟨after, outcome⟩ := outcome_eq_iff.mp accepted
  obtain ⟨-, rfl, here⟩ := (exact _ value after).mp outcome
  have position : ((Cursor.start buffer).advance (encode value).length).position =
      (encode value).length := Nat.zero_add _
  refine ⟨_, outcome, ?_, ?_⟩
  · rw [position]
    exact eq_take_of_isPrefix here
  · rw [Cursor.rest_advance]
    exact (List.prefix_iff_eq_append.mp here).symm

theorem Exact.split_unique (exact : Exact reader encode fits) {first second : α}
    {firstTail secondTail : Bytes} (firstFits : fits first) (secondFits : fits second)
    (same : encode first ++ firstTail = encode second ++ secondTail) :
    first = second ∧ firstTail = secondTail := by
  have equal : first = second :=
    exact.unique firstFits secondFits (List.prefix_append _ firstTail) ⟨secondTail, same.symm⟩
  subst equal
  exact ⟨rfl, List.append_cancel_left same⟩

end Reader

/-- Both records are accepted where they stand in front and nowhere else. -/
theorem accepted_iff_encoded_in_front :
    ((∀ buffer (info : HashingInfo), HashingInfo.decode buffer = .ok info ↔
        (∃ tail, buffer = info.toBytes ++ tail) ∧ info.Fits) ∧
      (∀ info : HashingInfo, HashingInfo.decode info.toBytes = .ok info ↔ info.Fits) ∧
      (∀ (first second : HashingInfo) (firstTail secondTail : Bytes), first.Fits → second.Fits →
        first.toBytes ++ firstTail = second.toBytes ++ secondTail →
          first = second ∧ firstTail = secondTail) ∧
      (∀ buffer (info : HashingInfo), HashingInfo.decode buffer = .ok info →
        ∃ after, Reader.runFrom HashingInfo.read (Cursor.start buffer) = (.ok info, after) ∧
          buffer.take after.position = info.toBytes ∧ buffer = info.toBytes ++ after.rest)) ∧
    ((∀ buffer (info : SigningInfo), SigningInfo.decode buffer = .ok info ↔
        (∃ tail, buffer = info.toBytes ++ tail) ∧ info.Fits) ∧
      (∀ info : SigningInfo, SigningInfo.decode info.toBytes = .ok info ↔ info.Fits) ∧
      (∀ (first second : SigningInfo) (firstTail secondTail : Bytes), first.Fits → second.Fits →
        first.toBytes ++ firstTail = second.toBytes ++ secondTail →
          first = second ∧ firstTail = secondTail) ∧
      (∀ buffer (info : SigningInfo), SigningInfo.decode buffer = .ok info →
        ∃ after, Reader.runFrom SigningInfo.read (Cursor.start buffer) = (.ok info, after) ∧
          buffer.take after.position = info.toBytes ∧ buffer = info.toBytes ++ after.rest)) := by
  have hashing := HashingInfo.exact_read
  have signing := SigningInfo.exact_read
  refine ⟨⟨?_, ?_, ?_, ?_⟩, ⟨?_, ?_, ?_, ?_⟩⟩
  · intro buffer info
    exact hashing.decode_eq_ok_iff_tail
  · intro info
    exact hashing.decode_encode_iff
  · intro first second firstTail secondTail firstFits secondFits same
    exact hashing.split_unique firstFits secondFits same
  · intro buffer info accepted
    exact hashing.consumes accepted
  · intro buffer info
    exact signing.decode_eq_ok_iff_tail
  · intro info
    exact signing.decode_encode_iff
  · intro first second firstTail secondTail firstFits secondFits same
    exact signing.split_unique firstFits secondFits same
  · intro buffer info accepted
    exact signing.consumes accepted

def saltedHashing : HashingInfo where
  hashAlgorithm := HashingInfo.sha256
  log2BlockSize := HashingInfo.log2BlockSize4096
  salt := [0x51, 0x52]
  rootHash := [0x5a, 0x5b, 0x5c]

theorem accepted_iff_encoded_in_front_byte_behind :
    saltedHashing.Fits ∧ SignerList.sampleSigner.Fits ∧
      (∃ after, Reader.runFrom HashingInfo.read (Cursor.start (saltedHashing.toBytes ++ [0xff])) =
          (.ok saltedHashing, after) ∧
        (saltedHashing.toBytes ++ [0xff]).take after.position = saltedHashing.toBytes ∧
        saltedHashing.toBytes ++ [0xff] = saltedHashing.toBytes ++ after.rest) ∧
      (∃ after, Reader.runFrom SigningInfo.read
            (Cursor.start (SignerList.sampleSigner.toBytes ++ [0xff])) =
          (.ok SignerList.sampleSigner, after) ∧
        (SignerList.sampleSigner.toBytes ++ [0xff]).take after.position =
          SignerList.sampleSigner.toBytes ∧
        SignerList.sampleSigner.toBytes ++ [0xff] =
          SignerList.sampleSigner.toBytes ++ after.rest) := by
  obtain ⟨⟨hashed, -, -, hashingConsumed⟩, ⟨signed, -, -, signingConsumed⟩⟩ :=
    accepted_iff_encoded_in_front
  have hashingFits : saltedHashing.Fits := ⟨by decide, by decide⟩
  have signerFits := SignerList.sampleSigner_fits
  have hashingAccepted := (hashed _ _).mpr ⟨⟨[0xff], rfl⟩, hashingFits⟩
  have signerAccepted := (signed _ _).mpr ⟨⟨[0xff], rfl⟩, signerFits⟩
  exact ⟨hashingFits, signerFits, hashingConsumed _ _ hashingAccepted,
    signingConsumed _ _ signerAccepted⟩

/-! ### The envelope -/

namespace Envelope

variable {buffer : Bytes} {maxSize : Nat} {envelope : Envelope}

theorem opens_iff :
    envelope.Opens buffer maxSize ↔
      envelope.version ∈ supportedVersions ∧
      Encoding.Fits envelope.hashingInfo ∧ Encoding.Fits envelope.signingInfos ∧
      envelope.hashingInfo.length + envelope.signingInfos.length ≤ maxSize ∧
      ∃ tail, buffer = envelope.toBytes ++ tail := by
  constructor
  · intro opens
    obtain ⟨tail, split⟩ := opens.atHead
    exact ⟨opens.supported, opens.hashingFits, opens.signersFit, opens.withinBudget, tail,
      split.symm⟩
  · intro parts
    obtain ⟨supported, hashingFits, signersFit, within, tail, split⟩ := parts
    exact ⟨supported, hashingFits, signersFit, within, tail, split.symm⟩

theorem Opens.mono {larger : Nat} (opens : envelope.Opens buffer maxSize)
    (more : maxSize ≤ larger) : envelope.Opens buffer larger :=
  { opens with withinBudget := Nat.le_trans opens.withinBudget more }

/-- Whatever the budgets are, a buffer holds one envelope at most. -/
theorem Opens.unique {other : Envelope} {otherSize : Nat} (opens : envelope.Opens buffer maxSize)
    (otherOpens : other.Opens buffer otherSize) : envelope = other := by
  have decoded := decode_eq_ok_iff.mpr (opens.mono (Nat.le_add_right maxSize otherSize))
  have otherDecoded := decode_eq_ok_iff.mpr (otherOpens.mono (Nat.le_add_left otherSize maxSize))
  rw [decoded] at otherDecoded
  exact Except.ok.inj otherDecoded

theorem budget_of_reported {error : DecodeError}
    (failed : decode buffer maxSize = .error (.decode error))
    (second : error.field = .signingInfos) :
    ∃ (version : UInt32) (hashingInfo rest : Bytes), version ∈ supportedVersions ∧
      Encoding.Fits hashingInfo ∧ hashingInfo.length ≤ maxSize ∧
      buffer = Encoding.u32 version ++ Encoding.prefixed hashingInfo ++ rest ∧
      ∀ length limit, error = .tooLong .signingInfos length limit →
        limit + hashingInfo.length = maxSize ∧ limit < length := by
  rcases decode_eq_error_iff.mp failed with
    fault | ⟨version, _, supported, split, fault | ⟨hashingInfo, rest, fits, within, rfl, fault⟩⟩
  · rw [fault.field_eq] at second
    cases second
  · rw [fault.field_eq] at second
    cases second
  · rw [← List.append_assoc] at split
    refine ⟨version, hashingInfo, rest, supported, fits, within, split, ?_⟩
    intro length limit reported
    subst reported
    cases fault with
    | tooLong above => exact ⟨Nat.sub_add_cancel within, above⟩

/-- An envelope is accepted where it stands in front, is of a version that is understood and
keeps within the budget. The budget is never overdrawn. -/
theorem accepted_iff_within_budget :
    (∀ buffer maxSize envelope, decode buffer maxSize = .ok envelope ↔
      envelope.version ∈ supportedVersions ∧
      Encoding.Fits envelope.hashingInfo ∧ Encoding.Fits envelope.signingInfos ∧
      envelope.hashingInfo.length + envelope.signingInfos.length ≤ maxSize ∧
      ∃ tail, buffer = envelope.toBytes ++ tail) ∧
    (∀ (envelope : Envelope) (tail : Bytes) (maxSize : Nat),
      envelope.version ∈ supportedVersions →
      Encoding.Fits envelope.hashingInfo → Encoding.Fits envelope.signingInfos →
      envelope.hashingInfo.length + envelope.signingInfos.length ≤ maxSize →
        decode (envelope.toBytes ++ tail) maxSize = .ok envelope) ∧
    (∀ (buffer : Bytes) (maxSize otherSize : Nat) (envelope other : Envelope),
      envelope.Opens buffer maxSize → other.Opens buffer otherSize → envelope = other) ∧
    (∀ buffer maxSize envelope, decode buffer maxSize = .ok envelope →
      maxSize - envelope.hashingInfo.length + envelope.hashingInfo.length = maxSize ∧
      envelope.signingInfos.length ≤ maxSize - envelope.hashingInfo.length) ∧
    (∀ buffer maxSize error, decode buffer maxSize = .error (.decode error) →
      error.field = .signingInfos →
        ∃ (version : UInt32) (hashingInfo rest : Bytes), version ∈ supportedVersions ∧
          Encoding.Fits hashingInfo ∧ hashingInfo.length ≤ maxSize ∧
          buffer = Encoding.u32 version ++ Encoding.prefixed hashingInfo ++ rest ∧
          ∀ length limit, error = .tooLong .signingInfos length limit →
            limit + hashingInfo.length = maxSize ∧ limit < length) := by
  refine ⟨?_, ?_, ?_, ?_, ?_⟩
  · intro buffer maxSize envelope
    rw [decode_eq_ok_iff, opens_iff]
  · intro envelope tail maxSize supported hashingFits signersFit within
    rw [decode_eq_ok_iff, opens_iff]
    exact ⟨supported, hashingFits, signersFit, within, tail, rfl⟩
  · intro buffer maxSize otherSize envelope other opens otherOpens
    exact opens.unique otherOpens
  · intro buffer maxSize envelope decoded
    have within := (decode_eq_ok_iff.mp decoded).withinBudget
    omega
  · intro buffer maxSize error failed second
    exact budget_of_reported failed second

def fullEnvelope : Envelope where
  version := 2
  hashingInfo := [1, 2, 3]
  signingInfos := [4, 5, 6, 7, 8]

theorem accepted_iff_within_budget_last_byte :
    decode (fullEnvelope.toBytes ++ [0xff]) 8 = .ok fullEnvelope ∧
      (8 - 3 + 3 = 8 ∧ 5 ≤ 8 - 3) ∧
      decode (fullEnvelope.toBytes ++ [0xff]) 7 =
        .error (.decode (.tooLong .signingInfos 5 4)) ∧
      (∃ (version : UInt32) (hashingInfo rest : Bytes), version ∈ supportedVersions ∧
        Encoding.Fits hashingInfo ∧ hashingInfo.length ≤ 7 ∧
        fullEnvelope.toBytes ++ [0xff] =
          Encoding.u32 version ++ Encoding.prefixed hashingInfo ++ rest ∧
        ∀ length limit,
          DecodeError.tooLong .signingInfos 5 4 = .tooLong .signingInfos length limit →
            limit + hashingInfo.length = 7 ∧ limit < length) := by
  obtain ⟨-, roundTrip, -, budget, reported⟩ := accepted_iff_within_budget
  have decoded := roundTrip fullEnvelope [0xff] 8 (by decide) (by decide) (by decide) (by decide)
  have refused : decode (fullEnvelope.toBytes ++ [0xff]) 7 =
      .error (.decode (.tooLong .signingInfos 5 4)) := rfl
  exact ⟨decoded, budget _ _ _ decoded, refused, reported _ _ _ refused rfl⟩

end Envelope

end PackageSignature

import PackageSignature.Proofs.Record.Grammar
import PackageSignature.Proofs.Verification.Ends

/-! What the budget of an envelope decides. The two nested records share it, and all it can do
is to refuse one of them for its declared length. Under a larger budget everything else about
the bytes stays as it is: what was accepted is accepted with the same result, and what was
refused for another reason is refused for that reason. -/

namespace PackageSignature

namespace Slot

theorem Fault.of_larger_limit {field : Field} {small large : Nat} {rest : Bytes}
    {error : DecodeError} (less : small ≤ large)
    (fault : Fault ⟨field, .bytes (some small)⟩ rest error) :
    Fault ⟨field, .bytes (some large)⟩ rest error ∨
      ∃ (length : UInt32) (behind : Bytes), rest = Encoding.u32 length ++ behind ∧
        small < length.toNat ∧ error = .tooLong field length.toNat small := by
  cases fault with
  | lengthField short => exact .inl (.lengthField short)
  | tooLong above => exact .inr ⟨_, _, rfl, above, rfl⟩
  | body within short =>
      left
      refine .body ?_ short
      intro most allowed
      cases allowed
      exact Nat.le_trans (within small rfl) less

end Slot

namespace Envelope

open Slot

variable {buffer : Bytes} {small large : Nat} {error : DecodeError}

/-- A nested record declares more than the budget allows: the first one more than all of it, or
the second one more than the first one left. -/
inductive Exceeds (buffer : Bytes) (maxSize : Nat) : DecodeError → Prop
  | hashingInfo {version length : UInt32} {rest : Bytes}
      (supported : version ∈ supportedVersions)
      (split : buffer = Encoding.u32 version ++ Encoding.u32 length ++ rest)
      (above : maxSize < length.toNat) :
      Exceeds buffer maxSize (.tooLong .hashingInfo length.toNat maxSize)
  | signingInfos {version length : UInt32} {hashingInfo rest : Bytes}
      (supported : version ∈ supportedVersions) (fits : Encoding.Fits hashingInfo)
      (within : hashingInfo.length ≤ maxSize)
      (split : buffer = Encoding.u32 version ++ Encoding.prefixed hashingInfo ++
        Encoding.u32 length ++ rest)
      (above : maxSize - hashingInfo.length < length.toNat) :
      Exceeds buffer maxSize
        (.tooLong .signingInfos length.toNat (maxSize - hashingInfo.length))

theorem Exceeds.decode_eq (exceeds : Exceeds buffer small error) :
    decode buffer small = .error (.decode error) := by
  rw [decode_eq_error_iff]
  right
  cases exceeds with
  | hashingInfo supported split above =>
      rw [List.append_assoc] at split
      exact ⟨_, _, supported, split, .inl (.tooLong above)⟩
  | signingInfos supported fits within split above =>
      rw [List.append_assoc, List.append_assoc] at split
      exact ⟨_, _, supported, split, .inr ⟨_, _, fits, within, rfl, .tooLong above⟩⟩

private theorem decode_eq_or_exceeds_of_supported {version : UInt32} {rest : Bytes}
    (less : small ≤ large) (split : buffer = Encoding.u32 version ++ rest)
    (supported : version ∈ supportedVersions) :
    decode buffer small = decode buffer large ∨ ∃ error, Exceeds buffer small error := by
  cases outcome : decode buffer small with
  | ok envelope =>
      have opens := decode_eq_ok_iff.mp outcome
      exact .inl (decode_eq_ok_iff.mpr (opens.mono less)).symm
  | error reason =>
      cases reason with
      | unsupportedVersion refused =>
          exact (decode_ne_unsupportedVersion split supported outcome).elim
      | decode error =>
          have larger := @decode_eq_error_iff_of_supported buffer large error version rest split
            supported
          rcases (decode_eq_error_iff_of_supported split supported).mp outcome with
            fault | ⟨hashingInfo, behind, fits, within, restEq, fault⟩
          · rcases fault.of_larger_limit less with same | ⟨length, left, restEq, above, -⟩
            · exact .inl (larger.mpr (.inl same)).symm
            · rw [restEq, ← List.append_assoc] at split
              exact .inr ⟨_, .hashingInfo supported split above⟩
          · have more := Nat.sub_le_sub_right less hashingInfo.length
            rcases fault.of_larger_limit more with same | ⟨length, left, behindEq, above, -⟩
            · exact .inl (larger.mpr
                (.inr ⟨hashingInfo, behind, fits, Nat.le_trans within less, restEq, same⟩)).symm
            · rw [restEq, behindEq, ← List.append_assoc, ← List.append_assoc] at split
              exact .inr ⟨_, .signingInfos supported fits within split above⟩

theorem decode_eq_or_exceeds (buffer : Bytes) (less : small ≤ large) :
    decode buffer small = decode buffer large ∨ ∃ error, Exceeds buffer small error := by
  by_cases short : buffer.length < 4
  · left
    rw [decode_of_short short, decode_of_short short]
  · obtain ⟨version, rest, split⟩ := exists_version short
    by_cases supported : version ∈ supportedVersions
    · exact decode_eq_or_exceeds_of_supported less split supported
    · left
      rw [decode_of_version split, decode_of_version split, if_neg supported, if_neg supported]

theorem Exceeds.buffer_ne_nil (exceeds : Exceeds buffer small error) : buffer ≠ [] := by
  cases exceeds with
  | hashingInfo supported split above =>
      rw [List.append_assoc] at split
      exact Verification.nonempty_of_version split
  | signingInfos supported fits within split above =>
      rw [List.append_assoc, List.append_assoc] at split
      exact Verification.nonempty_of_version split

end Envelope

namespace Verification

variable {bytes : Bytes} {small large : Nat} {error : DecodeError}

theorem verify_of_exceeds (primitives : Primitives) (fileSize : UInt64) (choice : SignerChoice)
    (exceeds : Envelope.Exceeds bytes small error) :
    verify primitives fileSize bytes choice small = .error (.decode error) :=
  verify_of_fault exceeds.buffer_ne_nil exceeds.decode_eq

theorem verify_congr_budget (primitives : Primitives) (fileSize : UInt64)
    (choice : SignerChoice) (same : Envelope.decode bytes small = Envelope.decode bytes large) :
    verify primitives fileSize bytes choice small =
      verify primitives fileSize bytes choice large := by
  rw [verify, verify, decodeEnvelope, decodeEnvelope, same]

/-- A smaller budget only refuses, and it refuses nothing but the declared length of a nested
record. So a larger one takes no acceptance back, changes no result, and leaves every other
refusal as it is. -/
theorem smaller_budget_only_refuses (primitives : Primitives) (fileSize : UInt64) (bytes : Bytes)
    (choice : SignerChoice) {small large : Nat} (less : small ≤ large) :
    (verify primitives fileSize bytes choice small =
        verify primitives fileSize bytes choice large ∨
      ∃ error, Envelope.Exceeds bytes small error ∧
        verify primitives fileSize bytes choice small = .error (.decode error)) ∧
    (∀ verified, verify primitives fileSize bytes choice small = .ok verified →
      verify primitives fileSize bytes choice large = .ok verified) ∧
    (∀ error, verify primitives fileSize bytes choice small = .error error →
      (∀ field length limit, error ≠ .decode (.tooLong field length limit)) →
        verify primitives fileSize bytes choice large = .error error) := by
  rcases Envelope.decode_eq_or_exceeds bytes less with same | ⟨error, exceeds⟩
  · have equal := verify_congr_budget primitives fileSize choice same
    rw [equal]
    exact ⟨.inl rfl, fun _ accepted => accepted, fun _ refused _ => refused⟩
  · have refused := verify_of_exceeds primitives fileSize choice exceeds
    refine ⟨.inr ⟨error, exceeds, refused⟩, ?_, ?_⟩
    · intro verified accepted
      rw [refused] at accepted
      cases accepted
    · intro other same another
      rw [refused] at same
      cases same
      cases exceeds with
      | hashingInfo supported split above => exact (another _ _ _ rfl).elim
      | signingInfos supported fits within split above => exact (another _ _ _ rfl).elim

def sampleBytes : Bytes :=
  (sampleEnvelope SignerList.sampleSigner).toBytes

theorem sampleBytes_opens {maxSize : Nat} (enough : 87 ≤ maxSize) :
    (sampleEnvelope SignerList.sampleSigner).Opens sampleBytes maxSize :=
  { sampleEnvelope_opens [] sampleSigners_short with
    withinBudget := enough
    atHead := List.prefix_rfl }

theorem sampleBytes_accepted {maxSize : Nat} (enough : 87 ≤ maxSize) :
    verify samplePrimitives 7 sampleBytes .default maxSize = .ok sampleRecords.verified := by
  rw [verify_of_opens (sampleBytes_opens enough)]
  exact verifyDecoded_sound (.inl rfl)

theorem smaller_budget_only_refuses_last_byte :
    86 ≤ 87 ∧
      verify samplePrimitives 7 sampleBytes .default 86 =
        .error (.decode (.tooLong .signingInfos 72 71)) ∧
      (verify samplePrimitives 7 sampleBytes .default 86 =
          verify samplePrimitives 7 sampleBytes .default 87 ∨
        ∃ error, Envelope.Exceeds sampleBytes 86 error ∧
          verify samplePrimitives 7 sampleBytes .default 86 = .error (.decode error)) ∧
      verify samplePrimitives 7 sampleBytes .default 14 =
        .error (.decode (.tooLong .hashingInfo 15 14)) ∧
      87 ≤ 100 ∧
      verify samplePrimitives 7 sampleBytes .default 87 = .ok sampleRecords.verified ∧
      verify samplePrimitives 7 sampleBytes .default 100 = .ok sampleRecords.verified := by
  have accepted := sampleBytes_accepted (Nat.le_refl 87)
  have smaller := smaller_budget_only_refuses samplePrimitives 7 sampleBytes .default
    (by decide : 86 ≤ 87)
  have larger := smaller_budget_only_refuses samplePrimitives 7 sampleBytes .default
    (by decide : 87 ≤ 100)
  exact ⟨by decide, rfl, smaller.1, rfl, by decide, accepted, larger.2.1 _ accepted⟩

end Verification

end PackageSignature

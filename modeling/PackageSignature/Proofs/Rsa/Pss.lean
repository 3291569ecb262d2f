import PackageSignature.Proofs.Rsa.KeyPair
import PackageSignature.Rsa.Pss

/-! The probabilistic padding. A mask that is laid over a block comes off again, up to the bits
in front that are cleared, so a padded hash is found to match and the key accepts what was
signed with a salt of the length it expects. -/

namespace PackageSignature.Rsa

namespace Pss

variable {digest : Digest} {salt hash block : Bytes} {bits unused : Nat}

theorem length_maskBlocks (digest : Digest) (seed : Bytes) (count counter : Nat) :
    (maskBlocks digest seed count counter).length = count * digest.size := by
  induction count generalizing counter with
  | zero => rw [maskBlocks, List.length_nil, Nat.zero_mul]
  | succ count ih => rw [maskBlocks, List.length_append, ih, Digest.length_hash, Nat.succ_mul,
      Nat.add_comm]

@[simp] theorem length_mask (digest : Digest) (seed : Bytes) (length : Nat) :
    (mask digest seed length).length = length := by
  have enough : length ≤ (length + digest.size - 1) / digest.size * digest.size := by
    cases digest <;> simp only [Digest.size] <;> omega
  rw [mask, List.length_take, length_maskBlocks]
  exact Nat.min_eq_left enough

theorem byte_unmask {width : Nat} (narrow : width ≤ 8) {byte : UInt8} (under : UInt8)
    (small : byte.toNat < 2 ^ width) :
    UInt8.ofNat ((UInt8.ofNat ((byte ^^^ under).toNat % 2 ^ width) ^^^ under).toNat % 2 ^ width) =
      byte := by
  have within : 2 ^ width ≤ 2 ^ 8 := Nat.pow_le_pow_right (by decide) narrow
  have inner : (byte ^^^ under).toNat % 2 ^ width < 256 :=
    Nat.lt_of_lt_of_le (Nat.mod_lt _ (Nat.pow_pos (by decide))) within
  have uncovered :
      (UInt8.ofNat ((byte ^^^ under).toNat % 2 ^ width) ^^^ under).toNat % 2 ^ width =
        byte.toNat := by
    calc
      (UInt8.ofNat ((byte ^^^ under).toNat % 2 ^ width) ^^^ under).toNat % 2 ^ width
          = ((byte.toNat ^^^ under.toNat) % 2 ^ width ^^^ under.toNat) % 2 ^ width := by
        rw [UInt8.toNat_xor, UInt8.toNat_ofNat_of_lt' inner, UInt8.toNat_xor]
      _ = (byte.toNat ^^^ under.toNat ^^^ under.toNat) % 2 ^ width := by
        rw [Nat.xor_mod_two_pow, Nat.mod_mod, ← Nat.xor_mod_two_pow]
      _ = byte.toNat := by
        rw [Nat.xor_assoc, Nat.xor_self, Nat.xor_zero, Nat.mod_eq_of_lt small]
  rw [uncovered, UInt8.ofNat_toNat]

theorem xor_xor_cancel {plain under : Bytes} (same : plain.length = under.length) :
    Bytes.xor (Bytes.xor plain under) under = plain := by
  induction plain generalizing under with
  | nil => rfl
  | cons byte rest ih =>
      cases under with
      | nil => cases same
      | cons other others =>
          have cancelled : byte ^^^ other ^^^ other = byte := by
            rw [UInt8.xor_assoc, UInt8.xor_self, UInt8.xor_zero]
          have behind := ih (Nat.succ.inj same)
          rw [Bytes.xor] at behind ⊢
          rw [Bytes.xor, List.zipWith_cons_cons, List.zipWith_cons_cons, cancelled]
          exact congrArg _ behind

/-- A mask comes off again where the cleared bits were clear before. -/
theorem clearLeading_unmask {plain under : Bytes} (same : plain.length = under.length)
    (clear : clearsLeading unused plain = true) :
    clearLeading unused (Bytes.xor (clearLeading unused (Bytes.xor plain under)) under) =
      plain := by
  cases plain with
  | nil => rfl
  | cons byte rest =>
      cases under with
      | nil => cases same
      | cons other others =>
          have small : byte.toNat < 2 ^ (8 - unused) := by
            have first := of_decide_eq_true clear
            rw [Nat.one_shiftLeft] at first
            exact first
          have behind := xor_xor_cancel (Nat.succ.inj same)
          rw [Bytes.xor] at behind
          simp only [Bytes.xor, List.zipWith_cons_cons, clearLeading, Nat.one_shiftLeft]
          rw [byte_unmask (Nat.sub_le 8 unused) other small]
          exact congrArg _ behind

theorem clearsLeading_clearLeading (unused : Nat) (bytes : Bytes) :
    clearsLeading unused (clearLeading unused bytes) = true := by
  cases bytes with
  | nil =>
      apply decide_eq_true
      rw [Nat.one_shiftLeft]
      exact Nat.pow_pos (by decide)
  | cons byte rest =>
      have narrow : 2 ^ (8 - unused) ≤ 2 ^ 8 :=
        Nat.pow_le_pow_right (by decide) (Nat.sub_le 8 unused)
      have cleared : byte.toNat % 2 ^ (8 - unused) < 2 ^ (8 - unused) :=
        Nat.mod_lt _ (Nat.pow_pos (by decide))
      apply decide_eq_true
      rw [clearLeading, List.headD_cons, Nat.one_shiftLeft,
        UInt8.toNat_ofNat_of_lt' (Nat.lt_of_lt_of_le cleared narrow)]
      exact cleared

@[simp] theorem length_clearLeading (unused : Nat) (bytes : Bytes) :
    (clearLeading unused bytes).length = bytes.length := by
  cases bytes <;> rfl

@[simp] theorem length_saltedHash (digest : Digest) (hash salt : Bytes) :
    (saltedHash digest hash salt).length = digest.size :=
  digest.length_hash _

/-! ### The padded block -/

/-- What a padding covers with the mask: a one and the salt behind zero bytes. -/
def plain (filling : Nat) (salt : Bytes) : Bytes :=
  Bytes.zeros filling ++ [0x01] ++ salt

theorem length_plain (filling : Nat) (salt : Bytes) :
    (plain filling salt).length = filling + 1 + salt.length := by
  simp only [plain, Bytes.zeros, List.length_append, List.length_replicate, List.length_cons,
    List.length_nil]

theorem clearsLeading_plain (spare : unused ≤ 7) (filling : Nat) (salt : Bytes) :
    clearsLeading unused (plain filling salt) = true := by
  have two : 2 ^ 1 ≤ 2 ^ (8 - unused) := Nat.pow_le_pow_right (by decide) (by omega)
  apply decide_eq_true
  rw [Nat.one_shiftLeft]
  cases filling with
  | zero => exact Nat.lt_of_lt_of_le (by decide : (1 : UInt8).toNat < 2 ^ 1) two
  | succ filling => exact Nat.lt_of_lt_of_le (by decide : (0 : UInt8).toNat < 2 ^ 1) two

theorem take_plain (filling : Nat) (salt : Bytes) :
    (plain filling salt).take filling = Bytes.zeros filling := by
  rw [plain, List.append_assoc]
  exact List.take_left' List.length_replicate

theorem drop_plain (filling : Nat) (salt : Bytes) :
    (plain filling salt).drop filling = 0x01 :: salt := by
  rw [plain, List.append_assoc]
  exact List.drop_left' List.length_replicate

theorem exists_parts_of_pad (padded : pad? digest salt bits hash = some block) :
    ∃ filling masked,
      block = masked ++ saltedHash digest hash salt ++ [0xbc] ∧
      filling + salt.length + digest.size + 2 = (bits + 7) / 8 ∧
      masked = clearLeading (8 * ((bits + 7) / 8) - bits)
        (Bytes.xor (plain filling salt)
          (mask digest (saltedHash digest hash salt) (filling + 1 + salt.length))) ∧
      masked.length = filling + 1 + salt.length := by
  rw [pad?] at padded
  obtain ⟨within, padded⟩ := Option.ite_none_right_eq_some.mp padded
  cases padded
  have room : (bits + 7) / 8 - digest.size - 1 =
      (bits + 7) / 8 - digest.size - salt.length - 2 + 1 + salt.length := by omega
  refine ⟨(bits + 7) / 8 - digest.size - salt.length - 2, _, rfl, by omega, ?_, ?_⟩
  · rw [room, plain]
  · rw [length_clearLeading, Bytes.xor, List.length_zipWith, length_mask, room]
    change min (plain _ salt).length _ = _
    rw [length_plain, Nat.min_self]

theorem length_of_pad (padded : pad? digest salt bits hash = some block) :
    block.length = (bits + 7) / 8 := by
  obtain ⟨filling, masked, rfl, filled, -, long⟩ := exists_parts_of_pad padded
  rw [List.length_append, List.length_append, long, length_saltedHash, List.length_singleton]
  omega

theorem toNatBE_lt_of_pad (padded : pad? digest salt bits hash = some block) :
    Bytes.toNatBE block < 2 ^ bits := by
  have long := length_of_pad padded
  obtain ⟨filling, masked, rfl, filled, covered, maskedLong⟩ := exists_parts_of_pad padded
  have cleared := clearsLeading_clearLeading (8 * ((bits + 7) / 8) - bits)
    (Bytes.xor (plain filling salt)
      (mask digest (saltedHash digest hash salt) (filling + 1 + salt.length)))
  rw [← covered] at cleared
  cases masked with
  | nil =>
      rw [List.length_nil] at maskedLong
      omega
  | cons first rest =>
      have small : first.toNat < 2 ^ (8 - (8 * ((bits + 7) / 8) - bits)) := by
        have head := of_decide_eq_true cleared
        rw [Nat.one_shiftLeft] at head
        exact head
      let behind := rest ++ saltedHash digest hash salt ++ [0xbc]
      have behindLong : behind.length + 1 = (bits + 7) / 8 := long
      have widths : 8 - (8 * ((bits + 7) / 8) - bits) + 8 * behind.length = bits := by omega
      calc
        Bytes.toNatBE (first :: behind)
            < 2 ^ (8 - (8 * ((bits + 7) / 8) - bits)) * 256 ^ behind.length :=
          Bytes.toNatBE_lt_of_head small
        _ = 2 ^ bits := by rw [Bytes.pow_eq_two_pow, ← pow_add, widths]

theorem matchesHash_of_pad (padded : pad? digest salt bits hash = some block) :
    matchesHash digest salt.length bits hash block = true := by
  have long := length_of_pad padded
  obtain ⟨filling, masked, rfl, filled, covered, maskedLong⟩ := exists_parts_of_pad padded
  have room : (bits + 7) / 8 - digest.size - 1 = masked.length := by omega
  have fillingEq : masked.length - salt.length - 1 = filling := by omega
  have saltedLong := length_saltedHash digest hash salt
  have maskedHere : (masked ++ saltedHash digest hash salt ++ [0xbc]).take masked.length =
      masked := by
    rw [List.append_assoc]
    exact List.take_left
  have saltedHere : ((masked ++ saltedHash digest hash salt ++ [0xbc]).drop masked.length).take
      digest.size = saltedHash digest hash salt := by
    rw [List.append_assoc, List.drop_left]
    exact List.take_left' saltedLong
  have opened : clearLeading (8 * ((bits + 7) / 8) - bits)
      (Bytes.xor masked (mask digest (saltedHash digest hash salt) masked.length)) =
        plain filling salt := by
    rw [maskedLong, covered]
    exact clearLeading_unmask (by rw [length_plain, length_mask])
      (clearsLeading_plain (by omega) filling salt)
  have cleared : clearsLeading (8 * ((bits + 7) / 8) - bits) masked = true := by
    rw [covered]
    exact clearsLeading_clearLeading _ _
  have enough : digest.size + salt.length + 2 ≤ (bits + 7) / 8 := by omega
  have saltHere : (plain filling salt).drop (filling + 1) = salt := by
    rw [← List.drop_drop, drop_plain]
    rfl
  simp only [matchesHash, long, room, maskedHere, saltedHere, opened, fillingEq, cleared,
    List.getLast?_concat, take_plain, drop_plain, saltHere, List.head?_cons, beq_self_eq_true,
    decide_eq_true enough, Bool.and_self]

end Pss

open Signing.PrivateKey (applyRsa signPss?)

theorem PublicKey.Inverts.pss_holds {key : PublicKey} {exponent p q : Nat}
    (inverts : key.Inverts exponent p q) {digest : Digest} {salt hash signature : Bytes}
    (signed : signPss? key exponent digest salt hash = some signature) :
    Pss.holds key digest salt.length hash signature = true := by
  obtain ⟨block, padded, rfl⟩ := Option.map_eq_some_iff.mp signed
  have something := inverts.modulus_pos
  have small : Bytes.toNatBE block < key.modulus :=
    Nat.lt_of_lt_of_le (Pss.toNatBE_lt_of_pad padded) (PublicKey.pow_bits_le something.ne')
  have long := Pss.length_of_pad padded
  have fits : block.length ≤ key.size := by
    rw [long]
    exact PublicKey.block_length_le something.ne'
  have recovered : (Bytes.ofNatBE key.size (Bytes.toNatBE block)).drop
      (key.size - (key.bits - 1 + 7) / 8) = block := by
    rw [Bytes.ofNatBE_of_length_le fits, long]
    exact List.drop_left' List.length_replicate
  simp only [Pss.holds, PublicKey.length_applyRsa, inverts.apply_applyRsa small, recovered,
    Pss.matchesHash_of_pad padded, beq_self_eq_true, Bool.and_self]

end PackageSignature.Rsa

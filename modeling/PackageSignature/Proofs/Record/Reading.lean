import PackageSignature.Record.Cursor
import PackageSignature.Record.Encoding

/-! Reading is the inverse of writing. A reader is exact for an encoding when it
accepts a value precisely where the bytes at the cursor begin with the encoding of
that value, and then stops behind it. Every reader of a record is shown to be exact
by chaining the laws of the readers of its fields, and two values of which one buffer
holds both encodings are then the same. -/

namespace PackageSignature

theorem append_isPrefix_iff (front back whole : Bytes) :
    front ++ back <+: whole ↔ front <+: whole ∧ back <+: whole.drop front.length := by
  constructor
  · rintro ⟨tail, rfl⟩
    refine ⟨⟨back ++ tail, by rw [List.append_assoc]⟩, tail, ?_⟩
    rw [List.append_assoc, List.drop_left]
  · rintro ⟨⟨tail, rfl⟩, backHere⟩
    rw [List.drop_left] at backHere
    exact (List.prefix_append_right_inj front).mpr backHere

theorem eq_take_of_isPrefix {front whole : Bytes} (here : front <+: whole) :
    whole.take front.length = front :=
  (List.prefix_iff_eq_take.mp here).symm

theorem Cursor.advance_advance (cursor : Cursor) (first second : Nat) :
    (cursor.advance first).advance second = cursor.advance (first + second) := by
  simp only [advance, Nat.add_assoc]

@[simp] theorem ok_mapError {α ε ε' : Type} (value : α) (change : ε → ε') :
    (Except.ok value).mapError change = .ok value := rfl

@[simp] theorem error_mapError {α ε ε' : Type} (error : ε) (change : ε → ε') :
    (Except.error error : Except ε α).mapError change = .error (change error) := rfl

theorem mapError_eq_ok_iff {α ε ε' : Type} {result : Except ε α} {change : ε → ε'} {value : α} :
    result.mapError change = .ok value ↔ result = .ok value := by
  cases result with
  | ok same => simp only [ok_mapError, Except.ok.injEq]
  | error error => simp only [error_mapError, reduceCtorEq]

namespace Encoding

def Fits (bytes : Bytes) : Prop :=
  bytes.length ≤ maxLength

instance (bytes : Bytes) : Decidable (Fits bytes) :=
  inferInstanceAs (Decidable (bytes.length ≤ maxLength))

theorem u32_ofNat_toNatLE {bytes : Bytes} (four : bytes.length = 4) :
    u32 (UInt32.ofNat (Bytes.toNatLE bytes)) = bytes := by
  have bounded := Bytes.toNatLE_lt bytes
  have inverse := Bytes.ofNatLE_toNatLE bytes
  rw [four] at bounded inverse
  rw [u32, UInt32.toNat_ofNat_of_lt' bounded, inverse]

theorem toNatLE_u32 (value : UInt32) : Bytes.toNatLE (u32 value) = value.toNat := by
  rw [u32, Bytes.toNatLE_ofNatLE]
  exact Nat.mod_eq_of_lt value.toNat_lt

theorem prefixed_eq {bytes : Bytes} (fits : Fits bytes) :
    prefixed bytes = u32 (UInt32.ofNat bytes.length) ++ bytes := by
  have small : bytes.length < UInt32.size := Nat.lt_succ_of_le fits
  rw [prefixed, u32, Nat.min_eq_left fits, UInt32.toNat_ofNat_of_lt' small]

end Encoding

namespace Reader

variable {α β : Type} {field : Field} {cursor after last : Cursor}

theorem outcome_eq_iff {reader : Reader α} {result : Except DecodeError α} :
    (runFrom reader cursor).1 = result ↔ ∃ after, runFrom reader cursor = (result, after) := by
  constructor
  · intro read
    exact ⟨_, Prod.ext read rfl⟩
  · rintro ⟨after, read⟩
    rw [read]

theorem runFrom_bind_eq_ok {first : Reader α} {next : α → Reader β} {value : β} :
    runFrom (first >>= next) cursor = (.ok value, last) ↔
      ∃ middle between, runFrom first cursor = (.ok middle, between) ∧
        runFrom (next middle) between = (.ok value, last) := by
  rw [runFrom_bind]
  cases outcome : runFrom first cursor with
  | mk result between =>
      cases result with
      | ok middle =>
          simp only [Prod.mk.injEq, Except.ok.injEq]
          constructor
          · intro read
            exact ⟨middle, between, ⟨rfl, rfl⟩, read⟩
          · rintro ⟨_, _, ⟨rfl, rfl⟩, read⟩
            exact read
      | error error => simp

theorem runFrom_bind_eq_error {first : Reader α} {next : α → Reader β} {error : DecodeError} :
    runFrom (first >>= next) cursor = (.error error, last) ↔
      runFrom first cursor = (.error error, last) ∨
        ∃ middle between, runFrom first cursor = (.ok middle, between) ∧
          runFrom (next middle) between = (.error error, last) := by
  rw [runFrom_bind]
  cases outcome : runFrom first cursor with
  | mk result between =>
      cases result with
      | error early => simp
      | ok middle =>
          simp only [Prod.mk.injEq, Except.ok.injEq, reduceCtorEq, false_and, false_or]
          constructor
          · intro failed
            exact ⟨middle, between, ⟨rfl, rfl⟩, failed⟩
          · rintro ⟨_, _, ⟨rfl, rfl⟩, failed⟩
            exact failed

theorem bind_eq_error_iff {first : Reader α} {next : α → Reader β} {error : DecodeError} :
    (runFrom (first >>= next) cursor).1 = .error error ↔
      (runFrom first cursor).1 = .error error ∨
        ∃ middle between, runFrom first cursor = (.ok middle, between) ∧
          (runFrom (next middle) between).1 = .error error := by
  rw [runFrom_bind]
  cases outcome : runFrom first cursor with
  | mk result between =>
      cases result with
      | error early => simp
      | ok middle =>
          simp only [Prod.mk.injEq, Except.ok.injEq, reduceCtorEq, false_or]
          constructor
          · intro failed
            exact ⟨middle, between, ⟨rfl, rfl⟩, failed⟩
          · rintro ⟨_, _, ⟨rfl, rfl⟩, failed⟩
            exact failed

theorem runFrom_take_eq_ok {needed : Nat} {taken : Bytes} :
    runFrom (take field needed) cursor = (.ok taken, after) ↔
      taken.length = needed ∧ after = cursor.advance needed ∧ taken <+: cursor.rest := by
  by_cases enough : needed ≤ cursor.remaining
  · rw [runFrom_take_of_le enough]
    simp only [Prod.mk.injEq, Except.ok.injEq]
    constructor
    · rintro ⟨rfl, rfl⟩
      refine ⟨?_, rfl, List.take_prefix _ _⟩
      rw [List.length_take, Cursor.length_rest, Nat.min_eq_left enough]
    · rintro ⟨rfl, rfl, here⟩
      exact ⟨eq_take_of_isPrefix here, rfl⟩
  · rw [runFrom_take_of_lt (Nat.lt_of_not_le enough)]
    simp only [Prod.mk.injEq, reduceCtorEq, false_and, false_iff, not_and]
    rintro rfl _ here
    exact enough (Cursor.length_rest cursor ▸ here.length_le)

/-! ### Exact readers -/

/-- The reader yields a value just where the encoding of the value stands, and stops
behind it. A value that does not fit is never read. -/
def Exact (reader : Reader α) (encode : α → Bytes) (fits : α → Prop) : Prop :=
  ∀ (cursor : Cursor) (value : α) (after : Cursor),
    runFrom reader cursor = (.ok value, after) ↔
      fits value ∧ after = cursor.advance (encode value).length ∧ encode value <+: cursor.rest

theorem Exact.bind_eq_ok {first : Reader α} {encode : α → Bytes} {fits : α → Prop}
    (exact : Exact first encode fits) {next : α → Reader β} {value : β} :
    runFrom (first >>= next) cursor = (.ok value, last) ↔
      ∃ middle, fits middle ∧ encode middle <+: cursor.rest ∧
        runFrom (next middle) (cursor.advance (encode middle).length) = (.ok value, last) := by
  rw [runFrom_bind_eq_ok]
  constructor
  · rintro ⟨middle, between, read, rest⟩
    obtain ⟨fit, rfl, here⟩ := (exact cursor middle between).mp read
    exact ⟨middle, fit, here, rest⟩
  · rintro ⟨middle, fit, here, rest⟩
    exact ⟨middle, _, (exact cursor middle _).mpr ⟨fit, rfl, here⟩, rest⟩

theorem Exact.decode_eq_ok {reader : Reader α} {encode : α → Bytes} {fits : α → Prop}
    (exact : Exact reader encode fits) {buffer : Bytes} {value : α} :
    decode reader buffer = .ok value ↔ fits value ∧ encode value <+: buffer := by
  rw [decode, outcome_eq_iff]
  constructor
  · rintro ⟨after, read⟩
    obtain ⟨fit, -, here⟩ := (exact _ value after).mp read
    exact ⟨fit, here⟩
  · rintro ⟨fit, here⟩
    exact ⟨_, (exact _ value _).mpr ⟨fit, rfl, here⟩⟩

theorem Exact.length_encode_le {reader : Reader α} {encode : α → Bytes} {fits : α → Prop}
    (exact : Exact reader encode fits) {buffer : Bytes} {value : α}
    (decoded : decode reader buffer = .ok value) : (encode value).length ≤ buffer.length := by
  obtain ⟨-, here⟩ := exact.decode_eq_ok.mp decoded
  exact here.length_le

theorem Exact.unique {reader : Reader α} {encode : α → Bytes} {fits : α → Prop}
    (exact : Exact reader encode fits) {first second : α} {buffer : Bytes}
    (firstFits : fits first) (secondFits : fits second)
    (firstHere : encode first <+: buffer) (secondHere : encode second <+: buffer) :
    first = second := by
  have readFirst := exact.decode_eq_ok.mpr ⟨firstFits, firstHere⟩
  have readSecond := exact.decode_eq_ok.mpr ⟨secondFits, secondHere⟩
  rw [readFirst] at readSecond
  exact Except.ok.inj readSecond

theorem exact_u32 (field : Field) : Exact (u32 field) Encoding.u32 (fun _ => True) := by
  intro cursor value after
  rw [u32, runFrom_bind_eq_ok]
  simp only [runFrom_take_eq_ok, runFrom_pure, Prod.mk.injEq, Except.ok.injEq,
    Encoding.length_u32, true_and]
  constructor
  · rintro ⟨taken, _, ⟨four, rfl, here⟩, rfl, rfl⟩
    rw [Encoding.u32_ofNat_toNatLE four]
    exact ⟨rfl, here⟩
  · rintro ⟨rfl, here⟩
    refine ⟨Encoding.u32 value, _, ⟨Encoding.length_u32 value, rfl, here⟩, ?_, rfl⟩
    rw [Encoding.toNatLE_u32, UInt32.ofNat_toNat]

theorem exact_u8 (field : Field) : Exact (u8 field) (fun byte => [byte]) (fun _ => True) := by
  intro cursor value after
  rw [u8, runFrom_bind_eq_ok]
  simp only [runFrom_take_eq_ok, runFrom_pure, Prod.mk.injEq, Except.ok.injEq,
    List.length_singleton, true_and]
  constructor
  · rintro ⟨taken, _, ⟨one, rfl, here⟩, rfl, rfl⟩
    obtain ⟨byte, rfl⟩ := List.length_eq_one_iff.mp one
    rw [Bytes.toNatLE, Bytes.toNatLE, Nat.mul_zero, Nat.add_zero, UInt8.ofNat_toNat]
    exact ⟨rfl, here⟩
  · rintro ⟨rfl, here⟩
    refine ⟨[value], _, ⟨rfl, rfl, here⟩, ?_, rfl⟩
    rw [Bytes.toNatLE, Bytes.toNatLE, Nat.mul_zero, Nat.add_zero, UInt8.ofNat_toNat]

theorem exact_bytesUpTo (limit : Nat) (field : Field) :
    Exact (bytesUpTo limit field) Encoding.prefixed
      (fun bytes => Encoding.Fits bytes ∧ bytes.length ≤ limit) := by
  intro cursor value after
  rw [bytesUpTo, (exact_u32 field).bind_eq_ok]
  constructor
  · rintro ⟨length, -, lengthHere, read⟩
    by_cases above : limit < length.toNat
    · rw [if_pos above, runFrom_bind_eq_ok] at read
      obtain ⟨_, _, thrown, -⟩ := read
      cases thrown
    · rw [if_neg above, runFrom_take_eq_ok] at read
      obtain ⟨sameLength, rfl, here⟩ := read
      have fits : Encoding.Fits value := by
        have bounded := length.toNat_lt
        rw [Encoding.Fits, Encoding.maxLength]
        omega
      have lengthEq : UInt32.ofNat value.length = length := by
        rw [sameLength, UInt32.ofNat_toNat]
      refine ⟨⟨fits, by omega⟩, ?_, ?_⟩
      · simp [Cursor.advance, sameLength, Nat.add_assoc]
      · rw [Encoding.prefixed_eq fits, lengthEq, append_isPrefix_iff]
        exact ⟨lengthHere, by simpa using here⟩
  · rintro ⟨⟨fits, within⟩, rfl, here⟩
    rw [Encoding.prefixed_eq fits, append_isPrefix_iff] at here
    have small : value.length < UInt32.size := Nat.lt_succ_of_le fits
    refine ⟨UInt32.ofNat value.length, trivial, here.1, ?_⟩
    rw [UInt32.toNat_ofNat_of_lt' small, if_neg (Nat.not_lt.mpr within), runFrom_take_eq_ok]
    refine ⟨rfl, ?_, by simpa using here.2⟩
    simp [Cursor.advance, Nat.add_assoc]

theorem bytes_eq_bytesUpTo (field : Field) : bytes field = bytesUpTo Encoding.maxLength field := by
  rw [bytes, bytesUpTo]
  congr 1
  funext length
  have within : ¬ Encoding.maxLength < length.toNat := by
    have bounded := length.toNat_lt
    rw [Encoding.maxLength]
    omega
  rw [if_neg within]

theorem exact_bytes (field : Field) :
    Exact (bytes field) Encoding.prefixed Encoding.Fits := by
  intro cursor value after
  rw [bytes_eq_bytesUpTo, exact_bytesUpTo]
  simp only [Encoding.Fits, and_self]

end Reader

end PackageSignature

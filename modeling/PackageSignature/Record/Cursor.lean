import PackageSignature.Bytes
import PackageSignature.Record.Field
/-! Bounded reading of an untrusted buffer. A cursor is a buffer and a position in
it. Every read states the field it is for, checks what it needs against what is
left, and keeps the cursor where it was when it fails, except that a byte string
whose length has been read stays behind its length. The lemmas say what a read
does in terms of the bytes that are left, so no later proof opens a read. -/

namespace PackageSignature

structure Cursor where
  /-- All bytes, those already read included. -/
  buffer : Bytes
  position : Nat
deriving DecidableEq, Repr

namespace Cursor

def start (buffer : Bytes) : Cursor where
  buffer := buffer
  position := 0

def rest (cursor : Cursor) : Bytes :=
  cursor.buffer.drop cursor.position

def remaining (cursor : Cursor) : Nat :=
  cursor.buffer.length - cursor.position

def advance (cursor : Cursor) (count : Nat) : Cursor :=
  { cursor with position := cursor.position + count }

@[simp] theorem length_rest (cursor : Cursor) : cursor.rest.length = cursor.remaining := by
  simp [rest, remaining]

@[simp] theorem rest_start (buffer : Bytes) : (start buffer).rest = buffer := rfl

@[simp] theorem rest_advance (cursor : Cursor) (count : Nat) :
    (cursor.advance count).rest = cursor.rest.drop count := by
  simp [rest, advance, List.drop_drop]

@[simp] theorem buffer_advance (cursor : Cursor) (count : Nat) :
    (cursor.advance count).buffer = cursor.buffer := rfl

@[simp] theorem position_advance (cursor : Cursor) (count : Nat) :
    (cursor.advance count).position = cursor.position + count := rfl

theorem remaining_advance (cursor : Cursor) (count : Nat) :
    (cursor.advance count).remaining = cursor.remaining - count := by
  simp only [remaining, advance]
  omega

end Cursor

/-- A reading step. It yields a value or an error, and the cursor that is left in
either case. -/
abbrev Reader := ExceptT DecodeError (StateM Cursor)

namespace Reader

def runFrom {α : Type} (reader : Reader α) (cursor : Cursor) : Except DecodeError α × Cursor :=
  StateT.run (ExceptT.run reader) cursor

def decode {α : Type} (reader : Reader α) (buffer : Bytes) : Except DecodeError α :=
  (runFrom reader (Cursor.start buffer)).1

def take (field : Field) (needed : Nat) : Reader Bytes := fun cursor =>
  let rest := cursor.rest
  let remaining := rest.length
  if needed ≤ remaining then
    (.ok (rest.take needed), cursor.advance needed)
  else
    (.error (.truncated field needed remaining), cursor)

def u8 (field : Field) : Reader UInt8 := do
  return UInt8.ofNat (Bytes.toNatLE (← take field 1))

def u32 (field : Field) : Reader UInt32 := do
  return UInt32.ofNat (Bytes.toNatLE (← take field 4))

def bytes (field : Field) : Reader Bytes := do
  let length ← u32 field
  take field length.toNat

/-- A byte string behind its length, where a length above the limit is refused
before the buffer is consulted. -/
def bytesUpTo (limit : Nat) (field : Field) : Reader Bytes := do
  let length ← u32 field
  if limit < length.toNat then
    throw (.tooLong field length.toNat limit)
  take field length.toNat

theorem runFrom_pure {α : Type} (value : α) (cursor : Cursor) :
    runFrom (pure value) cursor = (.ok value, cursor) := rfl

theorem runFrom_throw {α : Type} (error : DecodeError) (cursor : Cursor) :
    runFrom (throw error : Reader α) cursor = (.error error, cursor) := rfl

theorem runFrom_bind {α β : Type} (first : Reader α) (next : α → Reader β) (cursor : Cursor) :
    runFrom (first >>= next) cursor =
      match runFrom first cursor with
      | (.ok value, after) => runFrom (next value) after
      | (.error error, after) => (.error error, after) := by
  cases outcome : runFrom first cursor with
  | mk result after =>
      have opened : first cursor = (result, after) := outcome
      cases result with
      | ok value =>
          show ExceptT.bindCont next (first cursor).1 (first cursor).2 = _
          rw [opened]
          rfl
      | error error =>
          show ExceptT.bindCont next (first cursor).1 (first cursor).2 = _
          rw [opened]
          rfl

theorem runFrom_take_of_le {field : Field} {needed : Nat} {cursor : Cursor}
    (enough : needed ≤ cursor.remaining) :
    runFrom (take field needed) cursor = (.ok (cursor.rest.take needed), cursor.advance needed) := by
  show (if needed ≤ cursor.rest.length then _ else _) = _
  rw [if_pos (by rw [Cursor.length_rest]; exact enough)]

theorem runFrom_take_of_lt {field : Field} {needed : Nat} {cursor : Cursor}
    (short : cursor.remaining < needed) :
    runFrom (take field needed) cursor =
      (.error (.truncated field needed cursor.remaining), cursor) := by
  show (if needed ≤ cursor.rest.length then _ else _) = _
  rw [if_neg (by rw [Cursor.length_rest]; omega), Cursor.length_rest]

theorem runFrom_u32_of_le {field : Field} {cursor : Cursor} (enough : 4 ≤ cursor.remaining) :
    runFrom (u32 field) cursor =
      (.ok (UInt32.ofNat (Bytes.toNatLE (cursor.rest.take 4))), cursor.advance 4) := by
  rw [u32, runFrom_bind, runFrom_take_of_le enough]
  rfl

theorem runFrom_u32_of_lt {field : Field} {cursor : Cursor} (short : cursor.remaining < 4) :
    runFrom (u32 field) cursor = (.error (.truncated field 4 cursor.remaining), cursor) := by
  rw [u32, runFrom_bind, runFrom_take_of_lt short]

end Reader

end PackageSignature

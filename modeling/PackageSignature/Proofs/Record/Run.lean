import PackageSignature.Config
import PackageSignature.Proofs.Record.Bounds
import PackageSignature.Proofs.Record.Reading

/-! Any run of reads over one buffer, where a read that fails does not end the run. The cursor
only goes forward and never leaves the buffer. A read that succeeds yields the bytes it passes,
and one that fails passes nothing but the length it may have read. -/

namespace PackageSignature

namespace Reader

variable {α β : Type} {field : Field} {cursor after : Cursor} {error : DecodeError}

theorem after_of_failed_take {needed : Nat}
    (failed : runFrom (take field needed) cursor = (.error error, after)) : after = cursor := by
  by_cases enough : needed ≤ cursor.remaining
  · rw [runFrom_take_of_le enough] at failed
    cases failed
  · rw [runFrom_take_of_lt (Nat.lt_of_not_le enough)] at failed
    cases failed
    rfl

theorem failed_of_map {reader : Reader α} {put : α → β}
    (failed : runFrom (do return put (← reader)) cursor = (.error error, after)) :
    runFrom reader cursor = (.error error, after) := by
  rcases runFrom_bind_eq_error.mp failed with first | ⟨_, _, _, impossible⟩
  · exact first
  · cases impossible

theorem after_of_failed_u8 (failed : runFrom (u8 field) cursor = (.error error, after)) :
    after = cursor :=
  after_of_failed_take (failed_of_map failed)

theorem after_of_failed_u32 (failed : runFrom (u32 field) cursor = (.error error, after)) :
    after = cursor :=
  after_of_failed_take (failed_of_map failed)

/-- The length of a byte string that cannot be read stays read. -/
theorem after_of_failed_bytesUpTo {limit : Nat}
    (failed : runFrom (bytesUpTo limit field) cursor = (.error error, after)) :
    after = cursor ∨ after = cursor.advance 4 := by
  rcases runFrom_bind_eq_error.mp failed with first | ⟨length, between, told, later⟩
  · exact .inl (after_of_failed_u32 first)
  · obtain ⟨-, rfl, -⟩ := (exact_u32 field cursor length between).mp told
    rw [Encoding.length_u32] at later
    right
    by_cases above : limit < length.toNat
    · rw [if_pos above] at later
      cases later
      rfl
    · rw [if_neg above] at later
      exact after_of_failed_take later

theorem Exact.map {reader : Reader α} {encode : α → Bytes} {fits : α → Prop}
    (exact : Exact reader encode fits) (put : α → β) {encodePut : β → Bytes}
    {fitsPut : β → Prop} (same : ∀ value, encodePut (put value) = encode value)
    (range : ∀ result, fitsPut result ↔ ∃ value, fits value ∧ put value = result) :
    Exact (do return put (← reader)) encodePut fitsPut := by
  intro cursor result after
  rw [exact.bind_eq_ok, range]
  simp only [runFrom_pure, Prod.mk.injEq, Except.ok.injEq]
  constructor
  · rintro ⟨value, fit, here, rfl, rfl⟩
    rw [same]
    exact ⟨⟨value, fit, rfl⟩, rfl, here⟩
  · rintro ⟨⟨value, fit, rfl⟩, rfl, here⟩
    rw [same] at here ⊢
    exact ⟨value, fit, here, rfl, rfl⟩

end Reader

/-- No buffer has more bytes than a signed word can count. -/
def Cursor.largestBuffer : Nat := 9223372036854775807

inductive Read where
  | u8 (field : Field)
  | u32 (field : Field)
  | bytes (field : Field)
  | bytesUpTo (limit : Nat) (field : Field)
deriving DecidableEq, Repr

namespace Read

inductive Value where
  | u8 (byte : UInt8)
  | u32 (number : UInt32)
  | bytes (content : Bytes)
deriving DecidableEq, Repr

namespace Value

def content : Value → Bytes
  | u8 byte => [byte]
  | u32 number => Encoding.u32 number
  | bytes content => content

def toBytes : Value → Bytes
  | u8 byte => [byte]
  | u32 number => Encoding.u32 number
  | bytes content => Encoding.prefixed content

end Value

def reader : Read → Reader Value
  | u8 field => do return .u8 (← Reader.u8 field)
  | u32 field => do return .u32 (← Reader.u32 field)
  | bytes field => do return .bytes (← Reader.bytes field)
  | bytesUpTo limit field => do return .bytes (← Reader.bytesUpTo limit field)

def lead : Read → Nat
  | u8 _ => 0
  | u32 _ => 0
  | bytes _ => 4
  | bytesUpTo _ _ => 4

def Yields : Read → Value → Prop
  | u8 _, .u8 _ => True
  | u32 _, .u32 _ => True
  | bytes _, .bytes content => Encoding.Fits content
  | bytesUpTo limit _, .bytes content => Encoding.Fits content ∧ content.length ≤ limit
  | _, _ => False

variable {cursor after : Cursor}

theorem bounded_reader (read : Read) : read.reader.Bounded := by
  cases read with
  | u8 field => exact (Reader.bounded_u8 field).bind (fun _ => Reader.bounded_pure _)
  | u32 field => exact (Reader.bounded_u32 field).bind (fun _ => Reader.bounded_pure _)
  | bytes field => exact (Reader.bounded_bytes field).bind (fun _ => Reader.bounded_pure _)
  | bytesUpTo limit field =>
      exact (Reader.bounded_bytesUpTo limit field).bind (fun _ => Reader.bounded_pure _)

theorem exact_reader (read : Read) : Reader.Exact read.reader Value.toBytes read.Yields := by
  cases read with
  | u8 field =>
      apply (Reader.exact_u8 field).map Value.u8 (fun _ => rfl)
      intro value
      cases value <;> simp [Yields]
  | u32 field =>
      apply (Reader.exact_u32 field).map Value.u32 (fun _ => rfl)
      intro value
      cases value <;> simp [Yields]
  | bytes field =>
      apply (Reader.exact_bytes field).map Value.bytes (fun _ => rfl)
      intro value
      cases value <;> simp [Yields]
  | bytesUpTo limit field =>
      apply (Reader.exact_bytesUpTo limit field).map Value.bytes (fun _ => rfl)
      intro value
      cases value <;> simp [Yields]

theorem drop_lead {read : Read} {value : Value} (yields : read.Yields value) :
    value.toBytes.drop read.lead = value.content := by
  have behindLength (content : Bytes) : (Encoding.prefixed content).drop 4 = content := by
    rw [Encoding.prefixed, List.drop_left' (Bytes.length_ofNatLE 4 _)]
  cases read with
  | u8 field => cases value <;> first | rfl | cases yields
  | u32 field => cases value <;> first | rfl | cases yields
  | bytes field =>
      cases value with
      | bytes content => exact behindLength content
      | _ => cases yields
  | bytesUpTo limit field =>
      cases value with
      | bytes content => exact behindLength content
      | _ => cases yields

theorem after_of_failed {read : Read} {error : DecodeError}
    (failed : Reader.runFrom read.reader cursor = (.error error, after)) :
    after = cursor ∨ after = cursor.advance read.lead := by
  cases read with
  | u8 field => exact .inl (Reader.after_of_failed_u8 (Reader.failed_of_map failed))
  | u32 field => exact .inl (Reader.after_of_failed_u32 (Reader.failed_of_map failed))
  | bytes field =>
      have first := Reader.failed_of_map failed
      rw [Reader.bytes_eq_bytesUpTo] at first
      exact Reader.after_of_failed_bytesUpTo first
  | bytesUpTo limit field =>
      exact Reader.after_of_failed_bytesUpTo (Reader.failed_of_map failed)

/-! ### Step by step -/

structure Step where
  read : Read
  before : Cursor
  result : Except DecodeError Value
  after : Cursor

def step (cursor : Cursor) (read : Read) : Step where
  read := read
  before := cursor
  result := (Reader.runFrom read.reader cursor).1
  after := (Reader.runFrom read.reader cursor).2

/-- The reads one after another. A failure is noted, and the next read is made from where it
left the cursor. -/
def steps : Cursor → List Read → List Step
  | _, [] => []
  | cursor, read :: others => step cursor read :: steps (step cursor read).after others

def last (cursor : Cursor) (reads : List Read) : Cursor :=
  reads.foldl (fun between read => (step between read).after) cursor

/-- What a read does in a buffer, however it ends. -/
structure Step.Lawful (buffer : Bytes) (step : Step) : Prop where
  bufferBefore : step.before.buffer = buffer
  bufferAfter : step.after.buffer = buffer
  countedBefore : step.before.position + step.before.remaining = buffer.length
  countedAfter : step.after.position + step.after.remaining = buffer.length
  forward : step.before.position ≤ step.after.position
  inside : step.after.position ≤ buffer.length
  yielded : ∀ value, step.result = .ok value → step.read.Yields value ∧
    value.toBytes = buffer.extract step.before.position step.after.position ∧
    value.content = buffer.extract (step.before.position + step.read.lead) step.after.position
  refused : ∀ error, step.result = .error error →
    step.after = step.before ∨ step.after = step.before.advance step.read.lead

theorem lawful_step (read : Read) (inside : cursor.position ≤ cursor.buffer.length) :
    (step cursor read).Lawful cursor.buffer := by
  have reached : cursor.Reaches (step cursor read).after := bounded_reader read cursor inside
  have insideAfter := reached.inside
  rw [reached.sameBuffer] at insideAfter
  refine ⟨rfl, reached.sameBuffer, ?_, ?_, reached.forward, insideAfter, ?_, ?_⟩
  · exact Nat.add_sub_cancel' inside
  · rw [Cursor.remaining, reached.sameBuffer]
    exact Nat.add_sub_cancel' insideAfter
  · intro value done
    obtain ⟨yields, passed, here⟩ := (exact_reader read cursor value _).mp (Prod.ext done rfl)
    have whole : value.toBytes =
        cursor.buffer.extract cursor.position (step cursor read).after.position := by
      have there : (step cursor read).after.position = cursor.position + value.toBytes.length :=
        congrArg Cursor.position passed
      rw [there, List.extract_eq_take_drop, Nat.add_sub_cancel_left]
      exact (eq_take_of_isPrefix here).symm
    refine ⟨yields, whole, ?_⟩
    rw [← drop_lead yields, whole, List.extract_eq_take_drop, List.extract_eq_take_drop,
      List.drop_take, List.drop_drop, Nat.sub_sub]
    rfl
  · intro error failed
    exact after_of_failed (Prod.ext failed rfl)

/-! ### A whole run -/

theorem last_append (cursor : Cursor) (first later : List Read) :
    last cursor (first ++ later) = last (last cursor first) later :=
  List.foldl_append

theorem reaches_last (reads : List Read) (inside : cursor.position ≤ cursor.buffer.length) :
    cursor.Reaches (last cursor reads) := by
  induction reads generalizing cursor with
  | nil => exact Cursor.reaches_self inside
  | cons read others ih =>
      have reached : cursor.Reaches (step cursor read).after := bounded_reader read cursor inside
      exact reached.trans (ih reached.inside)

theorem lawful_of_mem_steps (reads : List Read) (inside : cursor.position ≤ cursor.buffer.length) :
    ∀ made ∈ steps cursor reads, made.Lawful cursor.buffer := by
  induction reads generalizing cursor with
  | nil =>
      intro made member
      cases member
  | cons read others ih =>
      have reached : cursor.Reaches (step cursor read).after := bounded_reader read cursor inside
      have later := ih reached.inside
      rw [reached.sameBuffer] at later
      exact List.forall_mem_cons.mpr ⟨lawful_step read inside, later⟩

theorem Step.Lawful.take_after {buffer : Bytes} {made : Step} {value : Value}
    (lawful : made.Lawful buffer) (done : made.result = .ok value) :
    buffer.take made.after.position = buffer.take made.before.position ++ value.toBytes := by
  obtain ⟨-, whole, -⟩ := lawful.yielded value done
  have forward := lawful.forward
  rw [whole, List.extract_eq_take_drop, ← List.take_add, Nat.add_sub_cancel' forward]

theorem toBytes_of_steps (reads : List Read) (values : List Value)
    (inside : cursor.position ≤ cursor.buffer.length)
    (done : (steps cursor reads).map Step.result = values.map .ok) :
    cursor.buffer.take (last cursor reads).position =
      cursor.buffer.take cursor.position ++ values.flatMap Value.toBytes := by
  induction reads generalizing cursor values with
  | nil =>
      cases values with
      | nil => exact (List.append_nil _).symm
      | cons value others => cases done
  | cons read later ih =>
      cases values with
      | nil => cases done
      | cons value others =>
          obtain ⟨first, rest⟩ := List.cons.inj done
          have lawful := lawful_step read inside
          have reached : cursor.Reaches (step cursor read).after :=
            bounded_reader read cursor inside
          have further := ih others reached.inside rest
          have passed : cursor.buffer.take (step cursor read).after.position =
              cursor.buffer.take cursor.position ++ value.toBytes := lawful.take_after first
          rw [reached.sameBuffer, passed] at further
          rw [List.flatMap_cons, ← List.append_assoc]
          exact further

/-- The law of the cursor. However the reads of a run end, the cursor goes forward, every byte is
in front of it or behind it, and no place that it can ask for is beyond what a size can tell. What
was read is what was passed. The walk over a signer record ends in the buffer too, so there always
is what stands in front of its end. -/
theorem cursor_law_of_run (buffer : Bytes) (reads : List Read) :
    (∀ made ∈ steps (Cursor.start buffer) reads, made.Lawful buffer) ∧
    (∀ first later, reads = first ++ later →
      (last (Cursor.start buffer) first).position ≤ (last (Cursor.start buffer) reads).position) ∧
    (∀ values : List Value,
      (steps (Cursor.start buffer) reads).map Step.result = values.map .ok →
        values.flatMap Value.toBytes = buffer.take (last (Cursor.start buffer) reads).position) ∧
    (buffer.length ≤ Cursor.largestBuffer →
      ∀ made ∈ steps (Cursor.start buffer) reads, ∀ position count,
        position ≤ made.after.position → count ≤ Encoding.maxLength →
          position + count ≤ Config.largestSize) ∧
    (Reader.runFrom SigningInfo.skip (Cursor.start buffer)).2.position ≤ buffer.length := by
  have inside : (Cursor.start buffer).position ≤ (Cursor.start buffer).buffer.length :=
    Nat.zero_le _
  have lawful := lawful_of_mem_steps reads inside
  refine ⟨lawful, ?_, ?_, ?_, ?_⟩
  · intro first later split
    have reached := reaches_last first inside
    rw [split, last_append]
    exact (reaches_last later reached.inside).forward
  · intro values done
    have passed := toBytes_of_steps reads values inside done
    exact passed.symm
  · intro held made member position count before counted
    have within := (lawful made member).inside
    unfold Cursor.largestBuffer at held
    unfold Encoding.maxLength at counted
    unfold Config.largestSize
    change made.after.position ≤ buffer.length at within
    omega
  · have reached := SigningInfo.bounded_skip _ inside
    have walked := reached.inside
    rw [reached.sameBuffer] at walked
    exact walked

def sampleBuffer : Bytes :=
  [2, 0, 0, 0, 3, 0, 0, 0, 7, 8, 9, 5]

theorem cursor_law_of_run_above_limit :
    (∃ made ∈ steps (Cursor.start sampleBuffer)
        [.u32 .version, .bytesUpTo 2 .hashingInfo, .u8 .log2BlockSize],
      made.result = .error (.tooLong .hashingInfo 3 2) ∧ made.after.position = 8 ∧
        made.Lawful sampleBuffer) ∧
      (last (Cursor.start sampleBuffer) [.u32 .version]).position ≤
        (last (Cursor.start sampleBuffer) [.u32 .version, .bytes .hashingInfo]).position ∧
      [Value.u32 2, .bytes [7, 8, 9]].flatMap Value.toBytes =
        sampleBuffer.take
          (last (Cursor.start sampleBuffer) [.u32 .version, .bytes .hashingInfo]).position ∧
      8 + Encoding.maxLength ≤ Config.largestSize := by
  obtain ⟨lawful, -, -, addressed, -⟩ := cursor_law_of_run sampleBuffer
    [.u32 .version, .bytesUpTo 2 .hashingInfo, .u8 .log2BlockSize]
  obtain ⟨-, forward, passed, -, -⟩ := cursor_law_of_run sampleBuffer
    [.u32 .version, .bytes .hashingInfo]
  have member : step ((Cursor.start sampleBuffer).advance 4) (.bytesUpTo 2 .hashingInfo) ∈
      steps (Cursor.start sampleBuffer)
        [.u32 .version, .bytesUpTo 2 .hashingInfo, .u8 .log2BlockSize] :=
    .tail _ (.head _)
  refine ⟨⟨_, member, rfl, rfl, lawful _ member⟩, ?_, ?_, ?_⟩
  · exact forward [.u32 .version] [.bytes .hashingInfo] rfl
  · exact passed [.u32 2, .bytes [7, 8, 9]] rfl
  · exact addressed (by decide) _ member 8 _ (Nat.le_refl 8) (Nat.le_refl _)

end Read

end PackageSignature

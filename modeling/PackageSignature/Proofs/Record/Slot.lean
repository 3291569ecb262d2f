import PackageSignature.Proofs.Record.Envelope

/-! Records as rows of slots. A slot is a field with the shape that it has on the wire,
and a walk over a row of slots goes wrong at the first one that cannot be read: every slot
in front of it is filled, and what is left of the buffer is too short for it or declares
more than the slot allows. -/

namespace PackageSignature

inductive Shape where
  | number (width : Nat)
  | bytes (limit : Option Nat)
deriving DecidableEq, Repr

structure Slot where
  field : Field
  shape : Shape
deriving DecidableEq, Repr

namespace Slot

def limit? (slot : Slot) : Option Nat :=
  match slot.shape with
  | .number _ => none
  | .bytes limit => limit

/-- The piece is what a value of the slot's shape looks like on the wire. -/
def Filled (slot : Slot) (piece : Bytes) : Prop :=
  match slot.shape with
  | .number width => piece.length = width
  | .bytes limit =>
      ∃ bytes, Encoding.Fits bytes ∧ (∀ most ∈ limit, bytes.length ≤ most) ∧
        piece = Encoding.prefixed bytes

/-- Why a slot cannot be read from the rest of a buffer. A declared length is held against
the limit first and against what is behind the length field only then. -/
inductive Fault : Slot → Bytes → DecodeError → Prop
  | number {field : Field} {width : Nat} {rest : Bytes} (short : rest.length < width) :
      Fault ⟨field, .number width⟩ rest (.truncated field width rest.length)
  | lengthField {field : Field} {limit : Option Nat} {rest : Bytes} (short : rest.length < 4) :
      Fault ⟨field, .bytes limit⟩ rest (.truncated field 4 rest.length)
  | tooLong {field : Field} {limit : Nat} {length : UInt32} {behind : Bytes}
      (above : limit < length.toNat) :
      Fault ⟨field, .bytes (some limit)⟩ (Encoding.u32 length ++ behind)
        (.tooLong field length.toNat limit)
  | body {field : Field} {limit : Option Nat} {length : UInt32} {behind : Bytes}
      (within : ∀ most ∈ limit, length.toNat ≤ most) (short : behind.length < length.toNat) :
      Fault ⟨field, .bytes limit⟩ (Encoding.u32 length ++ behind)
        (.truncated field length.toNat behind.length)

def read (slot : Slot) : Reader Unit :=
  match slot.shape with
  | .number width => do
      let _ ← Reader.take slot.field width
      return ()
  | .bytes none => do
      let _ ← Reader.bytes slot.field
      return ()
  | .bytes (some limit) => do
      let _ ← Reader.bytesUpTo limit slot.field
      return ()

def walk : List Slot → Reader Unit
  | [] => return ()
  | slot :: others => do
      slot.read
      walk others

/-- The first slot of the row that cannot be read, with everything in front of it filled. -/
def Stops (slots : List Slot) (buffer : Bytes) (error : DecodeError) : Prop :=
  ∃ (before : List (Slot × Bytes)) (slot : Slot) (after : List Slot) (rest : Bytes),
    slots = before.map Prod.fst ++ slot :: after ∧
    (∀ entry ∈ before, entry.1.Filled entry.2) ∧
    buffer = before.flatMap Prod.snd ++ rest ∧
    slot.Fault rest error

theorem not_stops_nil {buffer : Bytes} {error : DecodeError} : ¬ Stops [] buffer error := by
  intro stops
  obtain ⟨before, slot, after, rest, split, -, -, -⟩ := stops
  cases before with
  | nil => cases split
  | cons entry others => cases split

theorem stops_cons_iff {slot : Slot} {others : List Slot} {buffer : Bytes}
    {error : DecodeError} :
    Stops (slot :: others) buffer error ↔
      slot.Fault buffer error ∨
        ∃ piece rest, slot.Filled piece ∧ buffer = piece ++ rest ∧ Stops others rest error := by
  constructor
  · intro stops
    obtain ⟨before, failing, after, rest, split, filled, bufferEq, fault⟩ := stops
    cases before with
    | nil =>
        cases split
        subst bufferEq
        exact .inl fault
    | cons entry earlier =>
        cases split
        obtain ⟨firstFilled, earlierFilled⟩ := List.forall_mem_cons.mp filled
        right
        refine ⟨entry.2, earlier.flatMap Prod.snd ++ rest, firstFilled, ?_, ?_⟩
        · rw [bufferEq, List.flatMap_cons, List.append_assoc]
        · exact ⟨earlier, failing, after, rest, rfl, earlierFilled, rfl, fault⟩
  · intro either
    rcases either with fault | ⟨piece, behind, filled, bufferEq, stops⟩
    · exact ⟨[], slot, others, buffer, rfl, fun entry member => (List.not_mem_nil member).elim,
        rfl, fault⟩
    · obtain ⟨before, failing, after, rest, split, othersFilled, behindEq, fault⟩ := stops
      refine ⟨(slot, piece) :: before, failing, after, rest, ?_, ?_, ?_, fault⟩
      · rw [split, List.map_cons, List.cons_append]
      · exact List.forall_mem_cons.mpr ⟨filled, othersFilled⟩
      · rw [bufferEq, behindEq, List.flatMap_cons, List.append_assoc]

theorem Fault.truncated_or_tooLong {slot : Slot} {rest : Bytes} {error : DecodeError}
    (fault : slot.Fault rest error) :
    (∃ needed remaining, error = .truncated slot.field needed remaining ∧ remaining < needed) ∨
      ∃ length limit, error = .tooLong slot.field length limit ∧ limit < length ∧
        slot.limit? = some limit := by
  cases fault with
  | number short => exact .inl ⟨_, _, rfl, short⟩
  | lengthField short => exact .inl ⟨_, _, rfl, short⟩
  | tooLong above => exact .inr ⟨_, _, rfl, above, rfl⟩
  | body within short => exact .inl ⟨_, _, rfl, short⟩

theorem Fault.field_eq {slot : Slot} {rest : Bytes} {error : DecodeError}
    (fault : slot.Fault rest error) : error.field = slot.field := by
  cases fault with
  | number short => rfl
  | lengthField short => rfl
  | tooLong above => rfl
  | body within short => rfl

theorem Stops.truncated {slots : List Slot} {buffer : Bytes} {error : DecodeError}
    (stops : Stops slots buffer error)
    (unlimited : ∀ slot ∈ slots, slot.limit? = none) :
    ∃ field needed remaining, error = .truncated field needed remaining ∧ remaining < needed := by
  obtain ⟨before, slot, after, rest, split, -, -, fault⟩ := stops
  have member : slot ∈ slots := by
    rw [split]
    exact List.mem_append_right _ List.mem_cons_self
  rcases fault.truncated_or_tooLong with ⟨needed, remaining, rfl, short⟩ | ⟨_, limit, -, -, limited⟩
  · exact ⟨slot.field, needed, remaining, rfl, short⟩
  · rw [unlimited slot member] at limited
    cases limited

/-! ### Reading a slot -/

open Reader

theorem lengthFault_of_split (field : Field) (limit : Nat) (length : UInt32) (behind : Bytes) :
    lengthFault field limit ((Encoding.u32 length ++ behind).take 4)
        ((Encoding.u32 length ++ behind).drop 4).length =
      if limit < length.toNat then
        some (.tooLong field length.toNat limit)
      else if behind.length < length.toNat then
        some (.truncated field length.toNat behind.length)
      else
        none := by
  rw [List.take_left' (Encoding.length_u32 length), List.drop_left' (Encoding.length_u32 length),
    lengthFault, Encoding.length_u32, Encoding.toNatLE_u32, if_neg (Nat.lt_irrefl 4)]

theorem lengthFault_eq_some_iff {field : Field} {limit : Nat} {rest : Bytes}
    {error : DecodeError} :
    lengthFault field limit (rest.take 4) (rest.drop 4).length = some error ↔
      Fault ⟨field, .bytes (some limit)⟩ rest error := by
  constructor
  · intro reported
    by_cases short : rest.length < 4
    · rw [List.take_of_length_le (Nat.le_of_lt short), lengthFault, if_pos short] at reported
      cases reported
      exact .lengthField short
    · obtain ⟨length, behind, rfl⟩ := Envelope.exists_version short
      rw [lengthFault_of_split] at reported
      by_cases above : limit < length.toNat
      · rw [if_pos above] at reported
        cases reported
        exact .tooLong above
      · rw [if_neg above] at reported
        obtain ⟨few, same⟩ := Option.ite_none_right_eq_some.mp reported
        cases same
        refine .body ?_ few
        intro most allowed
        cases allowed
        exact Nat.le_of_not_lt above
  · intro fault
    cases fault with
    | lengthField short =>
        rw [List.take_of_length_le (Nat.le_of_lt short), lengthFault, if_pos short]
    | tooLong above => rw [lengthFault_of_split, if_pos above]
    | body within short =>
        rw [lengthFault_of_split, if_neg (Nat.not_lt.mpr (within limit rfl)), if_pos short]

theorem fault_unlimited_iff {field : Field} {rest : Bytes} {error : DecodeError} :
    Fault ⟨field, .bytes none⟩ rest error ↔
      Fault ⟨field, .bytes (some Encoding.maxLength)⟩ rest error := by
  constructor
  · intro fault
    cases fault with
    | lengthField short => exact .lengthField short
    | @body _ _ length behind within short =>
        refine .body ?_ short
        intro most allowed
        cases allowed
        exact Nat.le_of_lt_succ length.toNat_lt
  · intro fault
    cases fault with
    | lengthField short => exact .lengthField short
    | @tooLong _ _ length behind above =>
        exact (Nat.not_lt.mpr (Nat.le_of_lt_succ length.toNat_lt) above).elim
    | body within short => exact .body (fun most impossible => by cases impossible) short

variable {α : Type} {cursor after : Cursor} {error : DecodeError}

theorem discard_eq_error_iff {reader : Reader α} :
    (runFrom (do let _ ← reader; return ()) cursor).1 = .error error ↔
      (runFrom reader cursor).1 = .error error := by
  rw [bind_eq_error_iff]
  constructor
  · intro either
    rcases either with failed | ⟨_, _, _, impossible⟩
    · exact failed
    · cases impossible
  · intro failed
    exact .inl failed

theorem read_eq_ok_iff {slot : Slot} :
    runFrom slot.read cursor = (.ok (), after) ↔
      ∃ piece, slot.Filled piece ∧ piece <+: cursor.rest ∧
        after = cursor.advance piece.length := by
  obtain ⟨field, shape⟩ := slot
  cases shape with
  | number width =>
      simp only [read, Filled, runFrom_bind_eq_ok, runFrom_take_eq_ok, runFrom_pure,
        Prod.mk.injEq, true_and]
      constructor
      · intro done
        obtain ⟨piece, _, ⟨enough, rfl, here⟩, rfl⟩ := done
        exact ⟨piece, enough, here, by rw [enough]⟩
      · intro filled
        obtain ⟨piece, rfl, here, rfl⟩ := filled
        exact ⟨piece, _, ⟨rfl, rfl, here⟩, rfl⟩
  | bytes limit =>
      cases limit with
      | none =>
          simp only [read, Filled, (exact_bytes field).bind_eq_ok, runFrom_pure, Prod.mk.injEq,
            true_and]
          constructor
          · intro done
            obtain ⟨bytes, fits, here, rfl⟩ := done
            exact ⟨_, ⟨bytes, fits, by simp, rfl⟩, here, rfl⟩
          · intro filled
            obtain ⟨piece, ⟨bytes, fits, -, rfl⟩, here, rfl⟩ := filled
            exact ⟨bytes, fits, here, rfl⟩
      | some limit =>
          simp only [read, Filled, (exact_bytesUpTo limit field).bind_eq_ok, runFrom_pure,
            Prod.mk.injEq, true_and]
          constructor
          · intro done
            obtain ⟨bytes, ⟨fits, within⟩, here, rfl⟩ := done
            refine ⟨_, ⟨bytes, fits, ?_, rfl⟩, here, rfl⟩
            intro most allowed
            cases allowed
            exact within
          · intro filled
            obtain ⟨piece, ⟨bytes, fits, within, rfl⟩, here, rfl⟩ := filled
            exact ⟨bytes, ⟨fits, within limit rfl⟩, here, rfl⟩

theorem read_eq_error_iff {slot : Slot} :
    (runFrom slot.read cursor).1 = .error error ↔ slot.Fault cursor.rest error := by
  obtain ⟨field, shape⟩ := slot
  cases shape with
  | number width =>
      rw [read, discard_eq_error_iff]
      by_cases short : cursor.remaining < width
      · rw [runFrom_take_of_lt short]
        rw [← Cursor.length_rest] at short ⊢
        constructor
        · intro failed
          cases failed
          exact .number short
        · intro fault
          cases fault with
          | number _ => rfl
      · rw [runFrom_take_of_le (Nat.le_of_not_lt short)]
        constructor
        · intro impossible
          cases impossible
        · intro fault
          cases fault with
          | number few => exact (short (Cursor.length_rest cursor ▸ few)).elim
  | bytes limit =>
      cases limit with
      | none =>
          rw [read, discard_eq_error_iff, bytes_eq_bytesUpTo, bytesUpTo_eq_error_iff,
            lengthFault_eq_some_iff, fault_unlimited_iff]
      | some limit =>
          rw [read, discard_eq_error_iff, bytesUpTo_eq_error_iff, lengthFault_eq_some_iff]

theorem walk_eq_error_iff (slots : List Slot) (cursor : Cursor) :
    (runFrom (walk slots) cursor).1 = .error error ↔ Stops slots cursor.rest error := by
  -- The walk over the others starts behind the piece that fills the first slot.
  induction slots generalizing cursor with
  | nil =>
      constructor
      · intro impossible
        cases impossible
      · intro stops
        exact (not_stops_nil stops).elim
  | cons slot others ih =>
      rw [walk, bind_eq_error_iff, stops_cons_iff, read_eq_error_iff]
      apply or_congr_right
      constructor
      · intro later
        obtain ⟨_, between, done, failed⟩ := later
        obtain ⟨piece, filled, here, rfl⟩ := read_eq_ok_iff.mp done
        have stops := (ih _).mp failed
        rw [Cursor.rest_advance] at stops
        exact ⟨piece, _, filled, (List.prefix_iff_eq_append.mp here).symm, stops⟩
      · intro later
        obtain ⟨piece, rest, filled, split, stops⟩ := later
        have here : piece <+: cursor.rest := split ▸ List.prefix_append _ _
        refine ⟨(), _, read_eq_ok_iff.mpr ⟨piece, filled, here, rfl⟩, (ih _).mpr ?_⟩
        rw [Cursor.rest_advance, split, List.drop_left]
        exact stops

theorem outcome_eq_error_iff_stops {reader : Reader α} {slots : List Slot}
    (walked : (do let _ ← reader; return ()) = walk slots) :
    (runFrom reader cursor).1 = .error error ↔ Stops slots cursor.rest error := by
  rw [← discard_eq_error_iff, walked, walk_eq_error_iff]

end Slot

end PackageSignature

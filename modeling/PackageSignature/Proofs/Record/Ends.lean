import PackageSignature.Proofs.Record.Faults

/-! Where a buffer ends. A record that is cut off is refused for the field that the cut falls
in. What comes behind a record is not looked at, unless it is a list of signers: that one
goes on to the end of its buffer, so a cut between two blocks leaves a shorter list. -/

namespace PackageSignature

open Slot Reader

namespace Slot

/-- The buffer ends inside the piece of the entry. The pieces in front of it are complete, so
between two pieces a cut falls in the later one. -/
def CutIn (entries : List (Slot × Bytes)) (front : Bytes) (entry : Slot × Bytes)
    (kept : Bytes) : Prop :=
  ∃ before after, entries = before ++ entry :: after ∧
    front = before.flatMap Prod.snd ++ kept ∧ kept <+: entry.2 ∧ kept ≠ entry.2

theorem exists_cutIn {entries : List (Slot × Bytes)} {front : Bytes}
    (here : front <+: entries.flatMap Prod.snd) (strict : front ≠ entries.flatMap Prod.snd) :
    ∃ entry kept, CutIn entries front entry kept := by
  induction entries generalizing front with
  | nil =>
      rw [List.flatMap_nil, List.prefix_nil] at here
      exact (strict here).elim
  | cons first others ih =>
      rw [List.flatMap_cons] at here strict
      by_cases whole : first.2 <+: front
      · obtain ⟨rest, rfl⟩ := whole
        have restHere : rest <+: others.flatMap Prod.snd :=
          (List.prefix_append_right_inj first.2).mp here
        have restStrict : rest ≠ others.flatMap Prod.snd := by
          intro same
          rw [same] at strict
          exact strict rfl
        obtain ⟨entry, kept, before, after, split, frontEq, keptHere, cut⟩ :=
          ih restHere restStrict
        refine ⟨entry, kept, first :: before, after, ?_, ?_, keptHere, cut⟩
        · rw [split, List.cons_append]
        · rw [frontEq, List.flatMap_cons, List.append_assoc]
      · have inside : front <+: first.2 := by
          rcases List.prefix_or_prefix_of_prefix here (List.prefix_append first.2 _) with
            inside | outside
          · exact inside
          · exact (whole outside).elim
        have cut : front ≠ first.2 := by
          intro same
          rw [same] at whole
          exact whole List.prefix_rfl
        exact ⟨first, front, [], others, rfl, rfl, inside, cut⟩

theorem length_lt_of_cut {piece kept : Bytes} (here : kept <+: piece) (cut : kept ≠ piece) :
    kept.length < piece.length := by
  have shorter := here.length_le
  have different : kept.length ≠ piece.length := fun same => cut (here.eq_of_length same)
  omega

/-- A limit has no say in a piece that fills its slot, so bytes are missing. -/
theorem Filled.exists_fault_of_cut {slot : Slot} {piece kept : Bytes} (filled : slot.Filled piece)
    (here : kept <+: piece) (cut : kept ≠ piece) :
    ∃ needed remaining, slot.Fault kept (.truncated slot.field needed remaining) ∧
      remaining < needed := by
  have short := length_lt_of_cut here cut
  obtain ⟨field, shape⟩ := slot
  cases shape with
  | number width =>
      change piece.length = width at filled
      rw [filled] at short
      exact ⟨width, kept.length, .number short, short⟩
  | bytes limit =>
      obtain ⟨bytes, fits, within, rfl⟩ := filled
      have lengthEq : (UInt32.ofNat bytes.length).toNat = bytes.length :=
        UInt32.toNat_ofNat_of_lt' (Nat.lt_succ_of_le fits)
      rw [Encoding.prefixed_eq fits] at here
      rw [Encoding.length_prefixed] at short
      by_cases few : kept.length < 4
      · exact ⟨4, kept.length, .lengthField few, few⟩
      · have lengthHere : Encoding.u32 (UInt32.ofNat bytes.length) <+: kept := by
          apply List.prefix_of_prefix_length_le (List.prefix_append _ bytes) here
          rw [Encoding.length_u32]
          omega
        obtain ⟨behind, rfl⟩ := lengthHere
        rw [List.length_append, Encoding.length_u32] at short
        have missing : behind.length < bytes.length := by omega
        refine ⟨_, behind.length, .body ?_ ?_, ?_⟩
        · rw [lengthEq]
          exact within
        · rw [lengthEq]
          exact missing
        · rw [lengthEq]
          exact missing

theorem Fault.append {slot : Slot} {rest : Bytes} {error : DecodeError}
    (fault : slot.Fault rest error)
    (complete : ∀ field needed remaining, error ≠ .truncated field needed remaining)
    (tail : Bytes) : slot.Fault (rest ++ tail) error := by
  cases fault with
  | number short => exact (complete _ _ _ rfl).elim
  | lengthField short => exact (complete _ _ _ rfl).elim
  | tooLong above =>
      rw [List.append_assoc]
      exact .tooLong above
  | body within short => exact (complete _ _ _ rfl).elim

end Slot

namespace Reader

variable {α : Type} {reader : Reader α} {encode : α → Bytes} {fits : α → Prop}

theorem Exact.decode_append (exact : Exact reader encode fits) {buffer : Bytes} {value : α}
    (decoded : decode reader buffer = .ok value) (tail : Bytes) :
    decode reader (buffer ++ tail) = .ok value := by
  obtain ⟨fit, here⟩ := exact.decode_eq_ok.mp decoded
  exact exact.decode_eq_ok.mpr ⟨fit, here.trans (List.prefix_append buffer tail)⟩

theorem Exact.isPrefix_of_flatMap (exact : Exact reader encode fits)
    (something : ∀ value, encode value ≠ []) {values others : List α}
    (valuesFit : ∀ value ∈ values, fits value) (othersFit : ∀ value ∈ others, fits value)
    (here : values.flatMap encode <+: others.flatMap encode) : values <+: others := by
  induction values generalizing others with
  | nil => exact List.nil_prefix
  | cons value later ih =>
      obtain ⟨valueFits, laterFit⟩ := List.forall_mem_cons.mp valuesFit
      rw [List.flatMap_cons] at here
      cases others with
      | nil =>
          rw [List.flatMap_nil, List.prefix_nil, List.append_eq_nil_iff] at here
          exact (something value here.1).elim
      | cons other rest =>
          obtain ⟨otherFits, restFit⟩ := List.forall_mem_cons.mp othersFit
          rw [List.flatMap_cons] at here
          have valueHere := (List.prefix_append _ _).trans here
          obtain rfl := exact.unique valueFits otherFits valueHere (List.prefix_append _ _)
          have laterHere := (List.prefix_append_right_inj _).mp here
          exact (List.prefix_cons_inj value).mpr (ih laterFit restFit laterHere)

end Reader

namespace Envelope

variable {envelope : Envelope} {buffer front kept : Bytes} {maxSize : Nat}

def entries (envelope : Envelope) (maxSize : Nat) : List (Slot × Bytes) :=
  [(⟨.version, .number 4⟩, Encoding.u32 envelope.version),
    (⟨.hashingInfo, .bytes (some maxSize)⟩, Encoding.prefixed envelope.hashingInfo),
    (⟨.signingInfos, .bytes (some (maxSize - envelope.hashingInfo.length))⟩,
      Encoding.prefixed envelope.signingInfos)]

theorem flatMap_entries (envelope : Envelope) (maxSize : Nat) :
    (envelope.entries maxSize).flatMap Prod.snd = envelope.toBytes := by
  simp only [entries, List.flatMap_cons, List.flatMap_nil, List.append_nil, toBytes,
    List.append_assoc]

theorem Opens.filled (opens : envelope.Opens buffer maxSize) :
    ∀ entry ∈ envelope.entries maxSize, entry.1.Filled entry.2 := by
  have within := opens.withinBudget
  rw [entries, List.forall_mem_cons, List.forall_mem_cons, List.forall_mem_cons]
  refine ⟨Encoding.length_u32 envelope.version, ?_, ?_, fun entry member =>
    (List.not_mem_nil member).elim⟩
  · refine ⟨envelope.hashingInfo, opens.hashingFits, ?_, rfl⟩
    intro most allowed
    cases allowed
    omega
  · refine ⟨envelope.signingInfos, opens.signersFit, ?_, rfl⟩
    intro most allowed
    cases allowed
    omega

theorem decode_of_cutIn (opens : envelope.Opens buffer maxSize) {entry : Slot × Bytes}
    (cutIn : CutIn (envelope.entries maxSize) front entry kept) :
    ∃ needed remaining,
      decode front maxSize = .error (.decode (.truncated entry.1.field needed remaining)) ∧
        remaining < needed := by
  have filled := opens.filled
  have within := opens.withinBudget
  obtain ⟨before, after, split, rfl, here, cut⟩ := cutIn
  rw [split] at filled
  have entryFilled := filled entry (List.mem_append_right before List.mem_cons_self)
  obtain ⟨needed, remaining, fault, less⟩ := entryFilled.exists_fault_of_cut here cut
  refine ⟨needed, remaining, decode_eq_error_iff.mpr ?_, less⟩
  match before, split with
  | [], split =>
      cases split
      exact .inl fault
  | [_], split =>
      cases split
      exact .inr ⟨envelope.version, kept, opens.supported, rfl, .inl fault⟩
  | [_, _], split =>
      cases split
      refine .inr ⟨envelope.version, Encoding.prefixed envelope.hashingInfo ++ kept,
        opens.supported, ?_, .inr ⟨envelope.hashingInfo, kept, opens.hashingFits, ?_, rfl, fault⟩⟩
      · simp only [List.flatMap_cons, List.flatMap_nil, List.append_nil, List.append_assoc]
      · omega
  | _ :: _ :: _ :: later, split =>
      cases later with
      | nil => cases split
      | cons another others => cases split

theorem decode_ne_unsupportedVersion {rest : Bytes} {version refused : UInt32}
    (split : buffer = Encoding.u32 version ++ rest) (supported : version ∈ supportedVersions) :
    decode buffer maxSize ≠ .error (.unsupportedVersion refused) := by
  rw [decode_of_version split, if_pos supported]
  cases (runFrom (readNested version maxSize) ((Cursor.start buffer).advance 4)).1 with
  | ok envelope => simp only [ok_mapError, ne_eq, reduceCtorEq, not_false_eq_true]
  | error fault =>
      simp only [error_mapError, ne_eq, Except.error.injEq, reduceCtorEq, not_false_eq_true]

theorem decode_append
    (complete : ∀ field needed remaining,
      decode buffer maxSize ≠ .error (.decode (.truncated field needed remaining)))
    (tail : Bytes) : decode (buffer ++ tail) maxSize = decode buffer maxSize := by
  have long : ¬ buffer.length < 4 := fun short => complete _ _ _ (decode_of_short short)
  obtain ⟨version, rest, split⟩ := exists_version long
  have longer : buffer ++ tail = Encoding.u32 version ++ (rest ++ tail) := by
    rw [split, List.append_assoc]
  by_cases supported : version ∈ supportedVersions
  · cases outcome : decode buffer maxSize with
    | ok envelope =>
        have opens := decode_eq_ok_iff.mp outcome
        exact decode_eq_ok_iff.mpr
          { opens with atHead := opens.atHead.trans (List.prefix_append buffer tail) }
    | error error =>
        cases error with
        | unsupportedVersion refused =>
            exact (decode_ne_unsupportedVersion split supported outcome).elim
        | decode error =>
            have told (field : Field) (needed remaining : Nat) :
                error ≠ .truncated field needed remaining := by
              rintro rfl
              exact complete _ _ _ outcome
            apply (decode_eq_error_iff_of_supported longer supported).mpr
            rcases (decode_eq_error_iff_of_supported split supported).mp outcome with
              fault | ⟨hashingInfo, behind, fits, within, rfl, fault⟩
            · exact .inl (fault.append told tail)
            · rw [List.append_assoc]
              exact .inr ⟨hashingInfo, behind ++ tail, fits, within, rfl, fault.append told tail⟩
  · rw [decode_of_version longer, decode_of_version split, if_neg supported, if_neg supported]

end Envelope

namespace SignerBlock

theorem toBytes_ne_nil (block : SignerBlock) : block.toBytes ≠ [] := by
  intro empty
  have length := congrArg List.length empty
  rw [toBytes, List.length_append, Encoding.length_u32, List.length_nil] at length
  omega

def append (block : SignerBlock) (tail : Bytes) : SignerBlock :=
  { block with signingInfo := block.signingInfo ++ tail }

end SignerBlock

namespace SignerList

variable {signers : SignerList} {front : Bytes}

def firstBlocks (signers : SignerList) (count : Nat) : SignerList :=
  { signers with blocks := signers.blocks.take count }

/-- Where the block of that number ends, and before the first one the default signer. -/
def endOf (signers : SignerList) (count : Nat) : Nat :=
  signers.defaultSigner.length + ((signers.blocks.take count).flatMap SignerBlock.toBytes).length

theorem length_firstBlocks (signers : SignerList) (count : Nat) :
    (signers.firstBlocks count).toBytes.length = signers.endOf count :=
  List.length_append

theorem toBytes_firstBlocks_isPrefix (signers : SignerList) (count : Nat) :
    (signers.firstBlocks count).toBytes <+: signers.toBytes := by
  have split : signers.blocks.flatMap SignerBlock.toBytes =
      (signers.blocks.take count).flatMap SignerBlock.toBytes ++
        (signers.blocks.drop count).flatMap SignerBlock.toBytes := by
    rw [← List.flatMap_append, List.take_append_drop]
  apply (List.prefix_append_right_inj signers.defaultSigner).mpr
  rw [split]
  exact List.prefix_append _ _

theorem firstBlocks_encodable (encodable : signers.Encodable) (count : Nat) :
    (signers.firstBlocks count).Encodable where
  default := encodable.default
  blocks := fun block member => encodable.blocks block (List.mem_of_mem_take member)

theorem decode_of_length_eq_endOf (encodable : signers.Encodable) {count : Nat}
    (here : front <+: signers.toBytes) (ends : front.length = signers.endOf count) :
    decode front = .ok (signers.firstBlocks count) := by
  have written := toBytes_firstBlocks_isPrefix signers count
  have whole := length_firstBlocks signers count
  have inside : front <+: (signers.firstBlocks count).toBytes :=
    List.prefix_of_prefix_length_le here written (by omega)
  have same : front = (signers.firstBlocks count).toBytes := inside.eq_of_length (by omega)
  exact decode_eq_ok_iff.mpr ⟨firstBlocks_encodable encodable count, same⟩

theorem eq_firstBlocks_of_decode (encodable : signers.Encodable) {decoded : SignerList}
    (here : front <+: signers.toBytes) (listed : decode front = .ok decoded) :
    decoded = signers.firstBlocks decoded.blocks.length ∧
      decoded.blocks.length ≤ signers.blocks.length := by
  obtain ⟨decodedEncodable, rfl⟩ := decode_eq_ok_iff.mp listed
  obtain ⟨signer, fits, defaultEq⟩ := encodable.default
  obtain ⟨other, otherFits, otherEq⟩ := decodedEncodable.default
  rw [toBytes, toBytes, defaultEq, otherEq] at here
  have otherHere := (List.prefix_append other.toBytes _).trans here
  have same : other = signer :=
    SigningInfo.exact_read.unique otherFits fits otherHere (List.prefix_append _ _)
  subst same
  have blocksHere : decoded.blocks <+: signers.blocks :=
    SignerBlock.exact_read.isPrefix_of_flatMap SignerBlock.toBytes_ne_nil
      decodedEncodable.blocks encodable.blocks ((List.prefix_append_right_inj _).mp here)
  refine ⟨?_, blocksHere.length_le⟩
  rw [firstBlocks, ← List.prefix_iff_eq_take.mp blocksHere, defaultEq, ← otherEq]

theorem exists_decode_iff (encodable : signers.Encodable) (here : front <+: signers.toBytes)
    (strict : front ≠ signers.toBytes) :
    (∃ decoded, decode front = .ok decoded) ↔
      ∃ count < signers.blocks.length, front.length = signers.endOf count := by
  constructor
  · intro listed
    obtain ⟨decoded, listed⟩ := listed
    obtain ⟨same, most⟩ := eq_firstBlocks_of_decode encodable here listed
    obtain ⟨-, frontEq⟩ := decode_eq_ok_iff.mp listed
    have fewer : decoded.blocks.length ≠ signers.blocks.length := by
      intro all
      rw [same, firstBlocks, all, List.take_length] at frontEq
      exact strict frontEq
    refine ⟨decoded.blocks.length, by omega, ?_⟩
    rw [← length_firstBlocks, ← same, frontEq]
  · intro ended
    obtain ⟨count, -, ends⟩ := ended
    exact ⟨_, decode_of_length_eq_endOf encodable here ends⟩

theorem decode_append_block {buffer tail : Bytes} {block : SignerBlock}
    {before after : List SignerBlock} (listed : decode buffer = .ok signers)
    (split : signers.blocks = before ++ block :: after)
    (fits : Encoding.Fits (block.append tail).signingInfo) :
    decode (toBytes { signers with blocks := before ++ block.append tail :: after }) =
      .ok { signers with blocks := before ++ block.append tail :: after } := by
  obtain ⟨encodable, -⟩ := decode_eq_ok_iff.mp listed
  have blocksFit := encodable.blocks
  rw [split, List.forall_mem_append, List.forall_mem_cons] at blocksFit
  obtain ⟨beforeFit, -, afterFit⟩ := blocksFit
  refine decode_eq_ok_iff.mpr ⟨⟨encodable.default, ?_⟩, rfl⟩
  rw [List.forall_mem_append, List.forall_mem_cons]
  exact ⟨beforeFit, fits, afterFit⟩

theorem decode_append_ne {buffer tail : Bytes} (listed : decode buffer = .ok signers)
    (something : tail ≠ []) : decode (buffer ++ tail) ≠ .ok signers := by
  intro longer
  have whole := (decode_eq_ok_iff.mp listed).2
  have same := (decode_eq_ok_iff.mp longer).2
  rw [whole] at same
  exact something (List.append_right_eq_self.mp same)

end SignerList

end PackageSignature

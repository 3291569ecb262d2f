import PackageSignature.Proofs.Record.Signer
import PackageSignature.Record.SignerList

/-! The format of a signer list. The default signer has no length field in front of it,
so the list is unambiguous only because the walk over a signer record ends where the
record ends. A buffer then decodes to a list precisely when it is the encoding of that
list and the list can be told by its encoding. -/

namespace PackageSignature

namespace SignerBlock

theorem exact_read :
    Reader.Exact read toBytes (fun block => Encoding.Fits block.signingInfo) := by
  intro cursor block after
  simp only [read, (Reader.exact_u32 _).bind_eq_ok, (Reader.exact_bytes _).bind_eq_ok,
    Reader.runFrom_pure, Prod.mk.injEq, Except.ok.injEq, Cursor.rest_advance, toBytes,
    append_isPrefix_iff, List.length_append, true_and]
  constructor
  · rintro ⟨blockId, idHere, signingInfo, fits, bodyHere, rfl, rfl⟩
    refine ⟨fits, ?_, idHere, bodyHere⟩
    simp only [Cursor.advance, Nat.add_assoc]
  · rintro ⟨fits, rfl, idHere, bodyHere⟩
    refine ⟨block.blockId, idHere, block.signingInfo, fits, bodyHere, rfl, ?_⟩
    simp only [Cursor.advance, Nat.add_assoc]

theorem length_toBytes (block : SignerBlock) :
    block.toBytes.length = 8 + block.signingInfo.length := by
  rw [toBytes, List.length_append, Encoding.length_u32, Encoding.length_prefixed]
  omega

theorem readAll_of_nothing_left {cursor : Cursor} (nothing : cursor.remaining = 0) :
    readAll cursor = (.ok [], cursor) := by
  rw [readAll, if_pos nothing]

theorem readAll_of_read {cursor after : Cursor} {block : SignerBlock}
    (done : Reader.runFrom read cursor = (.ok block, after)) :
    (readAll cursor).1 = (readAll after).1.map (block :: ·) := by
  have something : cursor.remaining ≠ 0 := by
    have less := remaining_lt_of_read done
    omega
  rw [readAll, if_neg something]
  split
  · rename_i failed
    rw [done] at failed
    cases failed
  · rename_i same
    rw [done] at same
    cases same
    cases outcome : readAll after with
    | mk result last =>
        cases result with
        | error error => rfl
        | ok blocks => rfl

theorem readAll_of_failed_read {cursor after : Cursor} {error : DecodeError}
    (something : cursor.remaining ≠ 0)
    (failed : Reader.runFrom read cursor = (.error error, after)) :
    (readAll cursor).1 = .error error := by
  rw [readAll, if_neg something]
  split
  · rename_i same
    rw [failed] at same
    cases same
    rfl
  · rename_i done
    rw [failed] at done
    cases done

theorem readAll_of_blocks (blocks : List SignerBlock) (cursor : Cursor)
    (fits : ∀ block ∈ blocks, Encoding.Fits block.signingInfo)
    (here : blocks.flatMap toBytes <+: cursor.rest) :
    (readAll cursor).1 =
      (readAll (cursor.advance (blocks.flatMap toBytes).length)).1.map (blocks ++ ·) := by
  induction blocks generalizing cursor with
  | nil =>
      change (readAll cursor).1 = (readAll cursor).1.map id
      cases (readAll cursor).1 with
      | error error => rfl
      | ok blocks => rfl
  | cons block others ih =>
      obtain ⟨blockFits, othersFit⟩ := List.forall_mem_cons.mp fits
      rw [List.flatMap_cons, append_isPrefix_iff] at here
      have done := (exact_read cursor block _).mpr ⟨blockFits, rfl, here.1⟩
      have further := ih (cursor.advance block.toBytes.length) othersFit
        (by rw [Cursor.rest_advance]; exact here.2)
      rw [readAll_of_read done, further, List.flatMap_cons, List.length_append,
        ← Cursor.advance_advance]
      cases (readAll ((cursor.advance block.toBytes.length).advance
          (others.flatMap toBytes).length)).1 with
      | error error => rfl
      | ok last => rfl

theorem exists_blocks_in_front (cursor : Cursor) :
    ∃ blocks : List SignerBlock, (∀ block ∈ blocks, Encoding.Fits block.signingInfo) ∧
      blocks.flatMap toBytes <+: cursor.rest ∧
      ((cursor.advance (blocks.flatMap toBytes).length).remaining = 0 ∨
        (cursor.advance (blocks.flatMap toBytes).length).remaining ≠ 0 ∧
          ∃ error, (Reader.runFrom read (cursor.advance (blocks.flatMap toBytes).length)).1 =
            .error error) := by
  -- The blocks behind the first one are split off a cursor with less behind it.
  induction size : cursor.remaining using Nat.strongRecOn generalizing cursor with
  | ind size ih =>
      by_cases nothing : cursor.remaining = 0
      · exact ⟨[], fun block member => (List.not_mem_nil member).elim, List.nil_prefix,
          .inl nothing⟩
      · cases outcome : Reader.runFrom read cursor with
        | mk result after =>
            cases result with
            | error error =>
                exact ⟨[], fun block member => (List.not_mem_nil member).elim, List.nil_prefix,
                  .inr ⟨nothing, error, congrArg Prod.fst outcome⟩⟩
            | ok block =>
                have smaller := remaining_lt_of_read outcome
                obtain ⟨fits, rfl, here⟩ := (exact_read cursor block after).mp outcome
                obtain ⟨others, othersFit, othersHere, last⟩ := ih _ (size ▸ smaller) _ rfl
                rw [Cursor.rest_advance] at othersHere
                refine ⟨block :: others, List.forall_mem_cons.mpr ⟨fits, othersFit⟩, ?_, ?_⟩
                · rw [List.flatMap_cons, append_isPrefix_iff]
                  exact ⟨here, othersHere⟩
                · rw [List.flatMap_cons, List.length_append, ← Cursor.advance_advance]
                  exact last

theorem readAll_eq_ok_iff {cursor : Cursor} {blocks : List SignerBlock} :
    (readAll cursor).1 = .ok blocks ↔
      (∀ block ∈ blocks, Encoding.Fits block.signingInfo) ∧
        cursor.rest = blocks.flatMap toBytes := by
  constructor
  · intro done
    obtain ⟨others, fits, here, nothing | ⟨something, error, failed⟩⟩ :=
      exists_blocks_in_front cursor
    · rw [readAll_of_blocks others cursor fits here, readAll_of_nothing_left nothing] at done
      have same : others ++ [] = blocks := Except.ok.inj done
      rw [List.append_nil] at same
      subst same
      have whole := List.prefix_iff_eq_append.mp here
      rw [← Cursor.length_rest, List.length_eq_zero_iff, Cursor.rest_advance] at nothing
      rw [nothing, List.append_nil] at whole
      exact ⟨fits, whole.symm⟩
    · obtain ⟨after, outcome⟩ := Reader.outcome_eq_iff.mp failed
      rw [readAll_of_blocks others cursor fits here,
        readAll_of_failed_read something outcome] at done
      cases done
  · intro written
    obtain ⟨fits, here⟩ := written
    have nothing : (cursor.advance (blocks.flatMap toBytes).length).remaining = 0 := by
      rw [← Cursor.length_rest, Cursor.rest_advance, here, List.drop_length]
      rfl
    rw [readAll_of_blocks blocks cursor fits (here ▸ List.prefix_rfl),
      readAll_of_nothing_left nothing]
    change Except.ok (blocks ++ []) = .ok blocks
    rw [List.append_nil]

end SignerBlock

namespace SignerList

/-- The encoding of the list tells the list: the default signer is the encoding of one
record with nothing behind it, and every body fits behind its length field. -/
structure Encodable (signers : SignerList) : Prop where
  default : ∃ signer : SigningInfo, signer.Fits ∧ signers.defaultSigner = signer.toBytes
  blocks : ∀ block ∈ signers.blocks, Encoding.Fits block.signingInfo

private theorem runFrom_blocks {cursor last : Cursor} {signers : SignerList} :
    Reader.runFrom (do
        let behindDefault ← get
        let blocks ← (SignerBlock.readAll : Reader (List SignerBlock))
        return { defaultSigner := behindDefault.buffer.take behindDefault.position, blocks })
        cursor = (.ok signers, last) ↔
      SignerBlock.readAll cursor = (.ok signers.blocks, last) ∧
        signers.defaultSigner = cursor.buffer.take cursor.position := by
  have got : Reader.runFrom (get : Reader Cursor) cursor = (.ok cursor, cursor) := rfl
  rw [Reader.runFrom_bind, got]
  simp only [Reader.runFrom_bind_eq_ok, Reader.runFrom_pure, Prod.mk.injEq, Except.ok.injEq]
  constructor
  · rintro ⟨blocks, between, read, rfl, rfl⟩
    exact ⟨read, rfl⟩
  · rintro ⟨read, same⟩
    refine ⟨signers.blocks, last, read, ?_, rfl⟩
    rw [← same]

theorem decode_eq_ok_iff {buffer : Bytes} {signers : SignerList} :
    decode buffer = .ok signers ↔ signers.Encodable ∧ buffer = signers.toBytes := by
  have walked (signer : SigningInfo) (here : signer.toBytes <+: buffer) :
      ((Cursor.start buffer).advance signer.toBytes.length).buffer.take
        ((Cursor.start buffer).advance signer.toBytes.length).position = signer.toBytes := by
    simp only [Cursor.advance, Cursor.start, Nat.zero_add]
    exact eq_take_of_isPrefix here
  rw [decode, Reader.decode, Reader.outcome_eq_iff]
  simp only [read, SigningInfo.skip_eq_read, bind_assoc, pure_bind,
    SigningInfo.exact_read.bind_eq_ok, Cursor.rest_start, runFrom_blocks]
  constructor
  · rintro ⟨last, signer, fits, here, blocksRead, defaultEq⟩
    rw [walked signer here] at defaultEq
    obtain ⟨blocksFit, behind⟩ := SignerBlock.readAll_eq_ok_iff.mp (congrArg Prod.fst blocksRead)
    refine ⟨⟨⟨signer, fits, defaultEq⟩, blocksFit⟩, ?_⟩
    rw [toBytes, defaultEq, ← behind, Cursor.rest_advance, Cursor.rest_start]
    exact (List.prefix_iff_eq_append.mp here).symm
  · rintro ⟨⟨⟨signer, fits, defaultEq⟩, blocksFit⟩, bufferEq⟩
    rw [toBytes, defaultEq] at bufferEq
    have here : signer.toBytes <+: buffer := bufferEq ▸ List.prefix_append _ _
    have behind : ((Cursor.start buffer).advance signer.toBytes.length).rest =
        signers.blocks.flatMap SignerBlock.toBytes := by
      rw [Cursor.rest_advance, Cursor.rest_start, bufferEq, List.drop_left]
    have blocksRead := SignerBlock.readAll_eq_ok_iff.mpr ⟨blocksFit, behind⟩
    exact ⟨_, signer, fits, here, Prod.ext blocksRead rfl, by rw [walked signer here, defaultEq]⟩

theorem decodeDefault_of_encodable {signers : SignerList} (encodable : signers.Encodable) :
    ∃ signer, signers.decodeDefault = .ok signer ∧ signer.toBytes = signers.defaultSigner := by
  obtain ⟨signer, fits, defaultEq⟩ := encodable.default
  refine ⟨signer, ?_, defaultEq.symm⟩
  rw [decodeDefault, defaultEq]
  exact SigningInfo.exact_read.decode_eq_ok.mpr ⟨fits, List.prefix_rfl⟩

theorem length_defaultSigner_le (signers : SignerList) :
    signers.defaultSigner.length ≤ signers.toBytes.length := by
  rw [toBytes, List.length_append]
  exact Nat.le_add_right _ _

theorem length_signingInfo_le {signers : SignerList} {block : SignerBlock}
    (listed : block ∈ signers.blocks) : block.signingInfo.length ≤ signers.toBytes.length := by
  obtain ⟨before, after, split⟩ := List.append_of_mem listed
  rw [toBytes, split, List.flatMap_append, List.flatMap_cons]
  simp only [List.length_append, SignerBlock.length_toBytes]
  omega

theorem encodable_of_length_le {signers : SignerList} {signer : SigningInfo}
    (default : signers.defaultSigner = signer.toBytes)
    (within : Encoding.Fits signers.toBytes) : signers.Encodable where
  default := by
    have fits : Encoding.Fits signers.defaultSigner :=
      Nat.le_trans signers.length_defaultSigner_le within
    rw [default] at fits
    exact ⟨signer, SigningInfo.fits_of_length_le fits, default⟩
  blocks := fun _ listed => Nat.le_trans (length_signingInfo_le listed) within

/-! ### Lists that are built block by block -/

/-- What comes behind the blocks that are there: a signer yet to be encoded, or a block
whose body may hold anything. -/
inductive Addition where
  | signer (blockId : UInt32) (info : SigningInfo)
  | raw (block : SignerBlock)

namespace Addition

def block : Addition → SignerBlock
  | signer blockId info => { blockId, signingInfo := info.toBytes }
  | raw block => block

def Fits (addition : Addition) : Prop :=
  Encoding.Fits addition.block.signingInfo

end Addition

def add (signers : SignerList) : Addition → SignerList
  | .signer blockId info => signers.addBlock blockId info
  | .raw block => { signers with blocks := signers.blocks ++ [block] }

theorem add_eq (signers : SignerList) (addition : Addition) :
    signers.add addition = { signers with blocks := signers.blocks ++ [addition.block] } := by
  cases addition with
  | signer blockId info => rfl
  | raw block => rfl

theorem ofDefault_encodable {signer : SigningInfo} (fits : signer.Fits) :
    (ofDefault signer).Encodable where
  default := ⟨signer, fits, rfl⟩
  blocks := fun _ member => (List.not_mem_nil member).elim

theorem add_encodable {signers : SignerList} {addition : Addition}
    (encodable : signers.Encodable) (fits : addition.Fits) :
    (signers.add addition).Encodable := by
  rw [add_eq]
  refine ⟨encodable.default, ?_⟩
  intro block member
  rcases List.mem_append.mp member with before | last
  · exact encodable.blocks block before
  · rw [List.mem_singleton.mp last]
    exact fits

theorem foldl_add_encodable {signers : SignerList} (additions : List Addition)
    (encodable : signers.Encodable) (fits : ∀ addition ∈ additions, addition.Fits) :
    (additions.foldl add signers).Encodable := by
  induction additions generalizing signers with
  | nil => exact encodable
  | cons addition others ih =>
      have added := add_encodable encodable (fits addition List.mem_cons_self)
      exact ih added (fun other member => fits other (List.mem_cons_of_mem _ member))

/-- Decoding loses nothing, and a list survives its encoding just where its default
signer is one encoded record and all its parts fit. -/
theorem toBytes_lossless :
    (∀ buffer signers, decode buffer = .ok signers →
      signers.toBytes = buffer ∧
        ∃ signer, signers.decodeDefault = .ok signer ∧
          signer.toBytes = signers.defaultSigner) ∧
    (∀ signers : SignerList, decode signers.toBytes = .ok signers ↔
      (∃ signer : SigningInfo, signer.Fits ∧ signers.defaultSigner = signer.toBytes) ∧
        ∀ block ∈ signers.blocks, Encoding.Fits block.signingInfo) ∧
    (∀ (signer : SigningInfo) (additions : List Addition), signer.Fits →
      (∀ addition ∈ additions, addition.Fits) →
        decode (additions.foldl add (ofDefault signer)).toBytes =
          .ok (additions.foldl add (ofDefault signer))) ∧
    (∀ signers : SignerList,
      (decode signers.toBytes).bind (fun decoded => decode decoded.toBytes) =
        decode signers.toBytes) := by
  refine ⟨?_, ?_, ?_, ?_⟩
  · intro buffer signers decoded
    obtain ⟨encodable, bufferEq⟩ := decode_eq_ok_iff.mp decoded
    exact ⟨bufferEq.symm, decodeDefault_of_encodable encodable⟩
  · intro signers
    rw [decode_eq_ok_iff]
    constructor
    · rintro ⟨encodable, -⟩
      exact ⟨encodable.default, encodable.blocks⟩
    · rintro ⟨default, blocks⟩
      exact ⟨⟨default, blocks⟩, rfl⟩
  · intro signer additions fits additionsFit
    have encodable := foldl_add_encodable additions (ofDefault_encodable fits) additionsFit
    exact decode_eq_ok_iff.mpr ⟨encodable, rfl⟩
  · intro signers
    cases outcome : decode signers.toBytes with
    | error error => rfl
    | ok decoded =>
        obtain ⟨encodable, -⟩ := decode_eq_ok_iff.mp outcome
        exact decode_eq_ok_iff.mpr ⟨encodable, rfl⟩

def sampleSigner : SigningInfo where
  apkDigest := [0xd1, 0xd2]
  certificate := [0x30, 0x01, 0xc1]
  additionalData := []
  publicKey := [0x30, 0x9e]
  signatureAlgorithmId := 0x0103
  signature := [0xff]

def sampleAdditions : List Addition :=
  [.signer 5 sampleSigner, .raw { blockId := 5, signingInfo := [1, 2, 3] }]

theorem sampleSigner_fits : sampleSigner.Fits := by
  constructor <;> decide

theorem sampleAdditions_fit : ∀ addition ∈ sampleAdditions, addition.Fits := by
  intro addition member
  rcases List.mem_cons.mp member with rfl | later
  · exact (by decide : Encoding.Fits sampleSigner.toBytes)
  · rw [List.mem_singleton.mp later]
    exact (by decide : Encoding.Fits [1, 2, 3])

theorem toBytes_lossless_damaged_block :
    sampleSigner.Fits ∧ (∀ addition ∈ sampleAdditions, addition.Fits) ∧
      decode (sampleAdditions.foldl add (ofDefault sampleSigner)).toBytes =
        .ok (sampleAdditions.foldl add (ofDefault sampleSigner)) ∧
      (∃ signer, (sampleAdditions.foldl add (ofDefault sampleSigner)).decodeDefault = .ok signer ∧
        signer.toBytes = sampleSigner.toBytes) := by
  have decoded := toBytes_lossless.2.2.1 sampleSigner sampleAdditions sampleSigner_fits
    sampleAdditions_fit
  exact ⟨sampleSigner_fits, sampleAdditions_fit, decoded, (toBytes_lossless.1 _ _ decoded).2⟩

end SignerList

end PackageSignature

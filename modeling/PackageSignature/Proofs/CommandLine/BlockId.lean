import PackageSignature.CommandLine.Arguments
import PackageSignature.Proofs.CommandLine.Completeness
import PackageSignature.Proofs.Text.Blank
import PackageSignature.Proofs.Text.Numeral

/-! The id of a signer block on the command line. It is read exactly where it is a number of its
base and fits, and each id is read from every form in which a report prints it. So the id that an
inspection lists for a block is the id that a verification of that block asks for. -/

namespace PackageSignature.CommandLine

open Text

namespace BlockId

variable {raw : String} {text form letters : List Char} {base : Nat} {id : UInt32}

/-- The base that the text is written in, and what is written in it: behind a mark all but the
underscores, and else everything. -/
inductive Written : List Char → Nat → List Char → Prop
  | marked {mark : Char} {rest : List Char} (either : mark = 'x' ∨ mark = 'X') :
      Written ('0' :: mark :: rest) 16 (rest.filter (· != '_'))
  | plain {text : List Char}
      (unmarked : ∀ mark rest, text = '0' :: mark :: rest → mark ≠ 'x' ∧ mark ≠ 'X') :
      Written text 10 text

theorem exists_written (text : List Char) : ∃ base letters, Written text base letters := by
  by_cases marked : ∃ mark rest, text = '0' :: mark :: rest ∧ (mark = 'x' ∨ mark = 'X')
  · obtain ⟨mark, rest, rfl, either⟩ := marked
    exact ⟨_, _, .marked either⟩
  · refine ⟨10, text, .plain ?_⟩
    intro mark rest same
    apply not_or.mp
    intro either
    exact marked ⟨mark, rest, same, either⟩

namespace Written

theorem small (written : Written text base letters) : base ≤ 16 := by
  cases written with
  | marked => decide
  | plain => decide

theorem readNumber_eq (written : Written text base letters) :
    readNumber text = Numeral.read base largest letters := by
  cases written with
  | marked either =>
      rcases either with rfl | rfl
      · rfl
      · rfl
  | plain unmarked =>
      unfold readNumber
      split
      case h_1 rest => exact ((unmarked 'x' rest rfl).1 rfl).elim
      case h_2 rest => exact ((unmarked 'X' rest rfl).2 rfl).elim
      case h_3 => rfl

end Written

theorem ofText_eq_ok_iff (trims : Trims raw.toList text) (written : Written text base letters) :
    ofText raw = .ok id ↔ Numeral.Denotes base letters id.toNat := by
  have read (n : Nat) : Numeral.read base largest letters = .ok n ↔
      n ≤ largest ∧ Numeral.Denotes base letters n := Numeral.read_eq_ok_iff written.small
  simp only [ofText, trimBlanks_eq_iff.mpr trims, written.readNumber_eq]
  constructor
  · intro accepted
    cases outcome : Numeral.read base largest letters with
    | error error =>
        rw [outcome] at accepted
        cases accepted
    | ok n =>
        rw [outcome] at accepted
        obtain ⟨within, denotes⟩ := (read n).mp outcome
        cases accepted
        rw [UInt32.toNat_ofNat_of_lt' (Nat.lt_succ_of_le within)]
        exact denotes
  · intro denotes
    have within : id.toNat ≤ largest := Nat.le_of_lt_succ id.toNat_lt
    rw [(read id.toNat).mpr ⟨within, denotes⟩]
    exact congrArg Except.ok UInt32.ofNat_toNat

theorem ofText_eq_error_iff (trims : Trims raw.toList text) (written : Written text base letters)
    {error : BlockIdError} :
    ofText raw = .error error ↔
      error.text = String.ofList text ∧ Numeral.Refuses base largest letters error.error := by
  have read : Numeral.read base largest letters = .error error.error ↔ _ :=
    Numeral.read_eq_error_iff written.small
  simp only [ofText, trimBlanks_eq_iff.mpr trims, written.readNumber_eq]
  rw [← read]
  cases outcome : Numeral.read base largest letters with
  | ok n =>
      constructor
      · intro impossible
        cases impossible
      · rintro ⟨-, impossible⟩
        cases impossible
  | error fault =>
      constructor
      · intro refused
        cases refused
        exact ⟨rfl, rfl⟩
      · rintro ⟨same, refused⟩
        cases refused
        rw [← same]

/-! ### What is printed -/

/-- A form of the id in which it is printed: in decimal, or behind a mark and filled with zeros.
The mark and the letters behind it may also be in upper case, and underscores may stand between
them. -/
inductive Printed (id : UInt32) : List Char → Prop
  | decimal : Printed id (toString id.toNat).toList
  | marked {mark : Char} {rest : List Char} (either : mark = 'x' ∨ mark = 'X')
      (same : List.Forall₂ Numeral.SameLetter (rest.filter (· != '_'))
        (Numeral.hex 8 id.toNat).toList) : Printed id ('0' :: mark :: rest)

def Names (raw : String) (id : UInt32) : Prop :=
  ∃ before form after, raw.toList = before ++ form ++ after ∧
    (∀ c ∈ before, isBlank c = true) ∧ (∀ c ∈ after, isBlank c = true) ∧ Printed id form

namespace Printed

theorem spells_decimal (id : UInt32) : Numeral.Spells 10 (toString id.toNat).toList id.toNat :=
  (Numeral.writes_toString id.toNat).spells (Numeral.sameLetters_refl _)

theorem spells_marked {rest : List Char}
    (same : List.Forall₂ Numeral.SameLetter (rest.filter (· != '_'))
      (Numeral.hex 8 id.toNat).toList) :
    Numeral.Spells 16 (rest.filter (· != '_')) id.toNat :=
  (Numeral.writes_hex 8 id.toNat).spells same

theorem letter (printed : Printed id form) : ∀ c ∈ form, isBlank c = false ∧ c ≠ '-' := by
  have ofDigit {base digit : Nat} {c : Char} (small : base ≤ 16)
      (isDigit : Numeral.IsDigit base c digit) : isBlank c = false ∧ c ≠ '-' :=
    ⟨Numeral.isBlank_of_isDigit small isDigit, isDigit.ne small rfl⟩
  intro c member
  cases printed with
  | decimal =>
      obtain ⟨digit, isDigit⟩ := (spells_decimal id).exists_digit c member
      exact ofDigit (by decide) isDigit
  | @marked mark rest either same =>
      rcases List.mem_cons.mp member with rfl | member
      · decide
      rcases List.mem_cons.mp member with rfl | member
      · rcases either with rfl | rfl
        · decide
        · decide
      by_cases separator : c = '_'
      · rw [separator]
        decide
      · have kept : c ∈ rest.filter (· != '_') :=
          List.mem_filter.mpr ⟨member, bne_iff_ne.mpr separator⟩
        obtain ⟨digit, isDigit⟩ := (spells_marked same).exists_digit c kept
        exact ofDigit (by decide) isDigit

theorem bare (printed : Printed id form) : Bare form := by
  constructor
  · intro c first
    exact (printed.letter c (List.mem_of_mem_head? first)).1
  · intro c last
    exact (printed.letter c (List.mem_of_mem_getLast? last)).1

theorem ne_nil (printed : Printed id form) : form ≠ [] := by
  cases printed with
  | decimal =>
      rw [Nat.toString_eq_repr, Nat.toList_repr]
      exact Nat.toDigits_ne_nil
  | marked => exact List.cons_ne_nil _ _

theorem exists_written (printed : Printed id form) :
    ∃ base letters, Written form base letters ∧ Numeral.Denotes base letters id.toNat := by
  cases printed with
  | decimal =>
      have spells := spells_decimal id
      refine ⟨10, _, .plain ?_, spells.denotes ?_⟩
      · intro mark rest same
        rw [same] at spells
        obtain ⟨digit, isDigit⟩ :=
          spells.exists_digit mark (List.mem_cons_of_mem _ List.mem_cons_self)
        exact ⟨isDigit.ne (by decide) rfl, isDigit.ne (by decide) rfl⟩
      · exact decimal.ne_nil
  | @marked mark rest either same =>
      refine ⟨16, _, .marked either, (spells_marked same).denotes ?_⟩
      intro nothing
      rw [nothing] at same
      have empty := List.forall₂_nil_left_iff.mp same
      rw [Numeral.hex, String.toList_ofList, List.append_eq_nil_iff] at empty
      exact Nat.toDigits_ne_nil empty.2

end Printed

theorem ofText_of_names (names : Names raw id) : ofText raw = .ok id := by
  obtain ⟨before, form, after, whole, blankBefore, blankAfter, printed⟩ := names
  obtain ⟨base, letters, written, denotes⟩ := printed.exists_written
  have trims : Trims raw.toList form :=
    ⟨before, after, whole, blankBefore, blankAfter, printed.bare⟩
  exact (ofText_eq_ok_iff trims written).mpr denotes

theorem printed_markedHex (id : UInt32) : Printed id (Numeral.markedHex 8 id.toNat).toList := by
  have unseparated : ∀ c ∈ (Numeral.hex 8 id.toNat).toList, (c != '_') = true := by
    intro c member
    obtain ⟨digit, isDigit⟩ := ((Numeral.writes_hex 8 id.toNat).spells
      (Numeral.sameLetters_refl _)).exists_digit c member
    exact bne_iff_ne.mpr (isDigit.ne (by decide) rfl)
  have marked : (Numeral.markedHex 8 id.toNat).toList =
      '0' :: 'x' :: (Numeral.hex 8 id.toNat).toList := by
    rw [Numeral.markedHex, String.toList_append]
    rfl
  rw [marked]
  refine .marked (.inl rfl) ?_
  rw [List.filter_eq_self.mpr unseparated]
  exact Numeral.sameLetters_refl _

end BlockId

/-! ### The line -/

def IsWord (text : String) : Prop :=
  text ≠ "" ∧ ∀ c ∈ text.toList.head?, c ≠ '-'

theorem BlockId.Names.isWord {raw : String} {id : UInt32} (names : Names raw id) : IsWord raw := by
  obtain ⟨before, form, after, whole, blankBefore, -, printed⟩ := names
  have front : ∀ c ∈ raw.toList.head?, c ≠ '-' := by
    intro c first
    rw [whole, List.append_assoc] at first
    cases before with
    | cons blank others =>
        cases first
        rintro rfl
        have impossible := blankBefore '-' List.mem_cons_self
        cases impossible
    | nil =>
        cases form with
        | nil => exact (printed.ne_nil rfl).elim
        | cons letter others =>
            cases first
            exact (printed.letter c List.mem_cons_self).2
  refine ⟨?_, front⟩
  rintro rfl
  have nothing := List.append_eq_nil_iff.mp (List.append_eq_nil_iff.mp whole.symm).1
  exact printed.ne_nil nothing.2

namespace Progress

variable {switches : Switches} {progress settled : Progress} {slot : Slot} {values : Values}
  {text : String}

theorem take_of_word (word : ∀ c ∈ text.toList.head?, c ≠ '-') :
    take switches progress text = progress.takeWord text := by
  rw [take]
  split
  case h_1 same => exact (word '-' (by rw [same]; rfl) rfl).elim
  case h_2 same => exact (word '-' (by rw [same]; rfl) rfl).elim
  case h_3 same => exact (word '-' (by rw [same]; rfl) rfl).elim
  case h_4 => rfl

theorem takeAll_of_word (word : IsWord text) (rest : List String) :
    takeAll switches progress (text :: rest) =
      (progress.takeWord text).bind (fun next => takeAll switches next rest) := by
  have separate : text ≠ "--" := by
    rintro rfl
    exact word.2 '-' rfl rfl
  rw [takeAll, if_neg separate, take_of_word word.2]

theorem take_signature : take Switches.verify progress "--signature" =
    progress.takeSwitch (.value .signature) := rfl

theorem take_blockId : take Switches.verify progress "--block-id" =
    progress.takeSwitch (.value .blockId) := rfl

theorem settle_of_assign (waits : progress.pending = some (slot, some text))
    (assigned : progress.values.assign slot text = .ok values) :
    progress.settle = .ok { progress with values, pending := none } := by
  rw [settle, waits]
  change (progress.values.assign slot text).map _ = _
  rw [assigned]
  rfl

theorem takeSwitch_of_settle (done : progress.settle = .ok settled) :
    progress.takeSwitch (.value slot) = .ok { settled with pending := some (slot, none) } := by
  rw [takeSwitch, done]
  rfl

theorem takeAll_of_option {name : String}
    (option : take switches progress name = progress.takeSwitch (.value slot))
    (separate : name ≠ "--") (done : progress.settle = .ok settled) (word : IsWord text)
    (rest : List String) :
    takeAll switches progress (name :: text :: rest) =
      takeAll switches { settled with pending := some (slot, some text) } rest := by
  rw [takeAll, if_neg separate, option, takeSwitch_of_settle done]
  change takeAll switches { settled with pending := some (slot, none) } (text :: rest) = _
  rw [takeAll_of_word word]
  rfl

end Progress

namespace Values

theorem path_of_isWord {text : String} (word : IsWord text) : path text = .ok ⟨text⟩ :=
  if_neg word.1

def given (package : String) (signature : Option String) (blockId : Option UInt32) : Values where
  file := some ⟨package⟩
  signature := signature.map Path.mk
  blockId := blockId
  format := .none
  quiet := false

end Values

namespace Command

open Values (given)

theorem ofWords_of_names {package signature raw : String} {id : UInt32}
    (isPackage : IsWord package) (isSignature : IsWord signature)
    (names : BlockId.Names raw id) :
    ofWords ["verify", package, "--signature", signature, "--block-id", raw] =
      .ok (.verify {
        package := ⟨package⟩, signature := some ⟨signature⟩, blockId := some id,
        format := .text, quiet := false }) := by
  have withPackage : Values.none.assign .file package = .ok (given package none none) := by
    change (Values.path package).map _ = _
    rw [Values.path_of_isWord isPackage]
    rfl
  have withSignature : (given package none none).assign .signature signature =
      .ok (given package (some signature) none) := by
    change (Values.path signature).map _ = _
    rw [Values.path_of_isWord isSignature]
    rfl
  have free : ¬ (given package (some signature) none).has .blockId = true := Bool.false_ne_true
  have withBlockId : (given package (some signature) none).assign .blockId raw =
      .ok (given package (some signature) (some id)) := by
    rw [Values.assign, if_neg free, BlockId.ofText_of_names names]
    rfl
  have taken : Progress.takeAll Switches.verify Progress.start
      [package, "--signature", signature, "--block-id", raw] =
        .ok ⟨given package (some signature) (some id), none, true⟩ := by
    rw [Progress.takeAll_of_word isPackage]
    change Progress.takeAll _ ⟨.none, some (.file, some package), true⟩ _ = _
    rw [Progress.takeAll_of_option Progress.take_signature (by decide)
        (Progress.settle_of_assign rfl withPackage) isSignature,
      Progress.takeAll_of_option Progress.take_blockId (by decide)
        (Progress.settle_of_assign rfl withSignature) names.isWord]
    exact Progress.settle_of_assign rfl withBlockId
  change (Progress.takeAll Switches.verify Progress.start
    [package, "--signature", signature, "--block-id", raw]).bind _ = _
  rw [taken]
  rfl

end Command

/-! ### The signer -/

/-- The signer that the request asks for under the id: the default signer where the id stands for
that, and else the first block with the id, whatever it holds. -/
inductive AsksFor (request : VerifyRequest) (id : UInt32) (signers : SignerList) : Prop
  | default {signer : SigningInfo}
      (reserved : id = SignerChoice.defaultBlockId ∨ id = SignerChoice.v3BlockId)
      (first : signers.decodeDefault = .ok signer)
      (chosen : Verification.chooseSigner signers request.choice = .ok signer)
  | block {block : SignerBlock}
      (free : ¬ (id = SignerChoice.defaultBlockId ∨ id = SignerChoice.v3BlockId))
      (first : block.IsFirst id signers.blocks)
      (chosen : Verification.chooseSigner signers request.choice =
        (SigningInfo.decode block.signingInfo).mapError (.signerBlock id))

namespace SignatureReport

variable {primitives : Primitives} {bytes : Bytes} {maxSize : Nat} {shown : SignatureReport}
  {block : BlockReport} {request : VerifyRequest}

theorem exists_asksFor (done : ofBytes primitives bytes maxSize = .ok shown)
    (listed : block ∈ shown.blocks) (named : request.blockId = some block.blockId) :
    ∃ envelope hashing signers, Decodes bytes maxSize envelope hashing signers ∧
      AsksFor request block.blockId signers := by
  obtain ⟨envelope, hashing, signers, decodes⟩ := exists_decodes_of_shown done
  refine ⟨envelope, hashing, signers, decodes, ?_⟩
  obtain ⟨signer, default, -, again⟩ := decodes.exists_shown primitives
  rw [done, Except.ok.injEq] at again
  rw [again] at listed
  obtain ⟨stored, member, rfl⟩ := List.mem_map.mp listed
  have asked : request.choice = SignerChoice.ofId stored.blockId := by
    rw [VerifyRequest.choice, named]
    rfl
  by_cases reserved : stored.blockId = SignerChoice.defaultBlockId ∨
      stored.blockId = SignerChoice.v3BlockId
  · refine .default reserved default ?_
    rw [asked, SignerChoice.ofId, if_pos reserved]
    exact Verification.chooseSigner_eq_ok_iff.mpr default
  · obtain ⟨first, isFirst⟩ := SignerBlock.exists_isFirst member
    refine .block reserved isFirst ?_
    rw [asked, SignerChoice.ofId, if_neg reserved]
    exact Verification.chooseSigner_of_first isFirst

end SignatureReport

/-- A block id is read just where it is a number of its base that fits into four bytes, and what
else is wrong is told apart. It is read from every form in which a report prints it, with blanks
around it; and where an inspection lists the id of a block, a line that names it in such a form
asks for the first block with the id, or for the default signer if the id stands for that. -/
theorem block_id_read_as_printed :
    (∀ raw : String, ∃ text base letters,
      Trims raw.toList text ∧ BlockId.Written text base letters ∧
      (∀ id, BlockId.ofText raw = .ok id ↔ Numeral.Denotes base letters id.toNat) ∧
      (∀ error, BlockId.ofText raw = .error error ↔
        error.text = String.ofList text ∧
          Numeral.Refuses base BlockId.largest letters error.error)) ∧
    (∀ raw id, BlockId.Names raw id → BlockId.ofText raw = .ok id) ∧
    (∀ id depth, BlockId.Printed id (VerificationReport.signerText (.block id)).toList ∧
      BlockId.Printed id (Json.Value.print depth (.number id.toNat)).toList) ∧
    (∀ block : BlockReport, ∃ form, BlockId.Printed block.blockId form.toList ∧
      block.toText = "  " ++ form ++ " (" ++ toString block.length ++ " bytes)\n") ∧
    (∀ primitives bytes maxSize shown,
      SignatureReport.ofBytes primitives bytes maxSize = .ok shown →
      ∀ block ∈ shown.blocks, ∀ raw, BlockId.Names raw block.blockId →
      ∀ package signature, IsWord package → IsWord signature →
      ∃ request envelope hashing signers,
        Command.ofWords ["verify", package, "--signature", signature, "--block-id", raw] =
          .ok (.verify request) ∧
        request.package = ⟨package⟩ ∧ request.signature = some ⟨signature⟩ ∧
        SignatureReport.Decodes bytes maxSize envelope hashing signers ∧
        AsksFor request block.blockId signers) := by
  refine ⟨?_, ?_, ?_, ?_, ?_⟩
  · intro raw
    obtain ⟨base, letters, written⟩ := BlockId.exists_written (trimBlanks raw.toList)
    have trims := trims_trimBlanks raw.toList
    exact ⟨_, base, letters, trims, written,
      fun id => BlockId.ofText_eq_ok_iff trims written,
      fun error => BlockId.ofText_eq_error_iff trims written⟩
  · intro raw id names
    exact BlockId.ofText_of_names names
  · intro id depth
    exact ⟨BlockId.printed_markedHex id, .decimal⟩
  · intro block
    exact ⟨_, BlockId.printed_markedHex block.blockId, rfl⟩
  · intro primitives bytes maxSize shown done block listed raw names package signature
      isPackage isSignature
    let request : VerifyRequest :=
      { package := ⟨package⟩, signature := some ⟨signature⟩, blockId := some block.blockId,
        format := .text, quiet := false }
    have named : request.blockId = some block.blockId := rfl
    obtain ⟨envelope, hashing, signers, decodes, asks⟩ :=
      SignatureReport.exists_asksFor done listed named
    exact ⟨request, envelope, hashing, signers, Command.ofWords_of_names isPackage isSignature names,
      rfl, rfl, decodes, asks⟩

theorem block_id_read_as_printed_repeated_block :
    BlockId.ofText "\n0X0000_0007 " = .ok 7 ∧
      ∃ request, Command.ofWords
          ["verify", "a.apk", "--signature", "a.sig", "--block-id", "\n0X0000_0007 "] =
            .ok (.verify request) ∧
        AsksFor request 7 Verification.damagedSigners := by
  have printed : BlockId.Printed 7 ('0' :: 'X' :: "0000_0007".toList) :=
    .marked (.inr rfl) (Numeral.sameLetters_refl _)
  have names : BlockId.Names "\n0X0000_0007 " 7 :=
    ⟨['\n'], _, [' '], rfl, List.forall_mem_singleton.mpr rfl, List.forall_mem_singleton.mpr rfl,
      printed⟩
  have isPackage : IsWord "a.apk" := by
    refine ⟨by decide, ?_⟩
    rintro c ⟨⟩
    decide
  have isSignature : IsWord "a.sig" := by
    refine ⟨by decide, ?_⟩
    rintro c ⟨⟩
    decide
  obtain ⟨signer, -, -, done⟩ := decodes_damagedEnvelope.exists_shown .standard
  have shown : ⟨7, 3⟩ ∈ (SignatureReport.ofRecords .standard Verifier.damagedEnvelope
      Verification.sampleHashing Verification.damagedSigners signer).blocks := List.mem_cons_self
  obtain ⟨-, read, -, -, asked⟩ := block_id_read_as_printed
  obtain ⟨request, _, _, _, taken, -, -, decodes, asks⟩ :=
    asked _ _ _ _ done _ shown _ names _ _ isPackage isSignature
  cases decodes.opened.symm.trans decodes_damagedEnvelope.opened
  cases decodes.listed.symm.trans decodes_damagedEnvelope.listed
  exact ⟨read _ _ names, request, taken, asks⟩

end PackageSignature.CommandLine

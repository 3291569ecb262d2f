import PackageSignature.CommandLine.Run

/-! What an inspection prints. Either format shows every part of the report in its order, the
blocks one behind the other as they are listed. Hexadecimal text has nothing in it that JSON would
mark, so a digest is printed as it is. -/

namespace PackageSignature

namespace Bytes

theorem length_toHex (bytes : Bytes) : bytes.toHex.length = 2 * bytes.length := by
  rw [toHex, String.length_ofList]
  induction bytes with
  | nil => rfl
  | cons byte rest counted =>
      have shown : hexDigits (byte :: rest) = [_, _] ++ hexDigits rest := rfl
      rw [shown, List.length_append, counted, List.length_cons, List.length_cons, List.length_cons,
        List.length_nil]
      omega

theorem exists_of_mem_hexDigits {bytes : Bytes} {c : Char} (listed : c ∈ hexDigits bytes) :
    ∃ n < 16, c = hexDigit n := by
  obtain ⟨byte, -, digit⟩ := List.mem_flatMap.mp listed
  have small := byte.toNat_lt
  simp only [List.mem_cons, List.not_mem_nil, or_false] at digit
  rcases digit with rfl | rfl
  · exact ⟨_, by omega, rfl⟩
  · exact ⟨_, by omega, rfl⟩

theorem hexDigit_inj : ∀ m < 16, ∀ n < 16, hexDigit m = hexDigit n → m = n := by
  decide

theorem hexDigits_injective {left right : Bytes} (same : hexDigits left = hexDigits right) :
    left = right := by
  induction left generalizing right with
  | nil =>
      cases right with
      | nil => rfl
      | cons byte rest => cases same
  | cons byte rest ih =>
      cases right with
      | nil => cases same
      | cons other others =>
          have shown : [_, _] ++ hexDigits rest = [_, _] ++ hexDigits others := same
          obtain ⟨digits, later⟩ := List.append_inj shown rfl
          simp only [List.cons.injEq, and_true] at digits
          have small := byte.toNat_lt
          have otherSmall := other.toNat_lt
          have high := hexDigit_inj _ (by omega) _ (by omega) digits.1
          have low := hexDigit_inj _ (by omega) _ (by omega) digits.2
          have sameByte : byte.toNat = other.toNat := by omega
          rw [UInt8.toNat_inj.mp sameByte, ih later]

theorem toHex_injective {left right : Bytes} (same : left.toHex = right.toHex) : left = right :=
  hexDigits_injective (String.ofList_injective same)

end Bytes

namespace Text

/-- The pieces stand in the text one behind the other. -/
def Lists : String → List String → Prop
  | _, [] => True
  | text, piece :: rest => ∃ before after, text = before ++ piece ++ after ∧ Lists after rest

namespace Lists

variable {left right : String} {first second : List String}

theorem append_right (left : String) (lists : Lists right second) :
    Lists (left ++ right) second := by
  cases second with
  | nil => trivial
  | cons piece rest =>
      obtain ⟨before, after, rfl, later⟩ := lists
      exact ⟨left ++ before, after, by simp only [String.append_assoc], later⟩

theorem append (lists : Lists left first) (later : Lists right second) :
    Lists (left ++ right) (first ++ second) := by
  induction first generalizing left with
  | nil => exact later.append_right left
  | cons piece rest ih =>
      obtain ⟨before, after, rfl, listed⟩ := lists
      exact ⟨before, after ++ right, by simp only [String.append_assoc], ih listed⟩

theorem append_left (lists : Lists left first) (right : String) : Lists (left ++ right) first := by
  have both : Lists (left ++ right) (first ++ []) := lists.append trivial
  rwa [List.append_nil] at both

theorem self (text : String) : Lists text [text] :=
  ⟨"", "", by rw [String.empty_append, String.append_empty], trivial⟩

theorem join {α : Type} {items : List α} {text : α → String} {pieces : α → List String}
    (each : ∀ item, Lists (text item) (pieces item)) :
    Lists (String.join (items.map text)) (items.flatMap pieces) := by
  induction items with
  | nil => trivial
  | cons item rest ih =>
      rw [List.map_cons, String.join_cons, List.flatMap_cons]
      exact (each item).append ih

theorem of_join (pieces : List String) : Lists (String.join pieces) pieces := by
  have lists : Lists (String.join (pieces.map id)) (pieces.flatMap fun piece => [piece]) :=
    join fun piece => self piece
  rwa [List.map_id, List.flatMap_singleton'] at lists

end Lists

end Text

namespace Json

open Text (Lists)

variable {text : String} {depth : Nat}

theorem flatMap_of_plain {letters : List Char} (plain : ∀ c ∈ letters, escapeChar c = [c]) :
    letters.flatMap escapeChar = letters := by
  induction letters with
  | nil => rfl
  | cons c rest ih =>
      obtain ⟨first, others⟩ := List.forall_mem_cons.mp plain
      rw [List.flatMap_cons, first, ih others, List.singleton_append]

theorem quote_of_plain (plain : ∀ c ∈ text.toList, escapeChar c = [c]) :
    quote text = "\"" ++ text ++ "\"" := by
  rw [quote, flatMap_of_plain plain, String.ofList_toList]

theorem escapeChar_hexDigit : ∀ n < 16, escapeChar (Bytes.hexDigit n) = [Bytes.hexDigit n] := by
  decide

theorem quote_toHex (bytes : Bytes) : quote bytes.toHex = "\"" ++ bytes.toHex ++ "\"" := by
  apply quote_of_plain
  intro c listed
  rw [Bytes.toHex, String.toList_ofList] at listed
  obtain ⟨n, small, rfl⟩ := Bytes.exists_of_mem_hexDigits listed
  exact escapeChar_hexDigit n small

def member (name text : String) : String :=
  "\"" ++ name ++ "\"" ++ ": " ++ text

def optional : Option String → String
  | some text => quote text
  | none => "null"

namespace Value

theorem lists_printItems {α : Type} {items : List α} {value : α → Value}
    {pieces : α → List String} (each : ∀ item, Lists ((value item).print depth) (pieces item)) :
    Lists (printItems depth (items.map value)) (items.flatMap pieces) := by
  induction items with
  | nil => trivial
  | cons item rest ih =>
      rw [List.map_cons, printItems, List.flatMap_cons]
      exact ((each item).append_right _).append ih

theorem lists_array {α : Type} {items : List α} {value : α → Value} {pieces : α → List String}
    (each : ∀ item, Lists ((value item).print (depth + 1)) (pieces item)) :
    Lists (print depth (.array (items.map value))) (items.flatMap pieces) := by
  cases items with
  | nil => trivial
  | cons item rest =>
      rw [List.map_cons, print, List.flatMap_cons]
      have later : Lists (printItems (depth + 1) (rest.map value)) (rest.flatMap pieces) :=
        lists_printItems each
      exact ((((each item).append_right _).append later).append_left _).append_left _

theorem lists_printMembers_cons {part : String × Value} {rest : List (String × Value)}
    {first others : List String} (here : Lists (printMember depth part) first)
    (later : Lists (printMembers depth rest) others) :
    Lists (printMembers depth (part :: rest)) (first ++ others) := by
  rw [printMembers]
  exact (here.append_right _).append later

theorem lists_object_cons {part : String × Value} {rest : List (String × Value)}
    {first others : List String} (here : Lists (printMember (depth + 1) part) first)
    (later : Lists (printMembers (depth + 1) rest) others) :
    Lists (print depth (.object (part :: rest))) (first ++ others) := by
  rw [print]
  exact (((here.append_right _).append later).append_left _).append_left _

theorem lists_printMembers (members : List (String × Value)) :
    Lists (printMembers depth members) (members.map (printMember depth)) := by
  induction members with
  | nil => trivial
  | cons part rest ih => exact lists_printMembers_cons (Lists.self _) ih

theorem lists_object (members : List (String × Value)) :
    Lists (print depth (.object members)) (members.map (printMember (depth + 1))) := by
  cases members with
  | nil => trivial
  | cons part rest => exact lists_object_cons (Lists.self _) (lists_printMembers rest)

end Value

end Json

namespace CommandLine

open Text (Lists)

variable {depth : Nat}

namespace HashingReport

def pieces (report : HashingReport) : OutputFormat → List String
  | .text =>
      [s!"  algorithm: {report.hashAlgorithm}\n", s!"  log2 block size: {report.log2BlockSize}\n",
        s!"  salt: {report.salt}\n", s!"  root hash: {report.rootHash}\n"]
  | .json =>
      [Json.member "hash_algorithm" (toString report.hashAlgorithm),
        Json.member "log2_block_size" (toString report.log2BlockSize),
        Json.member "salt" (Json.quote report.salt),
        Json.member "root_hash" (Json.quote report.rootHash)]

theorem lists_toText (report : HashingReport) : Lists report.toText (report.pieces .text) := by
  have joined : report.toText = "hashing info:\n" ++ String.join (report.pieces .text) := by
    unfold toText pieces
    simp only [String.join_cons, String.join_nil, String.append_empty, String.append_assoc]
  rw [joined]
  exact (Lists.of_join _).append_right _

theorem lists_toJson (report : HashingReport) :
    Lists (report.toJson.print depth) (report.pieces .json) :=
  Json.Value.lists_object _

end HashingReport

namespace SignerReport

def pieces (report : SignerReport) : OutputFormat → List String
  | .text =>
      let id := Text.Numeral.markedHex 4 report.algorithmId.toNat
      let algorithm := report.algorithm.getD "unsupported"
      let subject := report.subject.getD "<undecodable>"
      [s!"  algorithm: {id} ({algorithm})\n", s!"  apk digest: {report.apkDigest}\n",
        s!"  certificate: {subject} ({report.certificateLength} bytes)\n",
        s!"  public key: {report.publicKeyLength} bytes\n",
        s!"  additional data: {report.additionalDataLength} bytes\n",
        s!"  signature: {report.signatureLength} bytes\n"]
  | .json =>
      [Json.member "signature_algorithm_id" (toString report.algorithmId),
        Json.member "signature_algorithm" (Json.optional report.algorithm),
        Json.member "apk_digest" (Json.quote report.apkDigest),
        Json.member "certificate_subject" (Json.optional report.subject),
        Json.member "certificate_len" (toString report.certificateLength),
        Json.member "public_key_len" (toString report.publicKeyLength),
        Json.member "additional_data_len" (toString report.additionalDataLength),
        Json.member "signature_len" (toString report.signatureLength)]

theorem lists_toText (report : SignerReport) : Lists report.toText (report.pieces .text) := by
  have joined : report.toText = "default signer:\n" ++ String.join (report.pieces .text) := by
    unfold toText pieces
    simp only [String.join_cons, String.join_nil, String.append_empty, String.append_assoc]
  rw [joined]
  exact (Lists.of_join _).append_right _

theorem print_optionalText (depth : Nat) (text : Option String) :
    (optionalText text).print depth = Json.optional text := by
  cases text with
  | none => rfl
  | some text => rfl

theorem lists_toJson (report : SignerReport) :
    Lists (report.toJson.print depth) (report.pieces .json) := by
  unfold pieces
  rw [← print_optionalText (depth + 1), ← print_optionalText (depth + 1)]
  exact Json.Value.lists_object _

end SignerReport

namespace BlockReport

def pieces (report : BlockReport) : OutputFormat → List String
  | .text => [s!"  {Text.Numeral.markedHex 8 report.blockId.toNat} ({report.length} bytes)\n"]
  | .json =>
      [Json.member "block_id" (toString report.blockId),
        Json.member "len" (toString report.length)]

theorem lists_toText (report : BlockReport) : Lists report.toText (report.pieces .text) :=
  Lists.self _

theorem lists_toJson (report : BlockReport) :
    Lists (report.toJson.print depth) (report.pieces .json) :=
  Json.Value.lists_object _

end BlockReport

namespace SignatureReport

def blockPieces : OutputFormat → List BlockReport → List String
  | .text, [] => ["signer blocks: none\n"]
  | .json, [] => [Json.member "blocks" "[]"]
  | format, block :: rest => (block :: rest).flatMap fun block => block.pieces format

def pieces (report : SignatureReport) (format : OutputFormat) : List String :=
  (match format with
    | .text => s!"version: {report.version}\n"
    | .json => Json.member "version" (toString report.version)) ::
      (report.hashing.pieces format ++ (report.defaultSigner.pieces format ++
        blockPieces format report.blocks))

theorem lists_toText (report : SignatureReport) : Lists report.toText (report.pieces .text) := by
  have ofBlocks : Lists
      (if report.blocks.isEmpty then
        "signer blocks: none\n"
      else
        "signer blocks:\n" ++ String.join (report.blocks.map BlockReport.toText))
      (blockPieces .text report.blocks) := by
    cases report.blocks with
    | nil => exact Lists.self _
    | cons block rest => exact (Lists.join BlockReport.lists_toText).append_right _
  rw [toText, String.append_assoc, String.append_assoc]
  exact (Lists.self _).append (report.hashing.lists_toText.append
    (report.defaultSigner.lists_toText.append ofBlocks))

theorem lists_toJson (report : SignatureReport) :
    Lists (report.toJson.print depth) (report.pieces .json) := by
  have ofBlocks : Lists
      (Json.Value.printMember (depth + 1)
        ("blocks", .array (report.blocks.map BlockReport.toJson)))
      (blockPieces .json report.blocks) := by
    cases report.blocks with
    | nil => exact Lists.self _
    | cons block rest =>
        exact (Json.Value.lists_array BlockReport.lists_toJson).append_right _
  have last : Lists (Json.Value.printMembers (depth + 1) [(_, _)])
      (blockPieces .json report.blocks ++ []) :=
    Json.Value.lists_printMembers_cons ofBlocks (Json.Value.lists_printMembers [])
  rw [List.append_nil] at last
  have hashed : Lists (Json.Value.printMember (depth + 1) ("hashing_info", _))
      (report.hashing.pieces .json) := report.hashing.lists_toJson.append_right _
  have signed : Lists (Json.Value.printMember (depth + 1) ("default_signer", _))
      (report.defaultSigner.pieces .json) := report.defaultSigner.lists_toJson.append_right _
  have behind := Json.Value.lists_printMembers_cons hashed
    (Json.Value.lists_printMembers_cons signed last)
  exact Json.Value.lists_object_cons (Lists.self _) behind

end SignatureReport

/-- What is printed shows the whole report, every part of it where it belongs. -/
theorem InspectRequest.lists_render (request : InspectRequest) (report : SignatureReport) :
    Lists (request.render report) (report.pieces request.format) := by
  rw [render]
  cases request.format with
  | text => exact report.lists_toText
  | json => exact report.lists_toJson.append_left _

end CommandLine

end PackageSignature

import PackageSignature.CommandLine.Command
import PackageSignature.Text.Split
/-! Reading a command from the words of a line. A word that an option or a file is waiting
for is kept as it is and judged later: when the next known option or file comes, or at
the end of the line. So an unknown option is reported even behind a bad value. -/

namespace PackageSignature.CommandLine

inductive Slot where
  | file
  | signature
  | blockId
  | format
deriving DecidableEq, Repr

inductive Switch where
  | value (slot : Slot)
  | quiet
  | help
deriving DecidableEq, Repr

structure Switches where
  long : List (String × Switch)
  short : List (Char × Switch)

namespace Switches

def verify : Switches where
  long := [("signature", .value .signature), ("block-id", .value .blockId),
    ("format", .value .format), ("quiet", .quiet), ("help", .help)]
  short := [('q', .quiet), ('h', .help)]

def inspect : Switches where
  long := [("format", .value .format), ("help", .help)]
  short := [('h', .help)]

end Switches

structure Values where
  file : Option Path
  signature : Option Path
  blockId : Option UInt32
  format : Option OutputFormat
  quiet : Bool
deriving DecidableEq, Repr

namespace Values

def none : Values where
  file := .none
  signature := .none
  blockId := .none
  format := .none
  quiet := false

def has (values : Values) : Slot → Bool
  | .file => values.file.isSome
  | .signature => values.signature.isSome
  | .blockId => values.blockId.isSome
  | .format => values.format.isSome

def path (text : String) : Except UsageError Path :=
  if text = "" then .error .invalidValue else .ok { text }

/-- Puts a value into its place. That the place is free is checked before what the value
says. -/
def assign (values : Values) (slot : Slot) (text : String) : Except UsageError Values :=
  if values.has slot then
    .error .argumentConflict
  else
    match slot with
    | .file => (path text).map (fun file => { values with file := some file })
    | .signature => (path text).map (fun file => { values with signature := some file })
    | .blockId =>
        match BlockId.ofText text with
        | .ok blockId => .ok { values with blockId := some blockId }
        | .error _ => .error .valueValidation
    | .format =>
        match OutputFormat.ofName? text with
        | some format => .ok { values with format := some format }
        | .none => .error .invalidValue

end Values

structure Progress where
  values : Values
  /-- A place that has been named, and the word for it, if that has come already. -/
  pending : Option (Slot × Option String)
  fileSeen : Bool
deriving DecidableEq, Repr

namespace Progress

def start : Progress where
  values := Values.none
  pending := none
  fileSeen := false

def settle (progress : Progress) : Except UsageError Progress :=
  match progress.pending with
  | none => .ok progress
  | some (_, none) => .error .invalidValue
  | some (slot, some text) =>
      (progress.values.assign slot text).map (fun values => { progress with values, pending := none })

def takeFile (progress : Progress) (text : String) : Except UsageError Progress :=
  if progress.fileSeen then
    .error .unknownArgument
  else
    progress.settle.map (fun settled =>
      { settled with pending := some (.file, some text), fileSeen := true })

def takeWord (progress : Progress) (text : String) : Except UsageError Progress :=
  match progress.pending with
  | some (slot, none) => .ok { progress with pending := some (slot, some text) }
  | _ => progress.takeFile text

def takeSwitch (progress : Progress) (switch : Switch) : Except UsageError Progress := do
  let settled ← progress.settle
  match switch with
  | .value slot => return { settled with pending := some (slot, none) }
  | .quiet =>
      if settled.values.quiet then
        .error .argumentConflict
      else
        return { settled with values := { settled.values with quiet := true } }
  | .help => .error .displayHelp

def takeAttached (progress : Progress) (switch : Switch) (text : String) :
    Except UsageError Progress :=
  match switch with
  | .value slot => do
      let settled ← progress.settle
      let values ← settled.values.assign slot text
      return { settled with values }
  | _ => .error .tooManyValues

def takeLong (switches : Switches) (progress : Progress) (letters : List Char) :
    Except UsageError Progress :=
  let name := String.ofList (letters.takeWhile (· != '='))
  match switches.long.lookup name, letters.dropWhile (· != '=') with
  | none, _ => .error .unknownArgument
  | some switch, [] => progress.takeSwitch switch
  | some switch, _ :: value => progress.takeAttached switch (String.ofList value)

def takeShort (switches : Switches) (progress : Progress) (letters : List Char) :
    Except UsageError Progress :=
  letters.foldlM (fun progress letter =>
    match switches.short.lookup letter with
    | none => .error .unknownArgument
    | some switch => progress.takeSwitch switch) progress

def take (switches : Switches) (progress : Progress) (text : String) :
    Except UsageError Progress :=
  match text.toList with
  | '-' :: '-' :: letters => takeLong switches progress letters
  | ['-'] => progress.takeWord text
  | '-' :: letters => takeShort switches progress letters
  | _ => progress.takeWord text

def takeAll (switches : Switches) : Progress → List String → Except UsageError Progress
  | progress, [] => progress.settle
  | progress, text :: rest =>
      if text = "--" then
        (rest.foldlM takeFile progress).bind settle
      else
        (take switches progress text).bind (fun next => takeAll switches next rest)

end Progress

namespace Values

def toVerify (values : Values) : Except UsageError VerifyRequest :=
  match values.file with
  | .none => .error .missingRequiredArgument
  | some package =>
      .ok { package, signature := values.signature, blockId := values.blockId,
            format := values.format.getD .text, quiet := values.quiet }

def toInspect (values : Values) : Except UsageError InspectRequest :=
  match values.file with
  | .none => .error .missingRequiredArgument
  | some signature => .ok { signature, format := values.format.getD .text }

end Values

namespace Command

def names : List String := ["verify", "inspect", "help"]

def ofHelp : List String → UsageError
  | [] => .displayHelp
  | [name] => if names.contains name then .displayHelp else .invalidSubcommand
  | _ => .invalidSubcommand

def ofOption (text : List Char) : Option UsageError :=
  match text with
  | '-' :: '-' :: letters =>
      let name := String.ofList (letters.takeWhile (· != '='))
      some
        (if name = "help" ∨ name = "version" then
          if letters.contains '=' then .tooManyValues
          else if name = "help" then .displayHelp
          else .displayVersion
        else .unknownArgument)
  | '-' :: 'h' :: _ => some .displayHelp
  | '-' :: 'V' :: _ => some .displayVersion
  | '-' :: _ :: _ => some .unknownArgument
  | _ => none

def ofWords : List String → Except UsageError Command
  | [] => .error .missingSubcommand
  | "verify" :: rest => do
      let progress ← Progress.takeAll Switches.verify Progress.start rest
      return verify (← progress.values.toVerify)
  | "inspect" :: rest => do
      let progress ← Progress.takeAll Switches.inspect Progress.start rest
      return inspect (← progress.values.toInspect)
  | "help" :: rest => .error (ofHelp rest)
  | ["--"] => .error .missingSubcommand
  | "--" :: next :: _ =>
      .error (if names.contains next then .unknownArgument else .invalidSubcommand)
  | text :: _ =>
      .error ((ofOption text.toList).getD .invalidSubcommand)

end Command

end PackageSignature.CommandLine

import PackageSignature.CommandLine.BlockId
import PackageSignature.Path
/-! The commands, and what can be wrong with a line that asks for one. -/

namespace PackageSignature.CommandLine

inductive OutputFormat where
  | text
  | json
deriving DecidableEq, Repr

namespace OutputFormat

def ofName? (name : String) : Option OutputFormat :=
  if name = "text" then some text
  else if name = "json" then some json
  else none

end OutputFormat

structure VerifyRequest where
  package : Path
  signature : Option Path
  blockId : Option UInt32
  format : OutputFormat
  quiet : Bool
deriving DecidableEq, Repr

structure InspectRequest where
  signature : Path
  format : OutputFormat
deriving DecidableEq, Repr

inductive Command where
  | verify (request : VerifyRequest)
  | inspect (request : InspectRequest)
deriving DecidableEq, Repr

namespace Command

def isQuiet : Command → Bool
  | verify request => request.quiet
  | inspect _ => false

end Command

/-- Why a line asks for no command. Asking for help or for the version is among the
reasons. -/
inductive UsageError where
  | missingRequiredArgument
  | unknownArgument
  | invalidValue
  | valueValidation
  | argumentConflict
  | tooManyValues
  | invalidSubcommand
  | missingSubcommand
  | displayHelp
  | displayVersion
deriving DecidableEq, Repr

namespace UsageError

def name : UsageError → String
  | missingRequiredArgument => "MissingRequiredArgument"
  | unknownArgument => "UnknownArgument"
  | invalidValue => "InvalidValue"
  | valueValidation => "ValueValidation"
  | argumentConflict => "ArgumentConflict"
  | tooManyValues => "TooManyValues"
  | invalidSubcommand => "InvalidSubcommand"
  | missingSubcommand => "DisplayHelpOnMissingArgumentOrSubcommand"
  | displayHelp => "DisplayHelp"
  | displayVersion => "DisplayVersion"

def exitCode : UsageError → Nat
  | displayHelp | displayVersion => 0
  | _ => 2

end UsageError

end PackageSignature.CommandLine

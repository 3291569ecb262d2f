import PackageSignature.Bytes
import PackageSignature.Record.Envelope
import PackageSignature.Text.Blank
import PackageSignature.Text.Numeral
/-! What of the verification can be configured, and how variables of the environment
configure it. A variable that makes no sense counts as one that is not set. -/

namespace PackageSignature

structure Config where
  /-- The bytes that both nested records of an envelope may take up together. -/
  maxSignatureSize : Nat
  sidecarExtension : String
deriving DecidableEq, Repr

structure Environment where
  bindings : List (String × Bytes)
deriving DecidableEq, Repr

namespace Environment

def text? (environment : Environment) (name : String) : Option String :=
  (environment.bindings.lookup name).bind Bytes.toText?

end Environment

namespace Config

def defaultExtension : String := "idsig"

def standard : Config where
  maxSignatureSize := Envelope.defaultMaxSize
  sidecarExtension := defaultExtension

def largestSize : Nat := 18446744073709551615

def size? (text : String) : Option Nat :=
  (Text.Numeral.read 10 largestSize (Text.trimBlanks text.toList)).toOption

/-- The extension that a text says: without the blanks around it, and then without the
dots in front. Nothing left is no extension. -/
def extension? (text : String) : Option String :=
  match (Text.trimBlanks text.toList).dropWhile (· == '.') with
  | [] => none
  | left => some (String.ofList left)

def ofVariables (lookup : String → Option String) : Config where
  maxSignatureSize :=
    ((lookup "IDSIG_MAX_SIGNATURE_SIZE").bind size?).getD standard.maxSignatureSize
  sidecarExtension :=
    ((lookup "IDSIG_SIDECAR_EXTENSION").bind extension?).getD standard.sidecarExtension

def ofEnvironment (environment : Environment) : Config :=
  ofVariables environment.text?

def withMaxSignatureSize (config : Config) (size : Nat) : Config :=
  { config with maxSignatureSize := size }

def withSidecarExtension (config : Config) (extension : String) : Config :=
  { config with sidecarExtension := extension }

end Config

end PackageSignature

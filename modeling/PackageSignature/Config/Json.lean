import PackageSignature.Config
import PackageSignature.Json.Raw
/-! Reading a configuration from JSON. An object gives the values under their names, and
other names are passed over; a list gives them in order. What is not given is as it is
where nothing is configured; what is given must be of the right type, and once only. -/

namespace PackageSignature.Config

open Json

structure Given where
  size : Option Nat
  extension : Option String

namespace Given

def nothing : Given where
  size := none
  extension := none

def toConfig (given : Given) : Config where
  maxSignatureSize := given.size.getD standard.maxSignatureSize
  sidecarExtension := given.extension.getD standard.sidecarExtension

end Given

def sizeOf? : Raw → Option Nat
  | .number letters =>
      if letters.all Raw.isDigit then (Text.Numeral.read 10 largestSize letters).toOption else none
  | _ => none

def extensionOf? : Raw → Option String
  | .text letters => (Raw.unescape? letters).map String.ofList
  | _ => none

def takeMember (given : Given) (member : List Char × Raw) : Option Given := do
  let name := String.ofList (← Raw.unescape? member.1)
  if name = "max_signature_size" then
    guard given.size.isNone
    return { given with size := some (← sizeOf? member.2) }
  else if name = "sidecar_extension" then
    guard given.extension.isNone
    return { given with extension := some (← extensionOf? member.2) }
  else
    return given

def ofRaw? : Raw → Option Config
  | .object members => (members.foldlM takeMember Given.nothing).map Given.toConfig
  | .array [] => some standard
  | .array [size] => do
      return Given.toConfig { size := some (← sizeOf? size), extension := none }
  | .array [size, extension] => do
      return Given.toConfig
        { size := some (← sizeOf? size), extension := some (← extensionOf? extension) }
  | _ => none

def ofJson? (text : String) : Option Config :=
  (Raw.ofText? text.toList).bind ofRaw?

end PackageSignature.Config

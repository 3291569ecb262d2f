import PackageSignature.Record.HashingInfo
import PackageSignature.Record.SignerList
/-! The outermost record of a detached signature. Its two nested records stay encoded
and share one budget of bytes. A sidecar file carries the hash tree behind the
envelope, so bytes after it are ignored. -/

namespace PackageSignature

structure Envelope where
  version : UInt32
  hashingInfo : Bytes
  signingInfos : Bytes
deriving DecidableEq, Repr

inductive EnvelopeError where
  | unsupportedVersion (version : UInt32)
  | decode (error : DecodeError)
deriving DecidableEq, Repr

namespace Envelope

def supportedVersions : List UInt32 := [2]

def defaultMaxSize : Nat := 8096

def isSupported (envelope : Envelope) : Bool :=
  supportedVersions.contains envelope.version

/-- Reads the nested records of an envelope whose version is already known. What
the first of them uses is no longer there for the second. -/
def readNested (version : UInt32) (maxSize : Nat) : Reader Envelope := do
  let hashingInfo ← Reader.bytesUpTo maxSize .hashingInfo
  let signingInfos ← Reader.bytesUpTo (maxSize - hashingInfo.length) .signingInfos
  return { version, hashingInfo, signingInfos }

/-- The envelope at the head of a buffer. The version is judged as soon as it is
read, so nothing behind an unsupported one is looked at. -/
def decode (buffer : Bytes) (maxSize : Nat) : Except EnvelopeError Envelope :=
  match Reader.runFrom (Reader.u32 .version) (Cursor.start buffer) with
  | (.error error, _) => .error (.decode error)
  | (.ok version, after) =>
      if supportedVersions.contains version then
        match (Reader.runFrom (readNested version maxSize) after).1 with
        | .error error => .error (.decode error)
        | .ok envelope => .ok envelope
      else
        .error (.unsupportedVersion version)

def decodeHashingInfo (envelope : Envelope) : Except DecodeError HashingInfo :=
  HashingInfo.decode envelope.hashingInfo

def decodeSigners (envelope : Envelope) : Except DecodeError SignerList :=
  SignerList.decode envelope.signingInfos

def toBytes (envelope : Envelope) : Bytes :=
  Encoding.u32 envelope.version ++ Encoding.prefixed envelope.hashingInfo ++
    Encoding.prefixed envelope.signingInfos

end Envelope

end PackageSignature

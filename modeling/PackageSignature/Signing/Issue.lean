import PackageSignature.Certificate
import PackageSignature.Signing.NameText
/-! Certificates that a signer issues to itself. Nobody checks the signature of such a
certificate, so it is left blank. -/

namespace PackageSignature.Signing

def twoDigits (n : Nat) : Bytes :=
  [UInt8.ofNat (0x30 + n / 10 % 10), UInt8.ofNat (0x30 + n % 10)]

/-- The encoding of a moment, in the short form up to the year 2049. -/
def encodeTime (time : Certificate.Time) : Bytes :=
  let behindYear :=
    [time.month, time.day, time.hour, time.minute, time.second].flatMap twoDigits ++ [0x5a]
  if time.year < 2050 then
    Der.encode Der.Tag.utcTime (twoDigits (time.year % 100) ++ behindYear)
  else
    Der.encode Der.Tag.generalizedTime
      (twoDigits (time.year / 100) ++ twoDigits (time.year % 100) ++ behindYear)

structure Validity where
  notBefore : Certificate.Time
  notAfter : Certificate.Time
deriving DecidableEq, Repr

def serial : Bytes := [0x01, 0x5e]

def claimedAlgorithm : AlgorithmId where
  id := Der.ObjectId.ofArcs [1, 2, 840, 10045, 4, 3, 2]
  parameters := none

def defaultSubject : String := "CN=idsig test signer"

def issue (subjectKey : Bytes) (subject : Name) (validity : Validity) : Bytes :=
  let signed := Der.encodeSequence [
    Der.encode (Der.Tag.explicit 0) (Der.encodeNat 2),
    Der.encode Der.Tag.integer serial,
    claimedAlgorithm.toBytes,
    subject.toBytes,
    Der.encodeSequence [encodeTime validity.notBefore, encodeTime validity.notAfter],
    subject.toBytes,
    subjectKey]
  Der.encodeSequence [signed, claimedAlgorithm.toBytes, Der.encodeBitString (Bytes.zeros 16)]

def issueFor? (subjectKey : Bytes) (subject : String) (validity : Validity) : Option Bytes :=
  (NameText.ofText? subject).map (fun name => issue subjectKey name validity)

end PackageSignature.Signing

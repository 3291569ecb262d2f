import PackageSignature.Certificate.Name
import PackageSignature.Certificate.Time
import PackageSignature.SubjectKey
import PackageSignature.Digest
/-! Certificates, together with the very bytes that they were decoded from: what is
compared and what is hashed is that encoding. Of the fields, only those are kept that
are reported or checked against the signer record; the others have to be in order. -/

namespace PackageSignature

structure Certificate where
  encoded : Bytes
  serial : Bytes
  issuer : Name
  subject : Name
  subjectKey : Bytes
deriving DecidableEq, Repr

namespace Certificate

def maxSerialLength : Nat := 21

def readVersion : Der.Reader Nat := do
  let version ← Der.readNat
  guard (version ≤ 2)
  return version

def readSerial : Der.Reader Bytes := do
  let content ← Der.readInteger
  guard (content.length ≤ maxSerialLength)
  return content

def readValidity : Der.Reader (Time × Time) :=
  Der.Reader.sequence do
    let notBefore ← Time.read
    let notAfter ← Time.read
    return (notBefore, notAfter)

def readSubjectKey : Der.Reader Bytes := do
  let element ← Der.Reader.element
  let _ ← (SubjectKey.decode? element.toBytes : Option SubjectKey)
  return element.toBytes

def readImplicitBits : Der.Reader Der.BitString := do
  Der.BitString.ofContent? (← Der.Reader.rest)

def readExtension : Der.Reader Unit :=
  Der.Reader.sequence do
    let _ ← Der.ObjectId.read
    if (← Der.Reader.peek?) == some Der.Tag.boolean then
      let _ ← Der.readBoolean
    let _ ← Der.Reader.content Der.Tag.octetString

def readExtensions : Der.Reader Unit := do
  let _ ← Der.Reader.sequence (Der.Reader.many readExtension)

def readSigned (encoded : Bytes) : Der.Reader Certificate :=
  Der.Reader.sequence do
    let _ ← Der.Reader.optional (Der.Tag.explicit 0) readVersion
    let serial ← readSerial
    let _ ← AlgorithmId.read
    let issuer ← Name.read
    let _ ← readValidity
    let subject ← Name.read
    let subjectKey ← readSubjectKey
    let _ ← Der.Reader.optional (Der.Tag.implicit 1) readImplicitBits
    let _ ← Der.Reader.optional (Der.Tag.implicit 2) readImplicitBits
    let _ ← Der.Reader.optional (Der.Tag.explicit 3) readExtensions
    return { encoded, serial, issuer, subject, subjectKey }

def decode? (encoded : Bytes) : Option Certificate :=
  Der.Reader.complete (Der.Reader.sequence do
    let certificate ← readSigned encoded
    let _ ← AlgorithmId.read
    let _ ← Der.BitString.read
    return certificate) encoded

def subjectText (certificate : Certificate) : String :=
  certificate.subject.text

def issuerText (certificate : Certificate) : String :=
  certificate.issuer.text

def serialText (certificate : Certificate) : String :=
  certificate.serial.toHex

def fingerprint (certificate : Certificate) : String :=
  (Digest.hash .sha256 certificate.encoded).toHex

def summary (certificate : Certificate) : String :=
  s!"VerbatimCertificate(subject={certificate.subjectText}, len={certificate.encoded.length})"

def same (first second : Certificate) : Bool :=
  first.encoded == second.encoded

end Certificate

end PackageSignature

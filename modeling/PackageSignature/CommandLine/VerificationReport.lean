import PackageSignature.Json.Value
import PackageSignature.Verification
/-! The report of a successful verification. -/

namespace PackageSignature.CommandLine

structure CertificateReport where
  subject : String
  issuer : String
  serial : String
  sha256 : String
deriving DecidableEq, Repr

namespace CertificateReport

def ofCertificate (certificate : Certificate) : CertificateReport where
  subject := certificate.subjectText
  issuer := certificate.issuerText
  serial := certificate.serialText
  sha256 := certificate.fingerprint

def toText (index : Nat) (report : CertificateReport) : String :=
  s!"certificate[{index}]:\n" ++
    s!"  subject: {report.subject}\n" ++
    s!"  issuer:  {report.issuer}\n" ++
    s!"  serial:  {report.serial}\n" ++
    s!"  sha256:  {report.sha256}\n"

def toJson (report : CertificateReport) : Json.Value :=
  .object [("subject", .text report.subject), ("issuer", .text report.issuer),
    ("serial", .text report.serial), ("sha256", .text report.sha256)]

end CertificateReport

structure VerificationReport where
  package : String
  signer : String
  certificates : List CertificateReport
  apkDigest : String
  contentDigests : List (UInt32 × String)
deriving DecidableEq, Repr

namespace VerificationReport

def signerText : SignerChoice → String
  | .default => "default"
  | .block blockId => Text.Numeral.markedHex 8 blockId.toNat

def ofVerified (package : Path) (choice : SignerChoice) (verified : VerifiedSigner) :
    VerificationReport where
  package := package.text
  signer := signerText choice
  certificates := verified.certificates.map CertificateReport.ofCertificate
  apkDigest := verified.apkDigest.toHex
  contentDigests := verified.contentDigests.map (fun (digest, hash) => (digest.id, hash.toHex))

def toText (report : VerificationReport) : String :=
  s!"verified: {report.package} (signer: {report.signer})\n" ++
    String.join (report.certificates.mapIdx CertificateReport.toText) ++
    s!"apk digest: {report.apkDigest}\n" ++
    String.join (report.contentDigests.map (fun (id, digest) =>
      s!"content digest [{id}]: {digest}\n"))

def toJson (report : VerificationReport) : Json.Value :=
  .object [
    ("package", .text report.package),
    ("signer", .text report.signer),
    ("certificates", .array (report.certificates.map CertificateReport.toJson)),
    ("apk_digest", .text report.apkDigest),
    ("content_digests", .object (report.contentDigests.map (fun (id, digest) =>
      (toString id, .text digest))))]

end VerificationReport

end PackageSignature.CommandLine

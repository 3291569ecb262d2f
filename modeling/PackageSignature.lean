import PackageSignature.Config.Json
import PackageSignature.Main
import PackageSignature.Proofs.CommandLine.BlockId
import PackageSignature.Proofs.CommandLine.DefaultSigner
import PackageSignature.Proofs.CommandLine.SignatureFile
import PackageSignature.Proofs.Config.Extension
import PackageSignature.Proofs.Record.Run
import PackageSignature.Proofs.Signing.Acceptance
import PackageSignature.Proofs.Verification.Acceptance
import PackageSignature.Proofs.Verification.Binding
import PackageSignature.Proofs.Verification.Budget
import PackageSignature.Proofs.Verification.Ends
import PackageSignature.Proofs.Verification.FailureOrder
import PackageSignature.Proofs.Verification.KeyFamily
import PackageSignature.Proofs.Verification.Message
import PackageSignature.Proofs.Verifier.Kinds
import PackageSignature.Proofs.Verifier.Log
import PackageSignature.Proofs.Verifier.Session
import PackageSignature.Signing.EnvelopeDraft
import PackageSignature.Source.Snapshot
import PackageSignature.Proofs.CommandLine.Rendering

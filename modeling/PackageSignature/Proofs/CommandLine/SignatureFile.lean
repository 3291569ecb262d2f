import PackageSignature.Proofs.CommandLine.ExitCode

/-! Where the signature of a package is read from. A file that is named and the file beside the
package are two sources, and a verification sees nothing of a source but its answers about the
package. So a named file does as well as the file beside the package wherever reading the one
comes to the same as reading the other, be it that both are missing. -/

namespace PackageSignature

theorem Verifier.verify_congr {primitives : Primitives} {config : Config}
    {source other : PackageSource} {path : Path} {choice : SignerChoice}
    (fetched : source.fetch path = other.fetch path)
    (sized : source.fileSize path = other.fileSize path) :
    verify { primitives, source, config } path choice =
      verify { primitives, source := other, config } path choice := by
  simp only [verify, readEnvelope, fetch, fileSize, fetched, sized]

namespace FileSystem

/-- Two attempts to read come to the same: the same bytes, no file for either, or the same
fault. -/
inductive SameReading : Except SourceFault Bytes → Except SourceFault Bytes → Prop
  | content (bytes : Bytes) : SameReading (.ok bytes) (.ok bytes)
  | missing {fault other : SourceFault} (nothing : fault.missing = true)
      (neither : other.missing = true) : SameReading (.error fault) (.error other)
  | refused (fault : SourceFault) : SameReading (.error fault) (.error fault)

theorem readIfPresent_of_same {files : FileSystem} {path other : Path}
    (same : SameReading (files.read path) (files.read other)) :
    files.readIfPresent path = files.readIfPresent other := by
  rw [readIfPresent, readIfPresent]
  revert same
  generalize files.read path = answer
  generalize files.read other = otherAnswer
  intro same
  cases same with
  | content bytes => rfl
  | missing nothing neither => simp only [nothing, neither, if_true]
  | refused fault => rfl

end FileSystem

namespace CommandLine.VerifyRequest

/-- A file with the signature does as well as the one beside the package where reading it comes to
the same. -/
theorem signature_file_stands_for_sidecar (request : VerifyRequest) (signature : Path)
    (primitives : Primitives) (environment : Environment) (files : FileSystem)
    (same : FileSystem.SameReading (files.read signature)
      (files.read (request.package.addExtension
        (Config.ofEnvironment environment).sidecarExtension))) :
    { request with signature := some signature }.run primitives environment files =
      { request with signature := none }.run primitives environment files := by
  have verdicts (choice : SignerChoice) :
      Verifier.verify
          { primitives, source := files.single signature,
            config := Config.ofEnvironment environment } request.package choice =
        Verifier.verify
          { primitives,
            source := files.sidecars (Config.ofEnvironment environment).sidecarExtension,
            config := Config.ofEnvironment environment } request.package choice :=
    Verifier.verify_congr (FileSystem.readIfPresent_of_same same) rfl
  simp only [run, report, source, choice, render, verdicts]

def signedDirectory : FileSystem where
  size _ := .ok 7
  read path :=
    if path = ⟨"a.sig"⟩ ∨ path = ⟨"a.apk.idsig"⟩ then .ok Verification.sampleBytes
    else .error noFile

theorem signature_file_stands_for_sidecar_two_packages :
    FileSystem.SameReading (signedDirectory.read ⟨"a.sig"⟩)
        (signedDirectory.read (Path.addExtension ⟨"a.apk"⟩ "idsig")) ∧
      (sampleRequest (some ⟨"a.sig"⟩) none false).run Verification.samplePrimitives ⟨[]⟩
          signedDirectory =
        (sampleRequest none none false).run Verification.samplePrimitives ⟨[]⟩ signedDirectory ∧
      FileSystem.SameReading (signedDirectory.read ⟨"b.sig"⟩)
        (signedDirectory.read (Path.addExtension ⟨"b.apk"⟩ "idsig")) ∧
      { sampleRequest (some ⟨"b.sig"⟩) (some 5) true with package := ⟨"b.apk"⟩ }.run
          Verification.samplePrimitives ⟨[]⟩ signedDirectory =
        { sampleRequest none (some 5) true with package := ⟨"b.apk"⟩ }.run
          Verification.samplePrimitives ⟨[]⟩ signedDirectory := by
  have content : FileSystem.SameReading (signedDirectory.read ⟨"a.sig"⟩)
      (signedDirectory.read (Path.addExtension ⟨"a.apk"⟩ "idsig")) := .content _
  have missing : FileSystem.SameReading (signedDirectory.read ⟨"b.sig"⟩)
      (signedDirectory.read (Path.addExtension ⟨"b.apk"⟩ "idsig")) :=
    @FileSystem.SameReading.missing noFile noFile rfl rfl
  exact ⟨content,
    signature_file_stands_for_sidecar (sampleRequest none none false) _ _ ⟨[]⟩ _ content,
    missing,
    signature_file_stands_for_sidecar
      { sampleRequest none (some 5) true with package := ⟨"b.apk"⟩ } _ _ ⟨[]⟩ _ missing⟩

end CommandLine.VerifyRequest

end PackageSignature

import PackageSignature.Error
/-! Where signatures and the sizes of packages come from: any source with two answers, a
store that is filled by hand, or files beside the packages. -/

namespace PackageSignature

structure PackageSource where
  fetch : Path → Except SourceFault (Option Bytes)
  fileSize : Path → Except SourceFault UInt64

structure StoredSignature where
  bytes : Bytes
  fileSize : UInt64
deriving DecidableEq, Repr

/-- Signatures under the paths of their packages, the last one entered in front. -/
structure SignatureStore where
  entries : List (Path × StoredSignature)
deriving DecidableEq, Repr

namespace SignatureStore

def empty : SignatureStore where
  entries := []

def insert (store : SignatureStore) (path : Path) (stored : StoredSignature) : SignatureStore where
  entries := (path, stored) :: store.entries

def find? (store : SignatureStore) (path : Path) : Option StoredSignature :=
  (store.entries.find? (fun entry => entry.1.same path)).map Prod.snd

def notRegistered : SourceFault where
  missing := true
  text := "package not registered"

def source (store : SignatureStore) : PackageSource where
  fetch path := .ok ((store.find? path).map StoredSignature.bytes)
  fileSize path :=
    match store.find? path with
    | some stored => .ok stored.fileSize
    | none => .error notRegistered

theorem find?_insert (store : SignatureStore) (path : Path) (stored : StoredSignature)
    (asked : Path) :
    (store.insert path stored).find? asked =
      if path.same asked then some stored else store.find? asked := by
  by_cases same : path.same asked = true <;> simp [find?, insert, same]

end SignatureStore

structure FileSystem where
  /-- The size of a file, or of a directory. -/
  size : Path → Except SourceFault UInt64
  read : Path → Except SourceFault Bytes

namespace FileSystem

def readIfPresent (files : FileSystem) (path : Path) : Except SourceFault (Option Bytes) :=
  match files.read path with
  | .ok bytes => .ok (some bytes)
  | .error fault => if fault.missing then .ok none else .error fault

def sidecars (files : FileSystem) (extension : String) : PackageSource where
  fetch path := files.readIfPresent (path.addExtension extension)
  fileSize := files.size

def single (files : FileSystem) (signature : Path) : PackageSource where
  fetch _ := files.readIfPresent signature
  fileSize := files.size

end FileSystem

end PackageSignature

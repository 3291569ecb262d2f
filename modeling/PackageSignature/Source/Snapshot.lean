import PackageSignature.Source
/-! A directory as it is at one moment: the names of its files with what they hold, and
the names of the directories in it. Paths are resolved name by name from there; what
lies outside is not known and counts as missing. -/

namespace PackageSignature

inductive PathFault where
  | missing
  | notDirectory
  | isDirectory
  | nameTooLong
  | badCharacter
deriving DecidableEq, Repr

namespace PathFault

def toSourceFault (fault : PathFault) : SourceFault where
  missing := fault == .missing
  text :=
    match fault with
    | missing => "No such file or directory (os error 2)"
    | notDirectory => "Not a directory (os error 20)"
    | isDirectory => "Is a directory (os error 21)"
    | nameTooLong => "File name too long (os error 36)"
    | badCharacter => "file name contained an unexpected NUL byte"

end PathFault

inductive FileContent where
  | given (bytes : Bytes)
  | zeros (count : Nat)
deriving DecidableEq, Repr

namespace FileContent

def length : FileContent → Nat
  | given bytes => bytes.length
  | zeros count => count

def toBytes : FileContent → Bytes
  | given bytes => bytes
  | zeros count => Bytes.zeros count

theorem length_toBytes (content : FileContent) : content.toBytes.length = content.length := by
  cases content with
  | given bytes => rfl
  | zeros count => simp [toBytes, length, Bytes.zeros]

end FileContent

/-- A directory at one moment. Names within it are lists, from the outermost. -/
structure Snapshot where
  directories : List (List String)
  files : List (List String × FileContent)
deriving DecidableEq, Repr

namespace Snapshot

inductive Place where
  | outside
  | directory (names : List String)
  | file (content : FileContent)
deriving DecidableEq, Repr

def frontParts : List String → List (List String)
  | [] => [[]]
  | name :: rest => [] :: (frontParts rest).map (name :: ·)

def ofNames (directories : List String) (files : List (String × FileContent)) :
    Snapshot :=
  let routes := directories.map (fun name => (Path.mk name).names)
  let entries := files.map (fun (name, content) => ((Path.mk name).names, content))
  let parents := (routes ++ entries.map (fun entry => entry.1.dropLast)).flatMap frontParts
  { directories := parents, files := entries }

def maxNameLength : Nat := 255

def maxPathLength : Nat := 4095

def step (snapshot : Snapshot) (name : String) : Place → Except PathFault Place
  | .file _ => .error .notDirectory
  | .outside => if name = ".." then .ok .outside else .error .missing
  | .directory names =>
      if name = ".." then
        .ok (if names.isEmpty then .outside else .directory names.dropLast)
      else if maxNameLength < name.utf8ByteSize then
        .error .nameTooLong
      else
        let inner := names ++ [name]
        match snapshot.files.lookup inner with
        | some content => .ok (.file content)
        | none =>
            if snapshot.directories.contains inner then .ok (.directory inner) else .error .missing

def resolve (snapshot : Snapshot) (path : Path) : Except PathFault Place := do
  if path.text.toList.any (·.toNat == 0) then
    .error .badCharacter
  else if path.text = "" then
    .error .missing
  else if maxPathLength < path.text.utf8ByteSize then
    .error .nameTooLong
  else
    let start := if path.route.absolute then Place.outside else .directory []
    let place ← path.names.foldlM (fun place name => snapshot.step name place) start
    match place with
    | .file _ => if path.endsInDirectory then .error .notDirectory else .ok place
    | _ => .ok place

def directorySize : UInt64 := 4096

def fileSystem (snapshot : Snapshot) : FileSystem where
  size path :=
    match snapshot.resolve path with
    | .ok (.file content) => .ok (UInt64.ofNat content.length)
    | .ok _ => .ok directorySize
    | .error fault => .error fault.toSourceFault
  read path :=
    match snapshot.resolve path with
    | .ok (.file content) => .ok content.toBytes
    | .ok _ => .error PathFault.isDirectory.toSourceFault
    | .error fault => .error fault.toSourceFault

end Snapshot

end PackageSignature

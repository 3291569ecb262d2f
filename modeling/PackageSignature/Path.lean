import PackageSignature.Text.Split
/-! Paths of files. Messages show the text of a path as it was given; two texts name the
same entry if they agree in what the separators between names leave. -/

namespace PackageSignature

structure Path where
  text : String
deriving DecidableEq, Repr

structure Path.Route where
  absolute : Bool
  fromHere : Bool
  names : List String
deriving DecidableEq, Repr

namespace Path

def pieces (path : Path) : List String :=
  (Text.split '/' path.text.toList).map String.ofList

/-- The names in a path: repeated separators and single dots leave none. -/
def names (path : Path) : List String :=
  path.pieces.filter (fun piece => piece != "" && piece != ".")

/-- What a path says. A dot counts only as the first piece. -/
def route (path : Path) : Route where
  absolute := path.text.startsWith "/"
  fromHere := path.pieces.head? == some "."
  names := path.names

def same (first second : Path) : Bool :=
  first.route == second.route

/-- Whether the path ends in a separator, or in a dot behind one, and so can only name
a directory. -/
def endsInDirectory (path : Path) : Bool :=
  match path.pieces.reverse with
  | last :: _ :: _ => last == "" || last == "."
  | _ => false

def addExtension (path : Path) (extension : String) : Path where
  text := path.text ++ "." ++ extension

end Path

end PackageSignature

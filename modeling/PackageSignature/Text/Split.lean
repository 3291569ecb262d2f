/-! Cutting a text at a separator. -/

namespace PackageSignature.Text

/-- The pieces between the separators; there is one piece more than separators. -/
def split (separator : Char) : List Char → List (List Char)
  | [] => [[]]
  | c :: rest =>
      if c = separator then
        [] :: split separator rest
      else
        match split separator rest with
        | [] => [[c]]
        | piece :: pieces => (c :: piece) :: pieces

end PackageSignature.Text

/-!
# Splitting text

A text is split at every occurrence of a character. There is always one piece more than there are
separators.
-/
namespace Dialogue.Text

/-- The pieces between the separators. -/
def split (separator : Char) : List Char → List (List Char)
  | [] => [[]]
  | c :: rest =>
    if c = separator then [] :: split separator rest
    else
      match split separator rest with
      | [] => [[c]]
      | piece :: later => (c :: piece) :: later

end Dialogue.Text

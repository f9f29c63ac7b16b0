/-!
A text between the places of one character.
-/
namespace CensusLink.Text

/-- The parts of a text between separators; the text itself when it has none. -/
def split (separator : Char) (s : String) : List String := (parts s.toList).map String.ofList
where
  parts : List Char → List (List Char)
    | [] => [[]]
    | c :: rest =>
      if c = separator then [] :: parts rest
      else
        match parts rest with
        | [] => [[c]]
        | part :: more => (c :: part) :: more

end CensusLink.Text

/-! # Pieces of a text

A text can be a list of smaller texts with a separator between them: the names in a path, the
directives of a filter. -/

namespace BiomeAtlas.Text

/-- The pieces of a text between separators. There is always one piece more than there are
separators. -/
def pieces (separator : Char) : List Char → List (List Char)
  | [] => [[]]
  | c :: rest =>
    if c == separator then [] :: pieces separator rest
    else match pieces separator rest with
      | [] => [[c]]
      | first :: others => (c :: first) :: others

end BiomeAtlas.Text

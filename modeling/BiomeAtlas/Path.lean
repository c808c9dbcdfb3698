import BiomeAtlas.Text.Pieces

/-! # Paths

A path is a text in which slashes separate names. The dot stands for the directory reached so far,
two dots for the one above it.

One place has many paths: repeated slashes, a slash at the end and dots behind other names change
nothing. `Path.Same` compares paths without these differences; it does not resolve two dots, because
what they lead to depends on the files that are there. -/

namespace BiomeAtlas

/-- The path of a file or a directory, as it is written. -/
structure Path where
  /-- The spelling. -/
  text : String
  deriving DecidableEq, Repr

namespace Path

/-- Whether the path starts at the root. -/
def isAbsolute (path : Path) : Bool :=
  path.text.toList.head? == some '/'

/-- Whether the path ends with a slash, and so can only lead to a directory. -/
def endsWithSlash (path : Path) : Bool :=
  path.text.toList.getLast? == some '/'

/-- The parts between slashes that are not empty. -/
def parts (path : Path) : List String :=
  ((Text.pieces '/' path.text.toList).filter fun part => !part.isEmpty).map String.ofList

/-- The parts that tell paths apart: all but dots behind another part, or behind the root. -/
def names (path : Path) : List String :=
  match path.parts with
  | "." :: later => (if path.isAbsolute then [] else ["."]) ++ later.filter (· != ".")
  | parts => parts.filter (· != ".")

/-- Whether two paths differ at most in slashes and dots that change nothing. -/
def Same (path other : Path) : Prop :=
  path.isAbsolute = other.isAbsolute ∧ path.names = other.names

instance (path other : Path) : Decidable (path.Same other) :=
  inferInstanceAs (Decidable (_ ∧ _))

/-- The path with given names. -/
def ofNames (absolute : Bool) (names : List String) : Path :=
  ⟨(if absolute then "/" else "") ++ String.intercalate "/" names⟩

/-- The path without its last name; nothing if there is no name. -/
def parent? (path : Path) : Option Path :=
  if path.names.isEmpty then none else some (ofNames path.isAbsolute path.names.dropLast)

/-- A path that goes on from another one. One that starts at the root stays as it is. -/
def join (path later : Path) : Path :=
  if later.isAbsolute then later
  else if path.text.isEmpty || path.endsWithSlash then ⟨path.text ++ later.text⟩
  else ⟨path.text ++ "/" ++ later.text⟩

end Path

end BiomeAtlas

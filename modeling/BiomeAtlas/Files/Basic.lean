import BiomeAtlas.Path

/-! # Files

Settings, images and logs are kept in files. What is done with files is written once, for every
monad that has them: this module lists the operations, and the reasons why they fail. -/

namespace BiomeAtlas

/-- Why an operation on files fails. -/
inductive FileError where
  /-- A part of the path is missing. -/
  | notFound
  /-- There is a file where a directory should be made. -/
  | alreadyExists
  /-- The path goes on behind a file. -/
  | notADirectory
  /-- There is a directory where a file is needed. -/
  | isADirectory
  /-- A part of the path, or the whole path, is too long. -/
  | nameTooLong
  /-- The path holds the character zero. -/
  | zeroCharacter
  /-- The bytes of the file are not the encoding of a text. -/
  | notText
  /-- Another reason, in the words of the system. -/
  | other (reason : String)
  deriving DecidableEq, Repr

namespace FileError

/-- The wording of a reason. -/
def message : FileError → String
  | notFound => "No such file or directory (os error 2)"
  | alreadyExists => "File exists (os error 17)"
  | notADirectory => "Not a directory (os error 20)"
  | isADirectory => "Is a directory (os error 21)"
  | nameTooLong => "File name too long (os error 36)"
  | zeroCharacter => "file name contained an unexpected NUL byte"
  | notText => "stream did not contain valid UTF-8"
  | other reason => reason

end FileError

/-- What can be done with files. -/
class Files (m : Type → Type) where
  /-- Whether there is a file or a directory. -/
  isPresent : Path → m Bool
  /-- The bytes of a file. -/
  read : Path → m (Except FileError ByteArray)
  /-- Replaces the bytes of a file, which is made if need be. -/
  write : Path → ByteArray → m (Except FileError Unit)
  /-- Makes a directory, and those above it, unless they are there. -/
  makeDirectories : Path → m (Except FileError Unit)

namespace Files

variable {m : Type → Type} [Monad m] [Files m]

/-- The text of a file. -/
def readText (path : Path) : m (Except FileError String) := do
  match ← read path with
  | .error cause => return .error cause
  | .ok bytes =>
    match String.fromUTF8? bytes with
    | some text => return .ok text
    | none => return .error .notText

end Files

end BiomeAtlas

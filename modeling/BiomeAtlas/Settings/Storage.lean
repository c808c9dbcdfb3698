import BiomeAtlas.Settings.Notation

/-! # Keeping settings

Settings are kept in one file of a directory of their own. Loading them makes the file, with the
defaults, if none is found. The missing part of the directory is made after the file has been looked
for, so the path may lead to a file then that it did not lead to before. -/

namespace BiomeAtlas

namespace Settings

variable {m : Type → Type} [Monad m] [Files m]

/-- The file in a directory of settings. -/
def file (directory : Path) : Path :=
  directory.join ⟨"config.ron"⟩

/-- The directory of settings when none is given: a part of the user's directory of settings, which
may be named and otherwise lies in the home directory. -/
def defaultDirectory (configHome? home? : Option Path) : Path :=
  match configHome?.filter Path.isAbsolute, home? with
  | some configHome, _ => configHome.join ⟨"nebula-biomes"⟩
  | none, some home => (home.join ⟨".config"⟩).join ⟨"nebula-biomes"⟩
  | none, none => ⟨"."⟩

/-- The settings in a file. -/
def readFile (path : Path) : m (Except SettingsError Settings) := do
  match ← Files.readText path with
  | .error cause => return .error (.unreadable cause)
  | .ok text =>
    match parse? text with
    | some settings => return .ok settings
    | none => return .error .malformed

/-- Writes settings to the file in a directory, which is made if need be. -/
def save (settings : Settings) (directory : Path) : m (Except SettingsError Unit) := do
  match ← Files.makeDirectories directory with
  | .error cause => return .error (.unwritable cause)
  | .ok () => return (← Files.write (file directory) settings.render.toUTF8).mapError .unwritable

/-- The settings in a directory. If no file is found, it is written and holds the defaults. -/
def loadOrCreate (directory : Path) : m (Except SettingsError Settings) := do
  if ← Files.isPresent (file directory) then
    readFile (file directory)
  else
    return (← save {} directory).map fun () => {}

/-- The settings in a directory, if they are not the same as these. -/
def reload (settings : Settings) (directory : Path) :
    m (Except SettingsError (Option Settings)) := do
  return (← readFile (file directory)).map fun loaded =>
    if settings.Same loaded then none else some loaded

end Settings

end BiomeAtlas

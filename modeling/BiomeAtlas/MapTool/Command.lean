import BiomeAtlas.Arguments
import BiomeAtlas.Log.Record
import BiomeAtlas.MapTool.Basic
import BiomeAtlas.Settings.Storage

/-! # The command

The command reads its arguments, loads the settings and draws the map. Settings that cannot be
loaded are replaced by the defaults. Errors in drawing go to the log, unless the filter is against
it or the log cannot be made. -/

namespace BiomeAtlas

/-- How the command ends. -/
structure Ending where
  /-- Zero for a map, one for no map, two for arguments that make no sense. -/
  exitCode : UInt32
  /-- What is told besides. -/
  notices : List String := []
  deriving DecidableEq, Repr

namespace MapTool

variable {m : Type → Type} [Monad m] [Files m]

/-- The log file in a directory of settings, emptied; nothing if it cannot be made. -/
def openLog (directory : Path) : m (Option Path) := do
  let logs := directory.join ⟨"logs"⟩
  match ← Files.makeDirectories logs with
  | .error _ => return none
  | .ok () =>
    let file := logs.join ⟨Log.fileName⟩
    match ← Files.write file .empty with
    | .error _ => return none
    | .ok () => return some file

/-- Draws the map for arguments that make sense. -/
def runWith (arguments : Arguments) (defaultDirectory : Path) : m Ending := do
  let directory := arguments.config?.getD defaultDirectory
  let (stored, notices) := match ← Settings.loadOrCreate directory with
    | .ok settings => (settings, [])
    | .error cause => ({}, [s!"Failed to load config: {cause.message}, using defaults"])
  let settings := stored.override arguments
  let log? ← openLog directory
  match ← draw settings with
  | .ok summary =>
    return {
      exitCode := 0
      notices := notices ++ [s!"wrote {summary.size.text} pixels to {settings.map.output.text}"] }
  | .error (.fault cause) =>
    return { exitCode := 101, notices := notices ++ [(MapError.fault cause).message] }
  | .error cause =>
    match log? with
    | some file =>
      if Log.recordsErrors (Log.filterDirectives settings) then
        let _ ← Files.write file (Log.errorRecord cause.message).toUTF8
    | none => pure ()
    return { exitCode := 1, notices := notices ++ [cause.message] }

/-- Runs the command. -/
def run (arguments : List String) (defaultDirectory : Path) : m Ending := do
  match Arguments.parse arguments with
  | .ok arguments => runWith arguments defaultDirectory
  | .error .helpRequested =>
    return { exitCode := 0, notices := [ArgumentError.helpRequested.message] }
  | .error cause => return { exitCode := 2, notices := [cause.message] }

end MapTool

end BiomeAtlas

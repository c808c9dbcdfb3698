import BiomeAtlas.MapTool.Command

/-! # The program

Runs the map command on the files of the system. -/

namespace BiomeAtlas

/-- The result of an operation of the system. -/
def attempt {α : Type} (operation : IO α) : IO (Except FileError α) := do
  try
    return .ok (← operation)
  catch cause =>
    return .error (.other (toString cause))

instance : Files IO where
  isPresent path := return (← attempt (IO.FS.realPath path.text)).isOk
  read path := attempt (IO.FS.readBinFile path.text)
  write path bytes := attempt (IO.FS.writeBinFile path.text bytes)
  makeDirectories path := attempt (IO.FS.createDirAll path.text)

/-- Runs the command, and answers its exit code. -/
def runProgram (arguments : List String) : IO UInt32 := do
  let configHome? := (← IO.getEnv "XDG_CONFIG_HOME").map Path.mk
  let home? := (← IO.getEnv "HOME").map Path.mk
  let ending ← MapTool.run arguments (Settings.defaultDirectory configHome? home?)
  for notice in ending.notices do
    IO.eprintln notice
  return ending.exitCode

end BiomeAtlas

def main (arguments : List String) : IO UInt32 :=
  BiomeAtlas.runProgram arguments

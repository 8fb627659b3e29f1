import AudioStream.Demo

/-!
# The command line

`audiostream capture [FILE]` and `audiostream playback [FILE]` run a demonstration with the
configuration in a file, and show each command with its reply as a line of JSON.  Without a file the
configuration of the user is taken.
-/

namespace AudioStream.CommandLine

def contentOf (path : String) : IO Config.FileContent := do
  try
    let bytes ← IO.FS.readBinFile path
    return .bytes bytes.toList
  catch
    | .noFileOrDirectory .. => return .missing
    | .inappropriateType .. => return .directory
    | e => return .unreadable (toString e)

/-- The path of the configuration: the one given, or that of the user. -/
def configPath (given : Option String) : IO (Option String) := do
  match given with
  | some path => return some path
  | none =>
    let home ← IO.getEnv "HOME"
    let configHome ← IO.getEnv "XDG_CONFIG_HOME"
    return Config.defaultPath ⟨home, configHome, none⟩

/-- Runs the demonstration of a direction, and gives the exit code. -/
def demonstrate (direction : Direction) (given : Option String) : IO UInt32 := do
  let config ← match ← configPath given with
    | some path => pure (Config.load (← contentOf path))
    | none => pure (.ok {})
  let report := Demo.run direction config (UInt32.ofNat (← IO.monoNanosNow))
  for exchange in report.shown do
    IO.println exchange.line
  match report.failure with
  | some failure =>
    IO.eprintln ("Error: " ++ failure.message)
    return 1
  | none => return 0

end AudioStream.CommandLine

def main (args : List String) : IO UInt32 :=
  match args with
  | "capture" :: rest => AudioStream.CommandLine.demonstrate .input rest.head?
  | "playback" :: rest => AudioStream.CommandLine.demonstrate .output rest.head?
  | _ => do
    IO.eprintln "usage: audiostream (capture|playback) [FILE]"
    return 2

import MeterUplink.CommandLine

/-! The program. Its logic is a function of the files that it reads, so this outer layer looks up
those files, calls the function, and prints what comes out. -/

open MeterUplink MeterUplink.CommandLine

/-- What a path leads to. -/
def readFile (path : String) : IO (Except FileError (List UInt8)) := do
  try
    let bytes ← IO.FS.readBinFile path
    pure (.ok bytes.toList)
  catch error =>
    match error with
    | .noFileOrDirectory .. => pure (.error .notFound)
    | .inappropriateType .. => pure (.error .isDirectory)
    | other => pure (.error (.other (toString other)))

/-- The files behind some paths; nothing else is found. -/
def filesAt (paths : List String) : IO Files := do
  let contents ← paths.mapM fun path => do pure (path, ← readFile path)
  pure ⟨fun path => (contents.lookup path).getD (.error .notFound)⟩

/-- The files that the program may want: settings first, then the log that they name. -/
def wantedFiles (environment : Environment) (arguments : List String) : IO Files := do
  match requestOf? environment arguments with
  | some (.start arguments) =>
    let paths := (arguments.settingsPath.map ([·])).getD Holder.settingsPaths
    let settings ← filesAt paths
    match (loadHolder settings arguments).outcome with
    | .ok holder => filesAt (paths ++ [holder.logFilePath])
    | .error _ => pure settings
  | _ => pure ⟨fun _ => .error .notFound⟩

/-- Serial devices cannot be driven from here. -/
def noDevice : PortOpening := fun _ => .error "No such file or directory"

def main (arguments : List String) : IO UInt32 := do
  let environment : Environment := {
    settingsPath := ← IO.getEnv "M2S_CONFIG"
    logFilter := ← IO.getEnv "RUST_LOG"
    logLevel := ← IO.getEnv "M2S_LOG_LEVEL" }
  let files ← wantedFiles environment arguments
  let effect := program files noDevice environment arguments
  IO.eprint effect.errors
  IO.print effect.output
  pure effect.status.toUInt32

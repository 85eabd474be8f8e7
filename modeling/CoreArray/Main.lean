import CoreArray.CommandLine.Session
set_option autoImplicit false

/-!
# The program (SPEC §10.11)

Reads the command line, the environment and the files that they name, holds the
session, and writes what it says.
-/

namespace CoreArray.Program

/-- The cause of a failed access to a file. -/
def faultOf (error : IO.Error) : FileFault :=
  match error with
  | .noFileOrDirectory _ _ _ => .notFound
  | .inappropriateType _ code details | .permissionDenied _ code details =>
      if code = 20 then .notDirectory
      else if code = 21 then .isDirectory
      else .other s!"{details} (os error {code})"
  | error => .other (toString error)

/-- Read a file as text. -/
def readText (path : String) : IO (Except FileFault String) := do
  try
    let bytes ← IO.FS.readBinFile path
    match String.fromUTF8? bytes with
    | some text => return .ok text
    | none => return .error .notText
  catch error => return .error (faultOf error)

/-- Read files and answer for them. -/
def readAll (paths : List String) : IO TextReader := do
  let contents ← paths.mapM fun path => do return (path, ← readText path)
  return fun path => (contents.lookup path).getD (.error .notFound)

/-- Create the file for the events, if there is one. -/
def createLog (path? : Option String) : IO (Except SetupFault Unit) := do
  match path? with
  | none => return .ok ()
  | some path =>
      try
        IO.FS.writeFile path ""
        return .ok ()
      catch error => return .error (.file path (faultOf error))

/-- The names of the variables that can give settings. -/
def variableNames : List String :=
  [ "ARRAY_SIZE", "TASK_DIR", "TASK_FILES", "ASSIGNED_TASKS", "LATENCY_FILE", "ROUTING_FILE"
  , "THRESHOLD", "CHANNEL_WIDTH", "DELIVERY", "CYCLES_PER_HOP", "DEADLOCK_CHECK_INTERVAL"
  , "MAX_CYCLES", "SEED" ].map (Environment.namePrefix ++ ·)

/-- The variables that are set, by their names in capitals. -/
def readVariables : IO Environment :=
  variableNames.filterMapM fun name => do
    return (← IO.getEnv name).map fun value => (name, value)

/-- Hold the session of some options. -/
def runWith (options : Options) : IO UInt32 := do
  let err ← IO.getStderr
  match options.trackerConfig.tracker with
  | .error fault =>
      err.putStrLn s!"Error: {fault.message}"
      return 1
  | .ok tracker =>
      let logPath? := options.trackerConfig.logPath?
      match ← createLog logPath? with
      | .error fault =>
          err.putStrLn s!"Error: {fault.message}"
          return 1
      | .ok () =>
          let env ← readVariables
          let confReader ← readAll options.confFile.toList
          let paths := match Session.configOf options confReader env with
            | .ok config => Session.pathsOf config
            | .error _ => []
          let reader ← readAll (options.confFile.toList ++ paths)
          let session := Session.hold options tracker reader env
          IO.print (session.consoleText logPath?.isNone)
          logPath?.forM fun path => IO.FS.writeFile path (logText session.events)
          session.errorLine?.forM err.putStrLn
          return if session.fault.isSome then 1 else 0

/-- The program for some words of a command line. -/
def run (words : List String) : IO UInt32 := do
  match Options.read words with
  | .misuse =>
      (← IO.getStderr).putStr Usage.text
      return 2
  | .help =>
      IO.print Usage.text
      return 0
  | .run options => runWith options

end CoreArray.Program

/-- The entry point of the program. -/
def main (words : List String) : IO UInt32 := CoreArray.Program.run words

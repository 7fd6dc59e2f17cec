import PolicyStore.CommandLine.Process

/-!
# The program

Takes what the process is given, runs, and leaves the output and the exit code. No database can be
reached from here, so a command whose arguments and settings are in order ends at the connection.
-/

namespace PolicyStore

def variableNames : List String := Parameter.environmental.filterMap Parameter.source?

def readEnvironment : IO Environment := do
  let values ← variableNames.filterMapM fun name => do
    return (← IO.getEnv name).map fun value => (name, value)
  return fun name => values.lookup name

/-- Why a file could not be read. The code of a failure to open a file is negative. -/
def fileFault : IO.Error → FileFault
  | .noFileOrDirectory .. => .missing
  | .inappropriateType _ code reason =>
    if code = 21 then .directory else if code = -20 ∨ code = 20 then .notDirectory
    else .other reason
  | error => .other (toString error)

def readFile (path : String) : BaseIO (Except FileFault String) := do
  match ← (IO.FS.readBinFile path).toBaseIO with
  | .error error => return .error (fileFault error)
  | .ok bytes => return (String.fromUTF8? bytes).elim (.error .notText) .ok

def readFiles (environment : Environment) (arguments : List String) : BaseIO Files := do
  match (Invocation.parse environment arguments).toOption.bind fun i => i.command.path? with
  | none => return fun _ => .error .missing
  | some path =>
    let content ← readFile path
    return fun other => if other = path then content else .error .missing

end PolicyStore

open PolicyStore in
def main (arguments : List String) : IO UInt32 := do
  let environment ← readEnvironment
  let files ← readFiles environment arguments
  let surroundings : Surroundings Unit :=
    { environment, files, connect := fun _ => .error (.connectFailed .unreachable), signal := none }
  match (surroundings.run arguments).1 with
  | none => return 1
  | some ending =>
    IO.print ending.output
    IO.eprint ending.complaint
    return ending.exitCode.toUInt32

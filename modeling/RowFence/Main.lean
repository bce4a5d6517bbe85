import RowFence.Server.App
import RowFence.Server.Arguments

/-! The command line: the configuration of a server is read and checked, and what is in force is
printed. -/

namespace RowFence

def readEnvironment : IO (List (String × String)) :=
  Setting.all.filterMapM fun s => return (← IO.getEnv s.environmentName).map (s.environmentName, ·)

def readFile (path : String) : IO (Except FileProblem String) := do
  try
    return .ok (← IO.FS.readFile path)
  catch
    | .noFileOrDirectory .. => return .error .missing
    | .permissionDenied .. => return .error .denied
    | .userError _ => return .error .notText
    | _ => return .error .directory

def readFiles (c : ServerConfig) : IO Files := do
  match c.isolationFile? with
  | none => return { isFile := fun _ => false, text := fun _ => .error .missing }
  | some path =>
    let text ← readFile path
    let isFile := match text with
      | .ok _ | .error .denied | .error .notText => true
      | .error _ => false
    return {
      isFile := fun other => other = path && isFile
      text := fun other => if other = path then text else .error .missing }

def start (c : ServerConfig) : IO UInt32 := do
  let files ← readFiles c
  match c.faults files, c.isolation files with
  | [], .ok isolation =>
    IO.println ("Configured for " ++ c.socketAddress)
    IO.println isolation.toJson.render
    return 0
  | faults, _ =>
    for fault in faults do
      IO.eprintln ("Configuration error: " ++ fault.message)
    return 1

end RowFence

def main (args : List String) : IO UInt32 := do
  let environment ← RowFence.readEnvironment
  match RowFence.ServerConfig.ofArguments (List.lookup · environment) args with
  | .ok c => RowFence.start c
  | .error .help =>
    for setting in RowFence.Setting.all do
      IO.println ("  " ++ setting.usage)
    return 0
  | .error e =>
    IO.eprintln ("error: " ++ e.message)
    return 2

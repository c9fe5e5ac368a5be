import InstrDecl.Command.Run

namespace InstrDecl.Main

/-- What stands at a place. -/
def look (location : Location) : IO (Option Entry) := do
  try
    let content ← IO.FS.readBinFile (String.ofList location.text)
    return some (.file content.toList)
  catch
    | .inappropriateType _ 21 _ => return some .directory
    | .permissionDenied _ 13 _ => return some { content := some [], refusals := [(.read, .permission)] }
    | _ => return none

/-- Adds what stands at the places that a path passes. -/
def observe (files : FileSystem) (path : Path) : IO FileSystem := do
  let mut files := files
  let mut here := files.start path.anchor
  for name in path.components do
    here := if name == ['.', '.'] then here.dropLast else here ++ [name]
    if (files.entryAt here).isNone then
      if let some entry ← look here then
        files := files.put here entry
  return files

/-- The files that a command line is about. -/
def snapshot (arguments : List Text) : IO FileSystem := do
  let current := Path.names (← IO.currentDir).toString.toList
  let files := (FileSystem.mk [] current).makeDirectories current
  match Command.readLine files arguments with
  | .ok (.run request) =>
    let files ← observe files (request.list.getD Settings.default.instructionList)
    match request.output with
    | some path => observe files path
    | none => return files
  | _ => return files

/-- The variables of the environment that matter. -/
def environment : IO Environment := do
  let mut found := []
  for name in [Settings.assemblerVariable, Settings.jobsVariable] do
    if let some value ← IO.getEnv (String.ofList name) then
      found := (name, value.toList) :: found
  return found

/-- No program can be started from here. -/
def noProcess : Process := fun invocation _ => .error ⟨.notFound, some invocation.executable⟩

/-- The standard output; how much of it is taken shows only when it is printed. -/
def stream : IO Stream := do
  let isTerminal ← (← IO.getStdout).isTty
  return { Stream.pipe with outlet := if isTerminal then .terminal else .pipe }

/-- Stores the files that a run has changed. -/
def store (before after : FileSystem) : IO Unit := do
  for (location, content) in FileSystem.changedFiles before after [] do
    IO.FS.writeBinFile (String.ofList (Location.text location)) ⟨content.toArray⟩

end InstrDecl.Main

/-- Runs the command line. -/
def main (arguments : List String) : IO UInt32 := do
  let arguments := arguments.map String.toList
  let files ← InstrDecl.Main.snapshot arguments
  let environment ← InstrDecl.Main.environment
  let stream ← InstrDecl.Main.stream
  match InstrDecl.Command.run environment InstrDecl.Main.noProcess.program stream arguments (.new files) with
  | .error abort =>
    IO.eprintln (String.ofList abort.message)
    return 1
  | .ok outcome =>
    InstrDecl.Main.store files outcome.workspace.files
    IO.print (String.ofList outcome.stdout)
    IO.eprint (String.ofList outcome.stderr)
    return outcome.exitCode.toUInt32

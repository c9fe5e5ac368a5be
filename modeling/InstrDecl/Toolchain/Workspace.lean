import InstrDecl.Encoding.Assembler
import InstrDecl.Storage.FileSystem
import InstrDecl.Toolchain.Program

namespace InstrDecl

/-- One start of the assembler: how it was called, where its scratch directory was, and what the
    source file held. -/
structure Launch extends Invocation where
  scratch : Location
  source : Text
  deriving DecidableEq, Repr

/-- The file system, how many scratch directories were made, and all starts of the assembler. -/
structure Workspace where
  files : FileSystem
  scratchCount : Nat
  launches : List Launch

namespace Workspace

/-- A workspace in which nothing was started yet. -/
def new (files : FileSystem) : Workspace :=
  { files, scratchCount := 0, launches := [] }

end Workspace

namespace Scratch

/-- Where scratch directories are made. -/
def root : Location := [("tmp" : Text)]

/-- The place of the scratch directory with the given number. -/
def directory (number : Nat) : Location :=
  root ++ ["jitgen_" ++ Text.ofNat number]

/-- The source file in a scratch directory. -/
def source (scratch : Location) : Location :=
  scratch ++ [sourceName]

/-- The output file in a scratch directory. -/
def output (scratch : Location) : Location :=
  scratch ++ [outputName]

/-- No entry of the file system is the directory or lies in it. -/
def isFree (files : FileSystem) (scratch : Location) : Bool :=
  !files.entries.any fun e => scratch.isPrefixOf e.1

/-- A number from `count` on whose directory is free. Of more numbers than there are entries one is
    always free. -/
def freeNumber (files : FileSystem) (count : Nat) : Nat :=
  (((List.range (files.entries.length + 1)).map (count + ·)).find?
    fun number => isFree files (directory number)).getD count

end Scratch

namespace Tool

/-- The call of the assembler in a scratch directory. -/
def invocation (tool : Tool) (scratch : Location) : Invocation :=
  { executable := tool.executable, directory := scratch.text }

/-- Makes the scratch directory. -/
def makeScratch (scratch : Location) (files : FileSystem) : FileSystem :=
  files.put scratch .directory

/-- Writes the source file. -/
def writeSource (tool : Tool) (instruction : Text) (scratch : Location) (files : FileSystem) : FileSystem :=
  files.put (Scratch.source scratch) (.file (Utf8.encode (tool.sourceText instruction)))

/-- What can be read at a place. -/
def contentAt (files : FileSystem) (location : Location) : Except ErrorCode Bytes :=
  Entry.readIfThere (files.entryAt location)

/-- Runs the program: it reads the source file, and may put something where the output file is expected. -/
def runProgram (tool : Tool) (program : Program) (scratch : Location) (files : FileSystem) :
    Except RunFault Completion × FileSystem :=
  let source := ((contentAt files (Scratch.source scratch)).toOption).getD []
  let ending := program (tool.invocation scratch) source
  (ending, match leftOutput ending with
    | some entry => files.put (Scratch.output scratch) entry
    | none => files)

/-- The error that a start without completion is. Only a program that is not there is told from the
    errors of the system. -/
def runError (tool : Tool) (instruction : Text) : RunFault → EncodingError
  | .start e =>
    if e.code.number = ErrorCode.notFound.number then .assembly ⟨instruction, .notFound tool.executable⟩
    else .system e
  | .nulInCommand => .nulInCommand
  | .undecodable e _ => .undecodable e

/-- The answer, told from how the start ended and from what can be read where the output file is expected.
    That counts only after a success. -/
def readAnswer (tool : Tool) (invocation : Invocation) (instruction : Text) (ending : Except RunFault Completion)
    (content : Except ErrorCode Bytes) : Except EncodingError Assembly :=
  match ending with
  | .error fault => .error (tool.runError instruction fault)
  | .ok completion =>
    match if completion.status = 0 then content else .ok [] with
    | .error code => .error (.system ⟨code, some (invocation.file Scratch.outputName)⟩)
    | .ok output => .ok { instruction, status := completion.status, output, stderr := completion.stderr }

/-- Reads the answer. -/
def collect (tool : Tool) (instruction : Text) (scratch : Location)
    (outcome : Except RunFault Completion) (files : FileSystem) : Except EncodingError Assembly :=
  tool.readAnswer (tool.invocation scratch) instruction outcome (contentAt files (Scratch.output scratch))

/-- Removes the scratch directory with all that is in it. -/
def removeScratch (scratch : Location) (files : FileSystem) : FileSystem :=
  files.removeTree scratch

/-- Assembles one instruction in the given scratch directory, which is gone when the call ends: it is made,
    the source file is written into it, the program runs, the output file is read, and the directory is
    removed. -/
def assembleIn (tool : Tool) (program : Program) (instruction : Text) (scratch : Location) (files : FileSystem) :
    Except EncodingError Assembly × FileSystem :=
  let files := tool.writeSource instruction scratch (makeScratch scratch files)
  let (outcome, files) := tool.runProgram program scratch files
  (tool.collect instruction scratch outcome files, removeScratch scratch files)

/-- Assembles one instruction with an external program. -/
def assemble (tool : Tool) (program : Program) : Assembler Workspace := fun instruction workspace =>
  let number := Scratch.freeNumber workspace.files workspace.scratchCount
  let scratch := Scratch.directory number
  let invocation := tool.invocation scratch
  let (result, files) := tool.assembleIn program instruction scratch workspace.files
  ({ result, notices := [.launching invocation instruction] },
   { files
     scratchCount := number + 1
     launches := workspace.launches ++ [{ invocation with scratch, source := tool.sourceText instruction }] })

end Tool

end InstrDecl

import InstrDecl.Storage.FileSystem

namespace InstrDecl

namespace Scratch

/-- The name of the source file in a scratch directory. -/
def sourceName : Text := "instruction.asm"

/-- The name of the output file in a scratch directory. -/
def outputName : Text := "instruction.bin"

end Scratch

/-- A start of an assembler. -/
structure Invocation where
  executable : Text
  /-- The scratch directory, as it is written on the command line. -/
  directory : Text
  deriving DecidableEq, Repr

namespace Invocation

/-- A file in the scratch directory, as it is written on the command line. -/
def file (invocation : Invocation) (name : Text) : Text :=
  invocation.directory ++ "/" ++ name

/-- The command line: a flat binary is asked for, the output file is named before the source file. -/
def command (invocation : Invocation) : List Text :=
  [invocation.executable, "-f", "bin", "-o", invocation.file Scratch.outputName,
   invocation.file Scratch.sourceName]

end Invocation

/-- What a program that ran leaves behind: its exit status, its messages, and what it put where the output
    file is expected. -/
structure Completion where
  status : Int
  stderr : Text
  output : Option Entry
  deriving DecidableEq, Repr

/-- What can be read where the output file is expected. -/
def Completion.content (completion : Completion) : Except ErrorCode Bytes :=
  Entry.readIfThere completion.output

/-- Why a start of a program leads to no completion. -/
inductive RunFault
  /-- The system did not start it. -/
  | start (e : SystemError)
  /-- The name of the executable holds a character that it must not. -/
  | nulInCommand
  /-- It ran, and what it printed is no text. -/
  | undecodable (e : Utf8.DecodeError) (output : Option Entry)
  deriving DecidableEq, Repr

/-- What a start on a source file with the given content comes to, as the caller is told. -/
abbrev Program := Invocation → Bytes → Except RunFault Completion

/-- What a start left where the output file is expected, whatever the caller is told. -/
def leftOutput : Except RunFault Completion → Option Entry
  | .ok completion => completion.output
  | .error (.undecodable _ output) => output
  | .error _ => none

/-- How a process ends: its exit status, the bytes that it printed, and what it put where the output file
    is expected. -/
structure Termination where
  status : Int
  stdout : Bytes
  stderr : Bytes
  output : Option Entry
  deriving DecidableEq, Repr

/-- What the system makes of a start: it refuses, or the process runs to its end. -/
abbrev Process := Invocation → Bytes → Except SystemError Termination

/-- Every line end becomes a single newline. -/
def Text.unixLines : Text → Text
  | [] => []
  | '\r' :: '\n' :: rest => '\n' :: unixLines rest
  | '\r' :: rest => '\n' :: unixLines rest
  | c :: rest => c :: unixLines rest

/-- The process as it is seen by its caller, who takes everything it prints for text. -/
def Process.program (process : Process) : Program := fun invocation source =>
  if Path.holdsNul invocation.executable then .error .nulInCommand
  else match process invocation source with
    | .error e => .error (.start e)
    | .ok termination =>
      match Utf8.decode termination.stdout, Utf8.decode termination.stderr with
      | .error e, _ | .ok _, .error e => .error (.undecodable e termination.output)
      | .ok _, .ok stderr =>
        .ok { status := termination.status, stderr := Text.unixLines stderr, output := termination.output }

/-- Which assembler is used, and the line that selects the processor mode. -/
structure Tool where
  executable : Text
  directive : Text
  deriving DecidableEq, Repr

namespace Tool

/-- The assembler that is used unless another is named. -/
def default : Tool :=
  { executable := "nasm", directive := "bits 64" }

/-- The source file for one instruction: the mode on the first line, the instruction on the next. -/
def sourceText (tool : Tool) (instruction : Text) : Text :=
  tool.directive ++ "\n" ++ instruction ++ "\n"

end Tool

/-- A program that answers from a table, by the last line of its source file. -/
structure Script where
  answers : List (Text × Except ErrorCode Completion)
  fallback : Except ErrorCode Completion

namespace Script

/-- The answer to a line that no table mentions. -/
def refusal : Completion :=
  { status := 1
    stderr := "instruction.asm:2: error: invalid combination of opcode and operands"
    output := none }

/-- The last line of a source file. -/
def lastLine (source : Text) : Text :=
  let body := if source.getLast? = some '\n' then source.dropLast else source
  ((Text.splitWhere (· == '\n') body).getLast?).getD []

/-- The script as a program; a file that is no text counts as empty. -/
def program (script : Script) : Program := fun invocation source =>
  let line := match Utf8.decode source with
    | .ok text => lastLine text
    | .error _ => []
  match (script.answers.lookup line).getD script.fallback with
  | .ok completion => .ok completion
  | .error code => .error (.start ⟨code, some invocation.executable⟩)

end Script

end InstrDecl

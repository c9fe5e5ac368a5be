import InstrDecl.Compile.Basic
import InstrDecl.InstructionList
import InstrDecl.Stream

namespace InstrDecl

/-- A failure in the form in which it is shown. -/
inductive Diagnostic
  /-- A failure of the generator of no particular kind. -/
  | general (text : Text)
  | unreadableList (path reason : Text)
  | template (message source : Text) (hint : Option Text)
  | assembly (message instruction stderr : Text)
  | badParameter (text : Text)
  | permission (text : Text)
  /-- A failure that no input should bring about. -/
  | internal (text : Text)
  deriving DecidableEq, Repr

namespace Diagnostic

/-- The description of a failure. A hint that says nothing is left out, and so are messages of the
    assembler that hold only blanks. -/
def text : Diagnostic → Text
  | general text => text
  | unreadableList path reason => "cannot read instruction list '" ++ path ++ "': " ++ reason
  | template message source hint =>
    let hint := hint.getD []
    "error: " ++ message ++ "\ntemplate: " ++ source ++ (if hint.isEmpty then ([] : Text) else "\nhint: " ++ hint)
  | assembly message instruction stderr =>
    let said := Text.trim stderr
    "error: " ++ message ++ "\ninstruction: " ++ instruction ++ (if said.isEmpty then ([] : Text) else "\n" ++ said)
  | badParameter text => text
  | permission text => text
  | internal text => text

/-- The exit status: 1 for what is wrong with the input, 2 for what cannot be used, 3 for the rest. -/
def exitCode : Diagnostic → Nat
  | general _ | template .. | assembly .. => 1
  | unreadableList .. | badParameter _ | permission _ => 2
  | internal _ => 3

/-- The lines of a report on a failure of the given activity. Descriptions of templates and
    assemblies start with a word of their own. -/
def report (activity : Option Text) (diagnostic : Diagnostic) : List Text :=
  match diagnostic, activity.filter (!·.isEmpty) with
  | .template .., some name | .assembly .., some name => [name ++ " failed", diagnostic.text]
  | .template .., none | .assembly .., none => [diagnostic.text]
  | .general _, some name => [name ++ " error: " ++ diagnostic.text]
  | .internal _, _ => ["Internal error: " ++ diagnostic.text]
  | _, _ => ["Error: " ++ diagnostic.text]

/-- How the program came to the failure is of interest. -/
def isInternal : Diagnostic → Bool
  | internal _ => true
  | _ => false

/-- An error of the operating system; the numbers 1 and 13 stand for a missing permission. -/
def system (number : Int) (text : Text) : Diagnostic :=
  if number = 1 || number = 13 then .permission text else .internal text

/-- The path of a file or the name of a program holds a character that it must not. -/
def nulInPath : Diagnostic :=
  .internal "embedded null byte"

end Diagnostic

/-- A system error as it is shown. -/
def SystemError.diagnostic (e : SystemError) : Diagnostic :=
  .system e.code.number e.message

/-- A rejected template as it is shown. -/
def TemplateError.diagnostic (e : TemplateError) : Diagnostic :=
  .template e.fault.message e.template e.fault.hint

/-- A failed assembly as it is shown. -/
def AssemblyError.diagnostic (e : AssemblyError) : Diagnostic :=
  .assembly e.fault.message e.instruction e.fault.stderr

/-- A failed encoding as it is shown. -/
def EncodingError.diagnostic : EncodingError → Diagnostic
  | assembly e => e.diagnostic
  | sentinelRange => .internal "bytes must be in range(0, 256)"
  | system e => e.diagnostic
  | nulInCommand => .nulInPath
  | undecodable e => .internal e.message

/-- A failed compilation as it is shown. -/
def CompileError.diagnostic : CompileError → Diagnostic
  | template e => e.diagnostic
  | encoding e => e.diagnostic

/-- A text that could not be printed, as it is shown. -/
def PrintFault.diagnostic : PrintFault → Diagnostic
  | system code => SystemError.diagnostic ⟨code, none⟩
  | unencodable message => .internal message

/-- An unreadable list as it is shown. -/
def ListError.diagnostic : ListError → Diagnostic
  | unreadable path fault => .unreadableList path fault.reason
  | nulInPath => .nulInPath

end InstrDecl

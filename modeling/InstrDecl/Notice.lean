import InstrDecl.Operand
import InstrDecl.Text.Literal
import InstrDecl.Toolchain.Program

namespace InstrDecl

/-- How important a notice is. -/
inductive Level
  | debug | info | warning
  deriving DecidableEq, Repr

/-- The name of a level. -/
def Level.name : Level → Text
  | debug => "DEBUG"
  | info => "INFO"
  | warning => "WARNING"

/-- Something that happened during a run. -/
inductive Notice
  /-- A line of the instruction list holds only blanks; lines are counted from one. -/
  | blankTemplate (line : Nat)
  /-- An instruction list was read. -/
  | loaded (count : Nat) (path : Text)
  /-- All templates were read. -/
  | derived (count : Nat)
  /-- The assembler is started for an instruction. -/
  | launching (invocation : Invocation) (instruction : Text)
  /-- An instruction without operand was encoded. -/
  | encoded (instruction : Text) (encoding : Bytes)
  /-- The bytes at the end of an encoding are not the sentinel. -/
  | operandNotLast (template : Text) (tail : Bytes) (kind : OperandKind)
  /-- The operand was cut off an encoding. -/
  | extracted (instruction : Text) (encoding opcode : Bytes)
  /-- All instructions were compiled. -/
  | compiled (count : Nat)
  /-- The number of jobs in the environment cannot be read. -/
  | invalidJobs (value : Text)
  deriving DecidableEq, Repr

namespace Notice

/-- The importance of a notice. -/
def level : Notice → Level
  | blankTemplate .. | operandNotLast .. | invalidJobs .. => .warning
  | compiled .. => .info
  | loaded .. | derived .. | launching .. | encoded .. | extracted .. => .debug

/-- The wording of a notice. -/
def message : Notice → Text
  | blankTemplate line => "line " ++ Text.ofNat line ++ ": blank template"
  | loaded count path => "Loaded " ++ Text.ofNat count ++ " templates from " ++ path
  | derived count => "Derived " ++ Text.ofNat count ++ " templates"
  | launching invocation instruction =>
    "Running " ++ List.intercalate [' '] invocation.command ++ " for '" ++ instruction ++ "'"
  | encoded instruction encoding => instruction ++ ": " ++ Text.hexSpaced encoding
  | operandNotLast template tail kind =>
    "'" ++ template ++ "': trailing bytes " ++ Text.hexSpaced tail ++ " are not the " ++ kind.name ++
      " sentinel; the operand may not be the last field"
  | extracted instruction encoding opcode =>
    instruction ++ ": " ++ Text.hexSpaced encoding ++ " -> " ++ Text.hexSpaced opcode
  | compiled count => "Compiled " ++ Text.ofNat count ++ " instructions"
  | invalidJobs value => "ignoring invalid JITGEN_JOBS value " ++ Text.quoted value

/-- A notice with its level. -/
def labelled (notice : Notice) : Text :=
  notice.level.name ++ ": " ++ notice.message

end Notice

end InstrDecl

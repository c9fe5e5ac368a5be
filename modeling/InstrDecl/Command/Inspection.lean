import InstrDecl.Compile.Basic
import InstrDecl.Instruction

namespace InstrDecl.Command

namespace Inspection

/-- The width of the first column: that of the longest identifier. -/
def identifierWidth (compiled : List CompiledInstruction) : Nat :=
  if compiled.isEmpty then 10
  else (compiled.map (·.identifier.length)).foldl max 0

/-- The width of the operand column. -/
def operandWidth : Nat := 14

/-- The width of the branch column. -/
def branchWidth : Nat := 6

/-- A line of four columns; the last one is as wide as its text. -/
def row (width : Nat) (identifier operand branch bytes : Text) : Text :=
  Text.padRight width identifier ++ "  " ++ Text.padRight operandWidth operand ++ "  " ++
    Text.padRight branchWidth branch ++ "  " ++ bytes

/-- The row of an instruction. -/
def instructionRow (width : Nat) (i : CompiledInstruction) : Text :=
  let operand : Text := match i.operand with
    | some kind => kind.typeName
    | none => "-"
  row width i.identifier operand (if i.isBranch then "yes" else "no") (Declaration.byteArray i.opcode)

/-- The line that states the number of instructions. -/
def closing (count : Nat) : Text :=
  Text.ofNat count ++ " instructions"

/-- What is printed before the number of instructions: the header, the rule and the rows. -/
def lines (compiled : List CompiledInstruction) : List Text :=
  let width := identifierWidth compiled
  [row width "IDENTIFIER" "OPERAND" "BRANCH" "BYTES", List.replicate (width + 40) '-'] ++
    compiled.map (instructionRow width)

/-- The table, in the parts that are printed one after the other. The empty line is printed with the number
    of instructions. -/
def prints (compiled : List CompiledInstruction) : List Text :=
  (lines compiled ++ ['\n' :: closing compiled.length]).map (· ++ ['\n'])

end Inspection

end InstrDecl.Command

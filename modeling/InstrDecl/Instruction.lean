import InstrDecl.Template.Basic
import InstrDecl.Text.Literal
import InstrDecl.Text.Lowercase

namespace InstrDecl

/-- The plus sign of a memory operand is spelled out in a name. -/
def Text.spellPlus (text : Text) : Text :=
  text.flatMap fun c => if c = '+' then "_plus_" else [c]

/-- The part of an instruction's name that comes from a token; a label adds nothing. -/
def Lexeme.segment : Lexeme → Text
  | word text => Text.lower text
  | memory interior => "ptr_" ++ Text.spellPlus interior
  | placeholder .label => []
  | placeholder kind => kind.name

/-- The segments that tokens add to a name. -/
def segments (tokens : List Token) : List Text :=
  (tokens.map (·.lexeme.segment)).filter (!·.isEmpty)

/-- The name of an instruction: the segments of its tokens, joined by underscores. -/
def Template.identifier (template : Template) : Text :=
  List.intercalate ['_'] (segments template.tokens)

/-- A near jump is written with a `j` and one or two more lowercase letters. -/
def isNearJump : Text → Bool
  | ['j', a] => a.isLower
  | ['j', a, b] => a.isLower && b.isLower
  | _ => false

/-- The first piece of the line is a near jump. -/
def isBranch (source : Text) : Bool :=
  match Text.pieces source with
  | [] => false
  | piece :: _ => isNearJump piece

/-- What the declarations of an instruction say, its bytes apart. -/
structure Signature where
  identifier : Text
  operand : Option OperandKind
  isBranch : Bool
  deriving DecidableEq, Repr

/-- A template and the signature derived from it. -/
structure Instruction extends Signature where
  template : Template
  deriving DecidableEq, Repr

/-- The instruction that a line of an instruction list describes. -/
def Instruction.derive (source : Text) : Except TemplateError Instruction :=
  (Template.parse source).map fun template =>
    { template, identifier := template.identifier, operand := template.operand?, isBranch := isBranch source }

/-- The instructions of all lines, or the error of the first bad one. -/
def Instruction.deriveAll (sources : List Text) : Except TemplateError (List Instruction) :=
  sources.mapM Instruction.derive

namespace Declaration

/-- Bytes as an array literal. -/
def byteArray (bytes : Bytes) : Text :=
  "[" ++ List.intercalate (", " : Text) (bytes.map fun b => "0x" ++ Text.hexByte b) ++ "]"

/-- The encoder of an instruction. The operand of a branch is placed by the code that uses the
    declaration, so it has no type there. -/
def encoder (signature : Signature) (opcode : Bytes) : Text :=
  if signature.isBranch then
    "instr_branch!(" ++ signature.identifier ++ ", " ++ byteArray opcode ++ ");"
  else match signature.operand with
    | none => "instr!(" ++ signature.identifier ++ ", " ++ byteArray opcode ++ ");"
    | some kind =>
      "instr!(" ++ signature.identifier ++ ", " ++ kind.typeName ++ ", " ++ byteArray opcode ++ ");"

/-- The prototype of an instruction. -/
def prototype (signature : Signature) : Text :=
  match signature.operand with
  | none => "fn " ++ signature.identifier ++ "(&mut self);"
  | some kind =>
    "fn " ++ signature.identifier ++ "(&mut self, " ++ kind.parameter ++ ": " ++ kind.typeName ++ ");"

/-- One declaration on each line, every line indented and ended. -/
def block (indent : Text) (declarations : List Text) : Text :=
  declarations.flatMap fun declaration => indent ++ declaration ++ ['\n']

/-- The encoders of instructions, given with their opcode bytes. -/
def encoders (indent : Text) (instructions : List (Signature × Bytes)) : Text :=
  block indent (instructions.map fun i => encoder i.1 i.2)

/-- The prototypes of instructions. -/
def prototypes (indent : Text) (signatures : List Signature) : Text :=
  block indent (signatures.map prototype)

end Declaration

end InstrDecl

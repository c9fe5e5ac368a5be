import InstrDecl.Operand
import InstrDecl.Text.Character

namespace InstrDecl

/-- The cause for which a template is rejected. -/
inductive TemplateFault
  /-- A placeholder names no kind of operand. -/
  | unsupportedKind (kind : Text)
  /-- A memory operand has no closing bracket. -/
  | unclosedMemory (text : Text)
  /-- More than one placeholder; these are their texts in order. -/
  | severalPlaceholders (texts : List Text)
  deriving DecidableEq, Repr

/-- A rejected template and the cause. -/
structure TemplateError where
  template : Text
  fault : TemplateFault
  deriving DecidableEq, Repr

/-- The wording of an unsupported kind. -/
def unsupportedKindMessage (kind : Text) : Text :=
  "unsupported operand kind '" ++ kind ++ "'"

/-- The list of kinds to choose from; there is no hint without one. -/
def supportedKindsHint (supported : List Text) : Option Text :=
  if supported.isEmpty then none
  else some ("supported kinds: " ++ List.intercalate (", " : Text) supported)

namespace TemplateFault

/-- The wording of a cause. -/
def message : TemplateFault → Text
  | unsupportedKind kind => unsupportedKindMessage kind
  | unclosedMemory text => "missing ] in memory operand '" ++ text ++ "'"
  | severalPlaceholders texts =>
    "multiple placeholders (" ++ List.intercalate (", " : Text) texts ++ ")"

/-- What the writer of the template can do about it. -/
def hint : TemplateFault → Option Text
  | unsupportedKind _ => supportedKindsHint (OperandKind.all.map (·.name))
  | unclosedMemory _ => none
  | severalPlaceholders _ => some "a template may contain at most one placeholder"

end TemplateFault

/-- What a token says, without the commas after it. -/
inductive Lexeme
  /-- A mnemonic, register, number or other word. -/
  | word (text : Text)
  /-- A memory operand; `interior` stands between its brackets. -/
  | memory (interior : Text)
  /-- An operand that is left open. -/
  | placeholder (kind : OperandKind)
  deriving DecidableEq, Repr

/-- The lexeme as written. -/
def Lexeme.text : Lexeme → Text
  | word text => text
  | memory interior => '[' :: interior ++ [']']
  | placeholder kind => '$' :: kind.name

/-- A lexeme and the number of commas after it. -/
structure Token where
  lexeme : Lexeme
  commas : Nat
  deriving DecidableEq, Repr

/-- What stands between the first and the last character of a text. -/
def Text.interior (text : Text) : Text :=
  (text.drop 1).dropLast

namespace Token

/-- The token without its commas. -/
def text (token : Token) : Text :=
  token.lexeme.text

/-- The commas after the token. -/
def separator (token : Token) : Text :=
  List.replicate token.commas ','

/-- The token as written. -/
def raw (token : Token) : Text :=
  token.text ++ token.separator

/-- The kind of operand that the token leaves open, if it is a placeholder. -/
def kind? (token : Token) : Option OperandKind :=
  match token.lexeme with
  | .placeholder kind => some kind
  | _ => none

/-- The token with `substitute` in place of a placeholder; its commas stay. -/
def fill (substitute : Text) (token : Token) : Text :=
  match token.lexeme with
  | .placeholder _ => substitute ++ token.separator
  | _ => token.raw

end Token

/-- The lexeme that a text without commas at its end is: the first character decides. -/
def Lexeme.read (text : Text) : Except TemplateFault Lexeme :=
  match text with
  | '$' :: name =>
    match OperandKind.ofName? name with
    | some kind => .ok (.placeholder kind)
    | none => .error (.unsupportedKind name)
  | '[' :: rest =>
    if rest.getLast? = some ']' then .ok (.memory text.interior) else .error (.unclosedMemory text)
  | _ => .ok (.word text)

/-- The piece of a template without the commas at its end. -/
def Text.withoutCommas (piece : Text) : Text :=
  dropEndWhile (· == ',') piece

/-- The token that a piece of a template is. -/
def Token.read (raw : Text) : Except TemplateFault Token :=
  let text := raw.withoutCommas
  (Lexeme.read text).map fun lexeme => { lexeme, commas := raw.length - text.length }

/-- A template, which is a line of assembly with at most one operand left open, as written and with its tokens
    in order. -/
structure Template where
  source : Text
  tokens : List Token
  deriving DecidableEq, Repr

/-- A template was to be written out, and nothing was given for its placeholder. -/
structure MissingSubstitute where
  template : Text
  deriving DecidableEq, Repr

/-- The wording of a missing substitute. -/
def MissingSubstitute.message (e : MissingSubstitute) : Text :=
  "template '" ++ e.template ++ "' needs a placeholder substitute"

namespace Template

/-- Reads a template. The first piece that is no token decides the error; only when all are tokens
    are the placeholders counted. -/
def parse (source : Text) : Except TemplateError Template :=
  match (Text.pieces source).mapM Token.read with
  | .error fault => .error ⟨source, fault⟩
  | .ok tokens =>
    let placeholders := tokens.filter (·.kind?.isSome)
    if 1 < placeholders.length then
      .error ⟨source, .severalPlaceholders (placeholders.map (·.text))⟩
    else .ok ⟨source, tokens⟩

/-- The first placeholder. -/
def placeholder? (template : Template) : Option Token :=
  template.tokens.find? (·.kind?.isSome)

/-- The kind of operand that the template leaves open. -/
def operand? (template : Template) : Option OperandKind :=
  template.tokens.findSome? (·.kind?)

/-- The first token as written; a blank template has none. -/
def mnemonic (template : Template) : Text :=
  match template.tokens with
  | [] => []
  | token :: _ => token.raw

/-- The template on one line, with `substitute` in place of a placeholder. -/
def fill (template : Template) (substitute : Text) : Text :=
  List.intercalate [' '] (template.tokens.map (·.fill substitute))

/-- Writes the template out; only a template without placeholder needs no substitute. -/
def render (template : Template) (substitute : Option Text) : Except MissingSubstitute Text :=
  match template.operand?, substitute with
  | some _, none => .error ⟨template.source⟩
  | _, some text => .ok (template.fill text)
  | none, none => .ok (template.fill [])

end Template

end InstrDecl

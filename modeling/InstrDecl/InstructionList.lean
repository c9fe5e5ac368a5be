import InstrDecl.Notice
import InstrDecl.Storage.FileSystem
import InstrDecl.Text.Character

namespace InstrDecl

/-- Why an instruction list cannot be read. -/
inductive ReadFault
  | system (e : SystemError)
  | notUtf8 (e : Utf8.DecodeError)
  deriving DecidableEq, Repr

/-- The wording of a read fault. -/
def ReadFault.reason : ReadFault → Text
  | system e => e.message
  | notUtf8 e => e.message

/-- A list that could not be loaded. -/
inductive ListError
  | unreadable (path : Text) (fault : ReadFault)
  /-- The path is none that a file could have. -/
  | nulInPath
  deriving DecidableEq, Repr

namespace InstructionList

/-- A carriage return before the end of a line belongs to the line end. -/
def dropReturn (line : Text) : Text :=
  if line.getLast? = some '\r' then line.dropLast else line

/-- The lines of a text. A line end at the end of the text starts no further line. -/
def split (text : Text) : List Text :=
  let parts := Text.splitWhere (· == '\n') text
  let lines := if parts.getLast? = some [] then parts.dropLast else parts
  lines.map dropReturn

/-- The blank lines among those from number `line` on. -/
def blankNotices (line : Nat) : List Text → List Notice
  | [] => []
  | template :: rest =>
    if (Text.trim template).isEmpty then .blankTemplate line :: blankNotices (line + 1) rest
    else blankNotices (line + 1) rest

/-- The warnings about the lines of a list. -/
def warnings (templates : List Text) : List Notice :=
  blankNotices 1 templates

/-- The text of a list, decoded. -/
def readText (fs : FileSystem) (path : Path) : Except ListError Text :=
  if path.hasNul then .error .nulInPath
  else match fs.read path with
    | .error code => .error (.unreadable path.text (.system ⟨code, some path.text⟩))
    | .ok content =>
      match Utf8.decode content with
      | .error e => .error (.unreadable path.text (.notUtf8 e))
      | .ok text => .ok text

/-- The templates of a list, and what there is to say about them. A list that cannot be read is
    reported by its error alone. -/
def load (fs : FileSystem) (path : Path) : Except ListError (List Text) × List Notice :=
  match readText fs path with
  | .error e => (.error e, [])
  | .ok text =>
    let templates := split text
    (.ok templates, warnings templates ++ [.loaded templates.length path.text])

end InstructionList

end InstrDecl

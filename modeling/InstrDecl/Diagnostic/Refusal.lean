import InstrDecl.Diagnostic.Basic

namespace InstrDecl

/-- A value attached to a failure. -/
inductive Payload
  | text (value : Text)
  | integer (value : Int)
  | truth (value : Bool)
  | absent
  | list (items : List Payload)
  | record (fields : List (Text × Payload))
  deriving Inhabited

namespace Payload

mutual

/-- A value as it is written inside others: texts in quotes, lists in brackets, records in
    braces. -/
def form : Payload → Text
  | text value => Text.quoted value
  | integer value => Text.ofInt value
  | truth value => if value then "True" else "False"
  | absent => "None"
  | list items => "[" ++ forms items ++ "]"
  | record fields => "\x7b" ++ fieldForms fields ++ "\x7d"

/-- Values in a row. -/
def forms : List Payload → Text
  | [] => []
  | [item] => form item
  | item :: next :: rest => form item ++ ", " ++ forms (next :: rest)

/-- Fields in a row, each with its name in quotes. -/
def fieldForms : List (Text × Payload) → Text
  | [] => []
  | [(name, value)] => Text.quoted name ++ ": " ++ form value
  | (name, value) :: next :: rest => Text.quoted name ++ ": " ++ form value ++ ", " ++ fieldForms (next :: rest)

end

/-- A value on its own: a text is shown as it is. -/
def shown : Payload → Text
  | text value => value
  | value => form value

/-- The number that a value stands for; a truth value stands for one or zero. -/
def number? : Payload → Option Int
  | integer value => some value
  | truth value => some (if value then 1 else 0)
  | _ => none

/-- The text of all values of a failure: nothing for none, a single one on its own, several in
    parentheses. -/
def describe : List Payload → Text
  | [] => []
  | [value] => shown value
  | values => "(" ++ forms values ++ ")"

end Payload

/-- What the values of a refusal say: its number, its wording, and the files it is about. -/
structure Refusal where
  number : Payload
  reason : Payload
  /-- The file, and what it was to become. -/
  files : List Payload

namespace Refusal

/-- The files up to the first one that is absent. -/
def named : List Payload → List Payload
  | [] | .absent :: _ => []
  | file :: rest => file :: named rest

/-- Two to five values make a refusal. The third is a file and the fifth what that file was to
    become; the fourth is not shown. -/
def ofValues? : List Payload → Option Refusal
  | [number, reason] => some ⟨number, reason, []⟩
  | [number, reason, file] => some ⟨number, reason, named [file]⟩
  | [number, reason, file, _] => some ⟨number, reason, named [file]⟩
  | [number, reason, file, _, target] => some ⟨number, reason, named [file, target]⟩
  | _ => none

/-- The text of a refusal. -/
def text (refusal : Refusal) : Text :=
  SystemError.describe refusal.number.shown refusal.reason.shown (refusal.files.map Payload.form)

/-- The text of a refusal with the given values; too few or too many are only listed. -/
def describe (values : List Payload) : Text :=
  match ofValues? values with
  | some refusal => refusal.text
  | none => Payload.describe values

/-- The operation would have had to wait. -/
def wouldBlock (refusal : Refusal) : Bool :=
  match refusal.number.number? with
  | some n => n = 11 || n = 114 || n = 115
  | none => false

/-- How far an operation came that would have had to wait. It is told in the file's place, and no
    file is named then. -/
def progress? (refusal : Refusal) : Option Int :=
  if refusal.wouldBlock then refusal.files.head?.bind Payload.number? else none

end Refusal

/-- Why values cannot be those of a refusal. -/
inductive RefusalFault
  /-- The progress is no number of a machine word. -/
  | progressTooLarge
  deriving DecidableEq, Repr

/-- The wording of a fault. -/
def RefusalFault.message : RefusalFault → Text
  | progressTooLarge => "cannot fit 'int' into an index-sized integer"

/-- The number fits into a machine word of 64 bits with a sign. -/
def fitsWord (n : Int) : Bool :=
  Int64.minValue.toInt ≤ n && n ≤ Int64.maxValue.toInt

/-- A refusal as it is shown when its number alone tells of what kind it is. -/
def Diagnostic.ofRefusal (values : List Payload) : Except RefusalFault Diagnostic :=
  match Refusal.ofValues? values with
  | none => .ok (.internal (Payload.describe values))
  | some refusal =>
    let number := refusal.number.number?.getD 0
    match refusal.progress? with
    | none => .ok (.system number refusal.text)
    | some progress =>
      if fitsWord progress then .ok (.system number { refusal with files := [] }.text)
      else .error .progressTooLarge

end InstrDecl

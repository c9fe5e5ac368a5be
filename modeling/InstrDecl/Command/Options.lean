import InstrDecl.Text.Literal

namespace InstrDecl.Command

/-- The options that there are. -/
inductive Opt
  | output | assembler | jobs | verbose | version | help
  deriving DecidableEq, Repr

namespace Opt

/-- The long name with its dashes. -/
def long : Opt → Text
  | output => "--output"
  | assembler => "--nasm"
  | jobs => "--jobs"
  | verbose => "--verbose"
  | version => "--version"
  | help => "--help"

/-- The letter of the short name. -/
def short? : Opt → Option Char
  | output => some 'o'
  | jobs => some 'j'
  | verbose => some 'v'
  | version => some 'V'
  | assembler | help => none

/-- The option comes with a value. -/
def takesValue : Opt → Bool
  | output | assembler | jobs => true
  | verbose | version | help => false

/-- The option as it is called in messages. -/
def label (option : Opt) : Text :=
  let long := "'" ++ option.long ++ "'"
  match option.short? with
  | some letter => "'-" ++ [letter] ++ "' / " ++ long
  | none => long

end Opt

/-- What is wrong with a row of options. -/
inductive OptionFault
  | unknown (name : Text)
  | missingValue (name : Text)
  | unexpectedValue (name : Text)
  deriving DecidableEq, Repr

/-- Options given, in order, each with its value (empty for those that take none), and the other
    arguments. -/
structure Scan where
  given : List (Opt × Text)
  arguments : List Text
  deriving DecidableEq, Repr

namespace Scan

/-- Puts options before those already seen. -/
def give (given : List (Opt × Text)) (scan : Scan) : Scan :=
  { scan with given := given ++ scan.given }

/-- The option was given. -/
def has (scan : Scan) (option : Opt) : Bool :=
  scan.given.any (·.1 == option)

/-- The value of an option; the last one counts. -/
def value? (scan : Scan) (option : Opt) : Option Text :=
  (scan.given.reverse.find? (·.1 == option)).map (·.2)

end Scan

/-- The options in one argument, and the name of the last one if its value is still to come. -/
structure Word where
  given : List (Opt × Text)
  pending : Option (Opt × Text)

/-- Reads short names that are run together. What follows an option with a value is that value. -/
def readShort (options : List Opt) : Text → Except OptionFault Word
  | [] => .ok ⟨[], none⟩
  | letter :: rest =>
    match options.find? (·.short? == some letter) with
    | none => .error (.unknown ['-', letter])
    | some option =>
      if option.takesValue then
        if rest.isEmpty then .ok ⟨[], some (option, ['-', letter])⟩ else .ok ⟨[(option, rest)], none⟩
      else (readShort options rest).map fun word => { word with given := (option, []) :: word.given }

/-- Reads an argument that starts with a dash: a long name, with a value after an equals sign, or
    short names. -/
def readWord (options : List Opt) (argument : Text) : Except OptionFault Word :=
  let name := argument.takeWhile (· != '=')
  let attached := (argument.dropWhile (· != '=')).tail?
  match options.find? (·.long == name) with
  | some option =>
    match option.takesValue, attached with
    | true, some value => .ok ⟨[(option, value)], none⟩
    | true, none => .ok ⟨[], some (option, name)⟩
    | false, some _ => .error (.unexpectedValue name)
    | false, none => .ok ⟨[(option, [])], none⟩
  | none => if argument.take 2 == ['-', '-'] then .error (.unknown name) else readShort options (argument.drop 1)

/-- An argument that is more than a dash and starts with one holds options. -/
def isOptionWord (argument : Text) : Bool :=
  argument.head? == some '-' && 1 < argument.length

/-- Tells options from other arguments. Two dashes end the options; so does the first other argument
    unless options and arguments may be `mixed`. -/
def scan (options : List Opt) (mixed : Bool) : List Text → Except OptionFault Scan
  | [] => .ok ⟨[], []⟩
  | argument :: rest =>
    if argument == ['-', '-'] then .ok ⟨[], rest⟩
    else if isOptionWord argument then
      match readWord options argument with
      | .error fault => .error fault
      | .ok ⟨given, none⟩ => (scan options mixed rest).map (·.give given)
      | .ok ⟨given, some (option, name)⟩ =>
        match rest with
        | [] => .error (.missingValue name)
        | value :: rest => (scan options mixed rest).map (·.give (given ++ [(option, value)]))
    else if mixed then
      (scan options mixed rest).map fun s => { s with arguments := argument :: s.arguments }
    else .ok ⟨[], argument :: rest⟩

end InstrDecl.Command

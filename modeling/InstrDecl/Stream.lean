import InstrDecl.Storage.FileSystem

namespace InstrDecl.Text

/-- The character that starts a control sequence. After it come an opening bracket, any parameters, any
    intermediate characters and a final one. The three classes have no character in common, so a sequence
    can be read in one way only. -/
def escapeMark : Char := Char.ofNat 27

/-- A parameter of a control sequence: from the digit zero to the question mark. -/
def isControlParameter (c : Char) : Bool :=
  CodeRange.contains ⟨0x30, 0x3F⟩ c.toNat

/-- An intermediate character of a control sequence: from the space to the slash. -/
def isControlIntermediate (c : Char) : Bool :=
  CodeRange.contains ⟨0x20, 0x2F⟩ c.toNat

/-- A character that ends a control sequence: from the at sign to the tilde. -/
def isControlFinal (c : Char) : Bool :=
  CodeRange.contains ⟨0x40, 0x7E⟩ c.toNat

/-- The number of characters after the escape mark that belong to its control sequence, if one
    starts there. -/
def controlLength? : Text → Option Nat
  | '[' :: rest =>
    let parameters := rest.takeWhile isControlParameter
    let rest := rest.dropWhile isControlParameter
    let intermediates := rest.takeWhile isControlIntermediate
    match rest.dropWhile isControlIntermediate with
    | [] => none
    | c :: _ => if isControlFinal c then some (parameters.length + intermediates.length + 2) else none
  | _ => none

/-- The text after `skip` characters, without its control sequences. -/
def plainAfter : Nat → Text → Text
  | _, [] => []
  | skip + 1, _ :: rest => plainAfter skip rest
  | 0, c :: rest =>
    if c = escapeMark then
      match controlLength? rest with
      | some length => plainAfter length rest
      | none => c :: plainAfter 0 rest
    else c :: plainAfter 0 rest

/-- The text without its control sequences. -/
def plain (text : Text) : Text :=
  plainAfter 0 text

end InstrDecl.Text

namespace InstrDecl

/-- What is behind the standard output. -/
inductive Outlet
  /-- Nothing: what is printed is dropped. -/
  | closed
  /-- A file, or another program. -/
  | pipe
  | terminal
  deriving DecidableEq, Repr

/-- What is sent to an outlet of a text that is printed. Only a terminal is sent control sequences. -/
def Outlet.rendered : Outlet → Text → Text
  | closed, _ => []
  | pipe, text => Text.plain text
  | terminal, text => text

/-- Why a text cannot be printed. -/
inductive PrintFault
  | system (code : ErrorCode)
  /-- The outlet has no code for one of the characters; its words say which. -/
  | unencodable (message : Text)
  deriving DecidableEq, Repr

/-- An outlet that does not take a text: how many characters it took before, and the cause. -/
structure PrintFailure where
  taken : Nat
  fault : PrintFault
  deriving DecidableEq, Repr

/-- A standard output. What it refuses depends on what it took before, and on what is sent to it now. -/
structure Stream where
  outlet : Outlet
  refuse : Text → Text → Option PrintFailure

namespace Stream

/-- A pipe to a reader that takes everything. -/
def pipe : Stream :=
  { outlet := .pipe, refuse := fun _ _ => none }

/-- How the printing of a text fails after `before` was taken. What is dropped cannot be refused. -/
def failure? (stream : Stream) (before text : Text) : Option PrintFailure :=
  if stream.outlet = .closed then none else stream.refuse before (stream.outlet.rendered text)

/-- Prints a text after `before` was taken: what is taken of it, and why no more. -/
def print (stream : Stream) (before text : Text) : Text × Option PrintFault :=
  match stream.failure? before text with
  | none => (stream.outlet.rendered text, none)
  | some failure => ((stream.outlet.rendered text).take failure.taken, some failure.fault)

/-- Prints texts one after the other, up to the first that is not taken as a whole. -/
def printAll (stream : Stream) (before : Text) : List Text → Text × Option PrintFault
  | [] => (before, none)
  | text :: rest =>
    match stream.print before text with
    | (shown, some fault) => (before ++ shown, some fault)
    | (shown, none) => printAll stream (before ++ shown) rest

end Stream

end InstrDecl

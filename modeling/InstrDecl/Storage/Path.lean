import InstrDecl.Text.Basic

namespace InstrDecl

/-- Where a path starts. -/
inductive Anchor
  /-- In the current directory. -/
  | current
  /-- In the root directory. -/
  | root
  /-- In the root directory, written with two slashes. -/
  | doubleRoot
  deriving DecidableEq, Repr

/-- The slashes that an anchor is written with. -/
def Anchor.text : Anchor → Text
  | current => []
  | root => "/"
  | doubleRoot => "//"

/-- A path: where it starts, and the names to follow from there. -/
structure Path where
  anchor : Anchor
  components : List Text
  deriving DecidableEq, Repr

namespace Path

/-- The components of a path as written, empty ones left out. -/
def names (text : Text) : List Text :=
  (Text.splitWhere (· == '/') text).filter (!·.isEmpty)

/-- The anchor is told from the number of leading slashes; two are kept, more count as one. -/
def anchorOf (text : Text) : Anchor :=
  match (text.takeWhile (· == '/')).length with
  | 0 => .current
  | 2 => .doubleRoot
  | _ => .root

/-- The path that a text denotes. -/
def ofText (text : Text) : Path :=
  { anchor := anchorOf text, components := (names text).filter (· != ['.']) }

/-- The path in normal form; the current directory is written as a dot. -/
def text (path : Path) : Text :=
  let written := path.anchor.text ++ List.intercalate ['/'] path.components
  if written.isEmpty then ['.'] else written

/-- The text holds the character that no file name can hold. -/
def holdsNul (text : Text) : Bool :=
  text.contains (Char.ofNat 0)

/-- The path holds the character that no file name can hold. -/
def hasNul (path : Path) : Bool :=
  holdsNul path.text

end Path

end InstrDecl

import InstrDecl.Text.Character

namespace InstrDecl.Text

/-- The hexadecimal digits of a number, with leading zeros up to the given width. -/
def hexPadded (width n : Nat) : Text :=
  let digits := Nat.toDigits 16 n
  List.replicate (width - digits.length) '0' ++ digits

/-- An integer in hexadecimal, filled up with zeros to two characters; a minus sign counts as one. -/
def hexPair : Int → Text
  | .ofNat n => hexPadded 2 n
  | .negSucc n => '-' :: hexPadded 1 (n + 1)

/-- The two hexadecimal digits of a byte. -/
def hexByte (b : UInt8) : Text :=
  hexPadded 2 b.toNat

/-- Bytes as pairs of hexadecimal digits, one space between two pairs. -/
def hexSpaced (bytes : Bytes) : Text :=
  List.intercalate [' '] (bytes.map hexByte)

/-- The most digits that are read. -/
def maxDigits : Nat := 4300

/-- The blanks that may surround a number: all but the information separators. -/
def isNumberMargin (c : Char) : Bool :=
  isBlank c && !CodeRange.contains ⟨0x001c, 0x001f⟩ c.toNat

/-- The values of a non-empty row of digits in which single underscores may stand between two digits. -/
def digitRow? : Text → Option (List Nat)
  | [] => none
  | c :: rest =>
    match decimalDigit? c with
    | none => none
    | some digit =>
      match rest with
      | [] => some [digit]
      | '_' :: more => (digitRow? more).map (digit :: ·)
      | next :: more => (digitRow? (next :: more)).map (digit :: ·)

/-- The number that a row of digits denotes. -/
def digitsValue (digits : List Nat) : Nat :=
  digits.foldl (fun value digit => 10 * value + digit) 0

/-- The number that an unsigned row of digits denotes, if it is not too long. -/
def natural? (text : Text) : Option Nat :=
  match digitRow? text with
  | some digits => if digits.length ≤ maxDigits then some (digitsValue digits) else none
  | none => none

/-- The integer that a text denotes: an optional sign and decimal digits of any script, with single
    underscores between digits and blanks around the whole. -/
def integer? (text : Text) : Option Int :=
  match trimWhere isNumberMargin text with
  | '+' :: rest => (natural? rest).map Int.ofNat
  | '-' :: rest => (natural? rest).map fun n => -Int.ofNat n
  | rest => (natural? rest).map Int.ofNat

/-- The single quotation mark. -/
def singleQuote : Char := Char.ofNat 39

/-- The double quotation mark. -/
def doubleQuote : Char := Char.ofNat 34

/-- The escape mark. -/
def backslash : Char := Char.ofNat 92

/-- Single quotes are used unless only they occur in the text. -/
def quoteFor (text : Text) : Char :=
  if text.contains singleQuote && !text.contains doubleQuote then doubleQuote else singleQuote

/-- A character inside quotes: the quote itself and the escape mark are escaped, line ends and tabs
    are named, what cannot be printed is written by its code. -/
def escapeChar (quote c : Char) : Text :=
  if c = quote || c = backslash then [backslash, c]
  else if c = '\n' then [backslash, 'n']
  else if c = '\r' then [backslash, 'r']
  else if c = '\t' then [backslash, 't']
  else if isPrintable c then [c]
  else if c.toNat < 0x100 then backslash :: 'x' :: hexPadded 2 c.toNat
  else if c.toNat < 0x10000 then backslash :: 'u' :: hexPadded 4 c.toNat
  else backslash :: 'U' :: hexPadded 8 c.toNat

/-- The text in quotes. -/
def quoted (text : Text) : Text :=
  let quote := quoteFor text
  quote :: text.flatMap (escapeChar quote) ++ [quote]

end InstrDecl.Text

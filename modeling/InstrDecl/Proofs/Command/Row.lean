import InstrDecl.Command.Inspection
import InstrDecl.Proofs.Declaration.Reading

namespace InstrDecl

namespace Text

/-- What stands after the first word of a text and the spaces that follow the word. -/
def nextColumn (text : Text) : Text :=
  (text.dropWhile (· != ' ')).dropWhile (· == ' ')

/-- Padding only pads: a text that is wider than its column keeps its width. -/
theorem length_padRight (width : Nat) (text : Text) : (padRight width text).length = max width text.length := by
  rw [padRight, List.length_append, List.length_replicate]
  omega

/-- There is a space after the text in any case, since two of them separate the columns. -/
theorem padRight_append (width : Nat) (text rest : Text) :
    padRight width text ++ ("  " ++ rest) = text ++ ' ' :: (List.replicate (width - text.length + 1) ' ' ++ rest) := by
  have hgap : ("  " : Text) = List.replicate 2 ' ' := rfl
  rw [padRight, hgap, List.append_assoc, ← List.append_assoc (List.replicate _ ' '), List.replicate_append_replicate]
  rfl

section Word

variable {word : Text} (hword : word.Unbroken) (width : Nat)

include hword

/-- A word in a column is read back, however wide the column is. -/
theorem firstWord_padRight (rest : Text) : firstWord (padRight width word ++ ("  " ++ rest)) = word := by
  rw [padRight_append, firstWord_append hword]

/-- After a word in a column, the next column is found, if that does not begin with a space. -/
theorem nextColumn_padRight {rest : Text} (hrest : rest.head? ≠ some ' ') :
    nextColumn (padRight width word ++ ("  " ++ rest)) = rest := by
  have hspaces : ∀ c ∈ List.replicate (width - word.length + 1) ' ', (c == ' ') = true := by
    intro c hc
    rw [(List.mem_replicate.mp hc).2]
    rfl
  rw [padRight_append, nextColumn, List.dropWhile_append_of_pos hword.ne_space, List.dropWhile_cons_of_neg (by decide),
    List.dropWhile_cons_of_pos rfl, List.dropWhile_append_of_pos hspaces]
  cases rest with
  | nil => rfl
  | cons c rest => exact List.dropWhile_cons_of_neg fun hspace => hrest (congrArg some (eq_of_beq hspace))

end Word

theorem count_padRight {c : Char} (hc : c ≠ ' ') (width : Nat) (text : Text) :
    (padRight width text).count c = text.count c := by
  rw [padRight, List.count_append, List.count_replicate, if_neg (by simpa using hc.symm), Nat.add_zero]

end Text

namespace Command.Inspection

/-- What a line of the table says in its columns. -/
structure Columns where
  identifier : Text
  operand : Text
  branch : Text
  bytes : Text
  deriving DecidableEq, Repr

/-- Where the columns after the first one begin in a line. -/
structure Offsets where
  operand : Nat
  branch : Nat
  bytes : Nat
  deriving DecidableEq, Repr

/-- Where they begin after a first column of this width. -/
def Offsets.after (width : Nat) : Offsets :=
  { operand := width + 2
    branch := width + 2 + (operandWidth + 2)
    bytes := width + 2 + (operandWidth + 2) + (branchWidth + 2) }

/-- Reads a line of the table. The first three columns hold a word each. -/
def readRow (line : Text) : Columns :=
  let operands := Text.nextColumn line
  let branches := Text.nextColumn operands
  { identifier := Text.firstWord line
    operand := Text.firstWord operands
    branch := Text.firstWord branches
    bytes := Text.nextColumn branches }

/-- Finds the columns of a line. -/
def offsets (line : Text) : Offsets :=
  let operands := Text.nextColumn line
  let branches := Text.nextColumn operands
  { operand := line.length - operands.length
    branch := line.length - branches.length
    bytes := line.length - (Text.nextColumn branches).length }

/-- The word for an operand: its type, or a dash if there is none. -/
def operandWord : Option OperandKind → Text
  | none => "-"
  | some kind => kind.typeName

/-- The word for being a branch. -/
def branchWord : Bool → Text
  | true => "yes"
  | false => "no"

/-- What the row of an instruction is to say. -/
def columns (i : CompiledInstruction) : Columns :=
  { identifier := i.identifier
    operand := operandWord i.operand
    branch := branchWord i.isBranch
    bytes := Declaration.byteArray i.opcode }

/-- The text is a word that a column of this width has room for. -/
structure Fits (width : Nat) (word : Text) : Prop where
  ne_nil : word ≠ []
  unbroken : word.Unbroken
  length_le : word.length ≤ width

theorem Fits.length_padRight {width : Nat} {word : Text} (hword : Fits width word) :
    (Text.padRight width word).length = width := by
  rw [Text.length_padRight, Nat.max_eq_left hword.length_le]

/-- Spaces are only found after the word. -/
theorem Fits.head?_ne {width : Nat} {word : Text} (hword : Fits width word) (rest : Text) :
    (Text.padRight width word ++ rest).head? ≠ some ' ' := by
  obtain ⟨c, more, rfl⟩ := List.exists_cons_of_ne_nil hword.ne_nil
  intro hhead
  cases hhead
  exact hword.unbroken.not_mem rfl List.mem_cons_self

theorem row_eq (width : Nat) (identifier operand branch bytes : Text) :
    row width identifier operand branch bytes =
      Text.padRight width identifier ++ ("  " ++ (Text.padRight operandWidth operand ++
        ("  " ++ (Text.padRight branchWidth branch ++ ("  " ++ bytes))))) := by
  simp only [row, List.append_assoc]

section Row

variable {identifier operand branch bytes : Text} (width : Nat) (hidentifier : identifier.Unbroken)
  (hoperand : Fits operandWidth operand) (hbranch : Fits branchWidth branch) (hbytes : bytes.head? ≠ some ' ')

include hidentifier hoperand hbranch hbytes

/-- A row of words that have room in their columns is read back. -/
theorem readRow_row : readRow (row width identifier operand branch bytes) = ⟨identifier, operand, branch, bytes⟩ := by
  rw [readRow, row_eq, Text.nextColumn_padRight hidentifier width (hoperand.head?_ne _),
    Text.nextColumn_padRight hoperand.unbroken _ (hbranch.head?_ne _),
    Text.nextColumn_padRight hbranch.unbroken _ hbytes, Text.firstWord_padRight hidentifier,
    Text.firstWord_padRight hoperand.unbroken, Text.firstWord_padRight hbranch.unbroken]

/-- Only the identifier can be wider than its column, and it moves the other columns. -/
theorem offsets_row :
    offsets (row width identifier operand branch bytes) = .after (max width identifier.length) := by
  rw [offsets, row_eq, Text.nextColumn_padRight hidentifier width (hoperand.head?_ne _),
    Text.nextColumn_padRight hoperand.unbroken _ (hbranch.head?_ne _),
    Text.nextColumn_padRight hbranch.unbroken _ hbytes]
  have hgap : ("  " : Text).length = 2 := rfl
  simp only [List.length_append, Text.length_padRight width, hoperand.length_padRight, hbranch.length_padRight, hgap,
    Offsets.after, Offsets.mk.injEq]
  omega

end Row

theorem fits_titles : Fits operandWidth "OPERAND" ∧ Fits branchWidth "BRANCH" :=
  ⟨⟨by decide, by decide, by decide⟩, ⟨by decide, by decide, by decide⟩⟩

theorem readRow_titles (width : Nat) :
    readRow (row width "IDENTIFIER" "OPERAND" "BRANCH" "BYTES") = ⟨"IDENTIFIER", "OPERAND", "BRANCH", "BYTES"⟩ :=
  readRow_row width (by decide) fits_titles.1 fits_titles.2 (by decide)

/-- The header begins with a title of ten characters, which a column of less width does not hold. -/
theorem offsets_titles (width : Nat) :
    offsets (row width "IDENTIFIER" "OPERAND" "BRANCH" "BYTES") = .after (max width 10) :=
  offsets_row width (by decide) fits_titles.1 fits_titles.2 (by decide)

/-- The column for operands has room for all names of types. -/
theorem fits_operandWord (operand : Option OperandKind) : Fits operandWidth (operandWord operand) := by
  rcases operand with _ | _ | _ | _ | _ | _ | _ | _ <;> exact ⟨by decide, by decide, by decide⟩

theorem fits_branchWord (isBranch : Bool) : Fits branchWidth (branchWord isBranch) := by
  cases isBranch <;> exact ⟨by decide, by decide, by decide⟩

theorem head?_byteArray_ne (opcode : Bytes) : (Declaration.byteArray opcode).head? ≠ some ' ' := by
  simp [Declaration.byteArray]

theorem instructionRow_eq (width : Nat) (i : CompiledInstruction) :
    instructionRow width i =
      row width i.identifier (operandWord i.operand) (branchWord i.isBranch) (Declaration.byteArray i.opcode) := by
  unfold instructionRow
  cases i.operand <;> cases i.isBranch <;> rfl

/-- The row of an instruction tells what it is. -/
theorem readRow_instructionRow (width : Nat) {i : CompiledInstruction} (hname : Text.Unbroken i.identifier) :
    readRow (instructionRow width i) = columns i := by
  rw [instructionRow_eq, readRow_row width hname (fits_operandWord _) (fits_branchWord _) (head?_byteArray_ne _),
    columns]

/-- The columns tell everything that the row of an instruction is made of. -/
theorem columns_eq_columns_iff {i i' : CompiledInstruction} :
    columns i = columns i' ↔
      i.identifier = i'.identifier ∧ i.operand = i'.operand ∧ i.isBranch = i'.isBranch ∧ i.opcode = i'.opcode := by
  have hoperand : ∀ {operand operand'}, operandWord operand = operandWord operand' → operand = operand' := by
    intro operand operand' hsame
    refine Declaration.eq_of_find?_eq_some ?_ hsame
    rintro (_ | _ | _ | _ | _ | _ | _ | _) <;> decide
  have hbranch : ∀ {isBranch isBranch'}, branchWord isBranch = branchWord isBranch' → isBranch = isBranch' := by
    decide
  constructor
  · intro hsame
    obtain ⟨hname, hkind, hflag, hbytes⟩ := Columns.mk.inj hsame
    exact ⟨hname, hoperand hkind, hbranch hflag, Declaration.byteArray_injective hbytes⟩
  · rintro ⟨hname, hkind, hflag, hbytes⟩
    rw [columns, columns, hname, hkind, hflag, hbytes]

end Command.Inspection

end InstrDecl

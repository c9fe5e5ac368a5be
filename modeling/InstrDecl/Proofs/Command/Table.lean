import InstrDecl.Proofs.Command.Output
import InstrDecl.Proofs.Command.Row
import InstrDecl.Proofs.Compile.Declarations
import InstrDecl.Proofs.InstructionList.Lines

namespace InstrDecl

namespace Command.Inspection

/-- The table as one text. -/
def table (compiled : List CompiledInstruction) : Text :=
  (prints compiled).flatten

/-- All lines of the table, up to the number of instructions. -/
def tableLines (compiled : List CompiledInstruction) : List Text :=
  lines compiled ++ [[], closing compiled.length]

theorem table_eq (compiled : List CompiledInstruction) :
    table compiled = (tableLines compiled).flatMap (· ++ ['\n']) := by
  simp [table, prints, tableLines, List.flatMap]

section Control

variable {c : Char} (hc : c.toNat < 32)

include hc

/-- A text from the space on holds no control character. -/
theorem count_control_eq_zero {text : Text} (htext : text.all (32 ≤ ·.toNat) = true) : text.count c = 0 := by
  rw [List.count_eq_zero]
  intro hmem
  have hle := of_decide_eq_true (List.all_eq_true.mp htext c hmem)
  omega

/-- The padding of a row adds no control character. -/
theorem count_row (width : Nat) (identifier operand branch bytes : Text) :
    (row width identifier operand branch bytes).count c =
      identifier.count c + operand.count c + branch.count c + bytes.count c := by
  have hspace : c ≠ ' ' := by
    rintro rfl
    exact absurd hc (by decide)
  have hgap : ("  " : Text).count c = 0 := count_control_eq_zero hc (by decide)
  simp only [row, List.count_append, Text.count_padRight hspace, hgap, Nat.add_zero]

theorem count_byteArray (opcode : Bytes) : (Declaration.byteArray opcode).count c = 0 := by
  have hdigits : ∀ n < 16, 32 ≤ (Nat.digitChar n).toNat := by decide
  have hmarks : ("[0x, ]" : Text).count c = 0 := count_control_eq_zero hc (by decide)
  refine List.count_eq_zero.mpr (Declaration.not_mem_byteArray (List.count_eq_zero.mp hmarks) ?_ opcode)
  rintro n hn rfl
  have hle := hdigits n hn
  omega

/-- Of the parts of a row only the identifier can hold a control character. -/
theorem count_instructionRow (width : Nat) (i : CompiledInstruction) :
    (instructionRow width i).count c = i.identifier.count c := by
  have hoperand : ∀ operand, (operandWord operand).all (32 ≤ ·.toNat) = true := by
    rintro (_ | _ | _ | _ | _ | _ | _ | _) <;> decide
  have hbranch : ∀ isBranch, (branchWord isBranch).all (32 ≤ ·.toNat) = true := by decide
  rw [instructionRow_eq, count_row hc, count_control_eq_zero hc (hoperand _), count_control_eq_zero hc (hbranch _),
    count_byteArray hc]
  rfl

theorem count_header (width : Nat) : (row width "IDENTIFIER" "OPERAND" "BRANCH" "BYTES").count c = 0 := by
  rw [count_row hc, count_control_eq_zero hc (by decide), count_control_eq_zero hc (by decide),
    count_control_eq_zero hc (by decide), count_control_eq_zero hc (by decide)]

theorem count_rule (width : Nat) : (List.replicate width '-').count c = 0 := by
  have hdash : c ≠ '-' := by
    rintro rfl
    exact absurd hc (by decide)
  exact List.count_eq_zero.mpr fun hmem => hdash (List.mem_replicate.mp hmem).2

theorem count_closing (count : Nat) : (closing count).count c = 0 := by
  have hdigit : c.isDigit = false := by
    have hzero : '0'.toNat = 48 := rfl
    by_contra hdigit
    have hle := (Char.isDigit_iff_toNat.mp (by simpa using hdigit)).1
    omega
  rw [closing, List.count_append, List.count_eq_zero.mpr (Text.not_mem_ofNat hdigit count),
    count_control_eq_zero hc (by decide)]

/-- The lines of the table hold a control character as often as the identifiers do: what is around them
    holds none. -/
theorem count_flatten_tableLines (compiled : List CompiledInstruction) :
    (tableLines compiled).flatten.count c = (compiled.flatMap (·.identifier)).count c := by
  have hrows : ∀ width, (compiled.map (instructionRow width)).flatten.count c =
      (compiled.flatMap (·.identifier)).count c := by
    intro width
    induction compiled with
    | nil => rfl
    | cons i rest ih =>
      rw [List.map_cons, List.flatten_cons, List.flatMap_cons, List.count_append, List.count_append,
        count_instructionRow hc, ih]
  simp only [tableLines, lines, List.flatten_append, List.flatten_cons, List.flatten_nil, List.count_append,
    List.count_nil, count_header hc, count_rule hc, count_closing hc, hrows, Nat.add_zero, Nat.zero_add]

end Control

/-- The lines of the table are lines: no identifier breaks one of them. -/
theorem newline_not_mem_tableLines {compiled : List CompiledInstruction}
    (hnames : ∀ i ∈ compiled, Text.Unbroken i.identifier) : ∀ line ∈ tableLines compiled, '\n' ∉ line := by
  have hnone : '\n' ∉ (tableLines compiled).flatten := by
    rw [← List.count_eq_zero, count_flatten_tableLines (by decide), List.count_eq_zero, List.mem_flatMap]
    rintro ⟨i, hi, hmem⟩
    exact (hnames i hi).not_mem rfl hmem
  intro line hline hmem
  exact hnone (List.mem_flatten_of_mem hline hmem)

/-- A reader that splits the table at its newlines finds its lines. -/
theorem splitWhere_table {compiled : List CompiledInstruction}
    (hnames : ∀ i ∈ compiled, Text.Unbroken i.identifier) :
    Text.splitWhere (· == '\n') (table compiled) = tableLines compiled ++ [[]] := by
  have hsplit := InstructionList.splitWhere_ended_append (newline_not_mem_tableLines hnames) List.not_mem_nil
  rw [List.append_nil] at hsplit
  rw [table_eq]
  exact hsplit

/-- After the padding, the next character that is no intermediate one is a letter. -/
theorem exists_final_after_words (operand : Option OperandKind) (isBranch : Bool) (rest : Text) :
    ∃ (intermediates : Text) (final : Char) (after : Text), Text.padRight operandWidth (operandWord operand) ++
        (("  " : Text) ++ (Text.padRight branchWidth (branchWord isBranch) ++ rest)) = intermediates ++ final :: after ∧
      (∀ c ∈ intermediates, Text.isControlIntermediate c = true) ∧ Text.isControlFinal final = true := by
  cases operand with
  | none =>
    cases isBranch <;>
      exact ⟨'-' :: List.replicate 15 ' ', _, _, rfl, List.all_eq_true.mp (by decide), by decide⟩
  | some kind => cases kind <;> exact ⟨[], _, _, rfl, by simp, by decide⟩

/-- A control sequence that begins in an identifier is complete in its row, at the latest with the first
    letter in the branch column. -/
theorem holdsControlSequence_instructionRow_iff (width : Nat) (i : CompiledInstruction) :
    Text.HoldsControlSequence (instructionRow width i) ↔ Text.OpensControlSequence i.identifier := by
  have hcount := count_instructionRow (by decide : Text.escapeMark.toNat < 32) width i
  rw [instructionRow_eq, row_eq, Text.padRight_append] at hcount ⊢
  rw [List.count_append, Nat.add_eq_left, List.count_eq_zero] at hcount
  obtain ⟨intermediates, final, after, hwords, hintermediates, hfinal⟩ :=
    exists_final_after_words i.operand i.isBranch ("  " ++ Declaration.byteArray i.opcode)
  refine Text.holdsControlSequence_append_iff hcount (by simp) ?_
  refine ⟨' ' :: (List.replicate (width - i.identifier.length + 1) ' ' ++ intermediates), final, after, ?_, ?_, hfinal⟩
  · rw [hwords, List.cons_append, List.append_assoc]
  · rw [← List.cons_append, ← List.replicate_succ]
    refine List.forall_mem_append.mpr ⟨?_, hintermediates⟩
    intro c hc
    rw [(List.mem_replicate.mp hc).2]
    decide

/-- A control sequence in the table is one that begins in an identifier, even where the identifier ends
    before the sequence does. -/
theorem holdsControlSequence_table_iff {compiled : List CompiledInstruction} :
    Text.HoldsControlSequence (table compiled) ↔ ∃ i ∈ compiled, Text.OpensControlSequence i.identifier := by
  have hplain : ∀ {line : Text}, line.count Text.escapeMark = 0 → ¬ Text.HoldsControlSequence line :=
    fun hcount => Text.not_holdsControlSequence_of_not_mem (List.count_eq_zero.mp hcount)
  have hmark : Text.escapeMark.toNat < 32 := by decide
  rw [table_eq, Text.holdsControlSequence_flatMap_newline]
  simp only [tableLines, lines, List.mem_append, List.mem_cons, List.not_mem_nil, or_false, List.mem_map]
  constructor
  · rintro ⟨line, ((rfl | rfl) | ⟨i, hi, rfl⟩) | (rfl | rfl), hholds⟩
    · exact absurd hholds (hplain (count_header hmark _))
    · exact absurd hholds (hplain (count_rule hmark _))
    · exact ⟨i, hi, (holdsControlSequence_instructionRow_iff _ i).mp hholds⟩
    · exact absurd hholds (hplain List.count_nil)
    · exact absurd hholds (hplain (count_closing hmark _))
  · rintro ⟨i, hi, hopens⟩
    exact ⟨_, .inl (.inr ⟨i, hi, rfl⟩), (holdsControlSequence_instructionRow_iff _ i).mpr hopens⟩

/-- The text shows these instructions: below a header and a rule there is one row for each of them, in
    order, that says what it is, and after an empty line stands their number. -/
structure Shows (shown : Text) (compiled : List CompiledInstruction) (header : Text) (rows : List Text) : Prop where
  split_eq : ∃ rule, Text.splitWhere (· == '\n') shown =
    header :: rule :: (rows ++ [[], Text.ofNat compiled.length ++ (" instructions" : Text), []])
  readRow_header : readRow header = ⟨"IDENTIFIER", "OPERAND", "BRANCH", "BYTES"⟩
  readRow_rows : List.Forall₂ (fun line i => readRow line = columns i) rows compiled

variable {shown header : Text} {rows : List Text} {compiled : List CompiledInstruction}

/-- What is shown can be read as a table in one way only. -/
theorem Shows.unique {header' : Text} {rows' : List Text} (hshows : Shows shown compiled header rows)
    (hshows' : Shows shown compiled header' rows') : header = header' ∧ rows = rows' := by
  obtain ⟨rule, hsplit⟩ := hshows.split_eq
  obtain ⟨rule', hsplit'⟩ := hshows'.split_eq
  rw [hsplit'] at hsplit
  obtain ⟨hheader, hrest⟩ := List.cons.inj hsplit
  exact ⟨hheader.symm, (List.append_cancel_right (List.cons.inj hrest).2).symm⟩

theorem count_identifiers_le (c : Char) (hread : List.Forall₂ (fun line i => readRow line = columns i) rows compiled) :
    (compiled.flatMap (·.identifier)).count c ≤ rows.flatten.count c := by
  induction hread with
  | nil => exact Nat.le_refl 0
  | @cons line i rows compiled hfirst _ ih =>
    have hname : Text.firstWord line = i.identifier := congrArg Columns.identifier hfirst
    have hword : i.identifier.count c ≤ line.count c := by
      rw [← hname]
      exact (List.takeWhile_sublist _).count_le c
    rw [List.flatMap_cons, List.flatten_cons, List.count_append, List.count_append]
    exact Nat.add_le_add hword ih

/-- Identifiers that can be read back are all there, with every character. -/
theorem Shows.count_le {c : Char} (hshows : Shows shown compiled header rows) (hc : c ≠ '\n') :
    (compiled.flatMap (·.identifier)).count c ≤ shown.count c := by
  obtain ⟨rule, hsplit⟩ := hshows.split_eq
  have hrows := count_identifiers_le c hshows.readRow_rows
  rw [← Text.count_flatten_splitWhere hc shown, hsplit, List.flatten_cons, List.flatten_cons, List.flatten_append,
    List.count_append, List.count_append, List.count_append]
  omega

theorem length_le_identifierWidth {i : CompiledInstruction} (hi : i ∈ compiled) :
    i.identifier.length ≤ identifierWidth compiled := by
  have hne : ¬ compiled.isEmpty = true := by
    rw [List.isEmpty_iff]
    exact List.ne_nil_of_mem hi
  rw [identifierWidth, if_neg hne, le_foldl_max_iff]
  exact .inr ⟨_, List.mem_map_of_mem hi, Nat.le_refl _⟩

/-- The first column has room for its title exactly if there is no row, or an identifier that is as wide. -/
theorem ten_le_identifierWidth_iff :
    10 ≤ identifierWidth compiled ↔ compiled = [] ∨ ∃ i ∈ compiled, 10 ≤ i.identifier.length := by
  cases compiled with
  | nil => exact ⟨fun _ => .inl rfl, fun _ => by decide⟩
  | cons first rest =>
    rw [identifierWidth, if_neg (by simp), le_foldl_max_iff]
    simp

section Names

variable (hnames : ∀ i ∈ compiled, Text.Unbroken i.identifier)

include hnames

/-- The table as it is made shows all instructions. -/
theorem table_shows :
    Shows (table compiled) compiled (row (identifierWidth compiled) "IDENTIFIER" "OPERAND" "BRANCH" "BYTES")
      (compiled.map (instructionRow (identifierWidth compiled))) := by
  refine ⟨⟨List.replicate (identifierWidth compiled + 40) '-', ?_⟩, ?_, ?_⟩
  · rw [splitWhere_table hnames, tableLines, lines]
    simp [closing]
  · exact readRow_titles (identifierWidth compiled)
  · rw [List.forall₂_map_left_iff, List.forall₂_same]
    exact fun i hi => readRow_instructionRow _ (hnames i hi)

/-- Nothing was left out of a table that can be read: its identifiers still hold all escape marks. -/
theorem Shows.not_holdsControlSequence (hshows : Shows (Text.plain (table compiled)) compiled header rows) :
    ¬ Text.HoldsControlSequence (table compiled) := by
  refine Text.not_holdsControlSequence_of_count_le ?_
  have hcount := Text.count_flatten_splitWhere (by decide : Text.escapeMark ≠ '\n') (table compiled)
  rw [splitWhere_table hnames, List.flatten_append, List.count_append, count_flatten_tableLines (by decide)] at hcount
  rw [← hcount]
  exact hshows.count_le (by decide)

/-- A table that can be read where it is shown is shown as it is. -/
theorem Shows.rendered_eq {outlet : Outlet} (hshows : Shows (outlet.rendered (table compiled)) compiled header rows) :
    outlet.rendered (table compiled) = table compiled := by
  cases outlet with
  | closed =>
    obtain ⟨rule, hsplit⟩ := hshows.split_eq
    cases hsplit
  | pipe => exact Text.plain_eq_self_iff.mpr (hshows.not_holdsControlSequence hnames)
  | terminal => rfl

/-- The table can be read where it is shown if nothing has to be left out there. -/
theorem exists_shows_rendered_iff (outlet : Outlet) :
    (∃ header rows, Shows (outlet.rendered (table compiled)) compiled header rows) ↔
      outlet ≠ .closed ∧ (outlet = .pipe → ∀ i ∈ compiled, ¬ Text.OpensControlSequence i.identifier) := by
  constructor
  · rintro ⟨header, rows, hshows⟩
    refine ⟨?_, ?_⟩
    · rintro rfl
      obtain ⟨rule, hsplit⟩ := hshows.split_eq
      cases hsplit
    · rintro rfl i hi hopens
      exact hshows.not_holdsControlSequence hnames (holdsControlSequence_table_iff.mpr ⟨i, hi, hopens⟩)
  · rintro ⟨hopen, hnone⟩
    have hsame : outlet.rendered (table compiled) = table compiled := by
      cases outlet with
      | closed => exact absurd rfl hopen
      | pipe =>
        refine Text.plain_eq_self_iff.mpr fun hholds => ?_
        obtain ⟨i, hi, hopens⟩ := holdsControlSequence_table_iff.mp hholds
        exact hnone rfl i hi hopens
      | terminal => rfl
    rw [hsame]
    exact ⟨_, _, table_shows hnames⟩

theorem offsets_instructionRow {i : CompiledInstruction} (hi : i ∈ compiled) :
    offsets (instructionRow (identifierWidth compiled) i) = .after (identifierWidth compiled) := by
  rw [instructionRow_eq, offsets_row _ (hnames i hi) (fits_operandWord _) (fits_branchWord _) (head?_byteArray_ne _),
    Nat.max_eq_left (length_le_identifierWidth hi)]

/-- The rows of a table are aligned with each other, and with the header if one identifier is as wide as
    its title. -/
theorem Shows.aligned {outlet : Outlet} (hshows : Shows (outlet.rendered (table compiled)) compiled header rows) :
    (∀ line ∈ rows, ∀ other ∈ rows, offsets line = offsets other) ∧
      ((∀ line ∈ rows, offsets line = offsets header) ↔
        compiled = [] ∨ ∃ i ∈ compiled, 10 ≤ i.identifier.length) := by
  rw [hshows.rendered_eq hnames] at hshows
  obtain ⟨rfl, rfl⟩ := hshows.unique (table_shows hnames)
  rw [← ten_le_identifierWidth_iff, offsets_titles]
  simp only [List.forall_mem_map]
  constructor
  · intro i hi i' hi'
    rw [offsets_instructionRow hnames hi, offsets_instructionRow hnames hi']
  · constructor
    · intro hsame
      cases compiled with
      | nil => decide
      | cons i rest =>
        have hfirst := hsame i List.mem_cons_self
        rw [offsets_instructionRow hnames List.mem_cons_self] at hfirst
        have hstart := congrArg Offsets.operand hfirst
        dsimp only [Offsets.after] at hstart
        omega
    · intro hwide i hi
      rw [offsets_instructionRow hnames hi, Nat.max_eq_left hwide]

end Names

end Command.Inspection

namespace Command

open Inspection

variable {compiler : Compiler} {environment : Environment} {program : Program} {stream : Stream} {request : Request}
  {workspace : Workspace} {templates arguments : List Text} {compiled : List CompiledInstruction}

/-- The list of a request holds these templates, and they compile to these instructions. -/
def Compiles (compiler : Compiler) (environment : Environment) (program : Program) (request : Request)
    (workspace : Workspace) (templates : List Text) (compiled : List CompiledInstruction) : Prop :=
  let settings := (Settings.resolve environment request.assembler request.jobs).1
  Lists workspace.files (request.path settings) templates ∧
    (compiler (settings.tool.assemble program) settings.jobs settings.sentinel templates (.new workspace)).1 =
      .ok compiled

/-- Instructions that a list compiles to are those that its templates describe, and their identifiers hold
    no blank. -/
theorem Compiles.derived_and_unbroken (hcompiler : compiler.Scheduled)
    (hcompiles : Compiles compiler environment program request workspace templates compiled) :
    List.Forall₂ (fun source i => Instruction.derive source = .ok i.toInstruction) templates compiled ∧
      ∀ i ∈ compiled, Text.Unbroken i.identifier := by
  obtain ⟨_, hresult⟩ := hcompiles
  obtain ⟨order, hyields⟩ := hcompiler
    ((Settings.resolve environment request.assembler request.jobs).1.tool.assemble program)
    (Settings.resolve environment request.assembler request.jobs).1.jobs
    (Settings.resolve environment request.assembler request.jobs).1.sentinel templates (.new workspace)
  generalize compiler _ _ _ templates _ = last at hresult hyields
  obtain ⟨result, after⟩ := last
  obtain rfl : result = .ok compiled := hresult
  exact ⟨hyields.derived, hyields.unbroken_identifier⟩

/-- A list that can be read and compiled is inspected without failure, if the standard output takes each
    line. -/
theorem exists_runWith_inspect (hline : readLine workspace.files arguments = .ok (.run request))
    (hverb : request.verb = .inspect)
    (hcompiles : Compiles compiler environment program request workspace templates compiled)
    (htakes : stream.Takes [] (prints compiled)) :
    ∃ outcome, runWith compiler environment program stream arguments workspace = .ok outcome ∧ outcome.exitCode = 0 ∧
      outcome.stdout = stream.outlet.rendered (table compiled) := by
  have hload := (load_eq_ok_iff (Request.path_hasNul hline environment)).mpr hcompiles.1
  have houtput : request.output = none := output_eq_none_of_readLine hline (by rw [hverb]; decide)
  have hmade : (generate compiler request.verb (Settings.resolve environment request.assembler request.jobs).1 program
      templates workspace).1 = .ok (prints compiled) := by
    rw [hverb]
    exact congrArg (Except.map prints) hcompiles.2
  refine ⟨perform compiler environment program stream request workspace, by rw [runWith, hline], ?_⟩
  rcases perform_cases compiler environment program stream request workspace rfl with
    ⟨e, hfails, _⟩ | ⟨templates', hload', hstages⟩
  · rw [hload] at hfails
    cases hfails
  · rw [hload] at hload'
    cases hload'
    rcases hstages with ⟨e, hfails, _⟩ | ⟨texts, htexts, hfollows⟩
    · rw [hmade] at hfails
      cases hfails
    · rw [hmade] at htexts
      cases htexts
      have hended := (ended_of_followsDelivery (hasNul_of_readLine hline).2
        (Verb.rendered_text stream.outlet .inspect [] compiled) hfollows).1
      rw [houtput] at hended
      rcases hended with ⟨_, hexit, hdelivered⟩ | ⟨hnot, _⟩
      · exact ⟨hexit, hdelivered.1⟩
      · exact absurd htakes hnot

/-- Inspecting a list that compiles shows its table, under every schedule of the calls, if the standard
    output takes each line. A table that is shown on a terminal can always be read, and one that goes to a
    pipe exactly if no control sequence begins in an identifier: there is one row for each instruction, in
    order, that tells its identifier, operand, kind and opcode, and the number of instructions is stated. The
    columns then begin at the same places in all rows, and also in the header exactly if there is no row or
    some identifier has at least ten characters. -/
theorem inspect_table_exact (hcompiler : compiler.Scheduled)
    (hline : readLine workspace.files arguments = .ok (.run request)) (hverb : request.verb = .inspect)
    (hcompiles : Compiles compiler environment program request workspace templates compiled)
    (htakes : stream.Takes [] (prints compiled)) :
    ∃ outcome, runWith compiler environment program stream arguments workspace = .ok outcome ∧ outcome.exitCode = 0 ∧
      List.Forall₂ (fun source i => Instruction.derive source = .ok i.toInstruction) templates compiled ∧
      ((∃ header rows, Shows outcome.stdout compiled header rows) ↔ stream.outlet ≠ .closed ∧
        (stream.outlet = .pipe → ∀ i ∈ compiled, ¬ Text.OpensControlSequence i.identifier)) ∧
      (∀ header rows, Shows outcome.stdout compiled header rows →
        (∀ line ∈ rows, ∀ other ∈ rows, offsets line = offsets other) ∧
        ((∀ line ∈ rows, offsets line = offsets header) ↔
          compiled = [] ∨ ∃ i ∈ compiled, 10 ≤ i.identifier.length)) ∧
      ∀ i i', columns i = columns i' ↔
        i.identifier = i'.identifier ∧ i.operand = i'.operand ∧ i.isBranch = i'.isBranch ∧ i.opcode = i'.opcode := by
  obtain ⟨outcome, hrun, hexit, hshown⟩ := exists_runWith_inspect hline hverb hcompiles htakes
  obtain ⟨hderived, hnames⟩ := hcompiles.derived_and_unbroken hcompiler
  refine ⟨outcome, hrun, hexit, hderived, ?_, ?_, fun i i' => columns_eq_columns_iff⟩
  · rw [hshown]
    exact exists_shows_rendered_iff hnames stream.outlet
  · intro header rows hshows
    rw [hshown] at hshows
    exact hshows.aligned hnames

/-- An assembler that knows one instruction and takes all others for jumps. -/
def assemblesJump : Program := fun _ source =>
  if source = Utf8.encode "bits 64\nvzeroupper\n" then
    .ok { status := 0, stderr := [], output := some (.file [0xc5, 0xf8, 0x77]) }
  else .ok { status := 0, stderr := [], output := some (.file [0x0f, 0x84, 0, 0, 0, 0]) }

/-- A list of two instructions. -/
def listOfJump : Workspace :=
  .new ⟨[(["x.list"], .file (Utf8.encode "vzeroupper\njz $label\n"))], []⟩

/-- The request to inspect that list. -/
def inspectList : Request :=
  ⟨.inspect, some ⟨.current, ["x.list"]⟩, none, none, none, false⟩

/-- What that list compiles to. -/
def compiledJump : List CompiledInstruction :=
  [{ identifier := "vzeroupper", operand := none, isBranch := false
     template := ⟨"vzeroupper", [⟨.word "vzeroupper", 0⟩]⟩, opcode := [0xc5, 0xf8, 0x77] },
   { identifier := "jz", operand := some .label, isBranch := true
     template := ⟨"jz $label", [⟨.word "jz", 0⟩, ⟨.placeholder .label, 0⟩]⟩, opcode := [0x0f, 0x84] }]

/-- An identifier of ten characters is as wide as the title of its column. -/
theorem inspect_table_exact_jump :
    Compiler.Scheduled Compile.templates ∧
    readLine listOfJump.files ["inspect", "x.list"] = .ok (.run inspectList) ∧ inspectList.verb = .inspect ∧
    Compiles Compile.templates [] assemblesJump inspectList listOfJump ["vzeroupper", "jz $label"] compiledJump ∧
    Stream.pipe.Takes [] (prints compiledJump) ∧
    ∃ outcome header rows,
      runWith Compile.templates [] assemblesJump .pipe ["inspect", "x.list"] listOfJump = .ok outcome ∧
      Shows outcome.stdout compiledJump header rows ∧ ∀ line ∈ rows, offsets line = offsets header := by
  have hcompiler : Compiler.Scheduled Compile.templates := Compile.exists_yields_templates
  have hline : readLine listOfJump.files ["inspect", "x.list"] = .ok (.run inspectList) := by decide
  have hcompiles : Compiles Compile.templates [] assemblesJump inspectList listOfJump ["vzeroupper", "jz $label"]
      compiledJump :=
    ⟨⟨Utf8.encode "vzeroupper\njz $label\n", "vzeroupper\njz $label\n", by decide, by decide, by decide⟩, by decide⟩
  have htakes := Stream.takes_pipe [] (prints compiledJump)
  have hmarks : ∀ i ∈ compiledJump, Text.escapeMark ∉ i.identifier := by decide
  have hwide : ∃ i ∈ compiledJump, 10 ≤ i.identifier.length := by decide
  obtain ⟨outcome, hrun, _, _, hreadable, haligned, _⟩ := inspect_table_exact hcompiler hline rfl hcompiles htakes
  obtain ⟨header, rows, hshows⟩ :=
    hreadable.mpr ⟨by decide, fun _ i hi => Text.not_opensControlSequence_of_not_mem (hmarks i hi)⟩
  exact ⟨hcompiler, hline, rfl, hcompiles, htakes, outcome, header, rows, hrun, hshows,
    (haligned header rows hshows).2.mpr (.inr hwide)⟩

/-- The header is not aligned with the row of an identifier that is shorter than its title. -/
theorem short_identifier_misaligned :
    let header : Text := "IDENTIFIER  OPERAND         BRANCH  BYTES"
    let row : Text := "ret  -               no      [0xc3]"
    ∃ outcome, run [] assemblesRet .pipe ["inspect", "x.list"]
        (.new ⟨[(["x.list"], .file (Utf8.encode "ret\n"))], []⟩) = .ok outcome ∧ outcome.exitCode = 0 ∧
      Text.splitWhere (· == '\n') outcome.stdout =
        [header, List.replicate 43 '-', row, [], "1 instructions", []] ∧
      offsets header = ⟨12, 28, 36⟩ ∧ offsets row = ⟨5, 21, 29⟩ := by
  intro header row
  refine ⟨_, rfl, rfl, ?_, ?_, ?_⟩ <;> decide

end Command

end InstrDecl

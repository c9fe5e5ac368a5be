import InstrDecl.InstructionList
import InstrDecl.Proofs.Compile.Scheduled
import InstrDecl.Proofs.Encoding.AssemblyLine
import InstrDecl.Proofs.Text.Split

namespace InstrDecl

namespace Template

variable {source : Text} {template : Template}

/-- The line is read as a template without any token. -/
def IsBlank (source : Text) : Prop :=
  ∃ template, Template.parse source = .ok template ∧ template.tokens = []

/-- A template without tokens is one whose text has no pieces. -/
theorem tokens_eq_nil_iff (hparse : Template.parse source = .ok template) :
    template.tokens = [] ↔ Text.pieces source = [] := by
  obtain ⟨_, hread, _⟩ := Template.parse_eq_ok_iff.mp hparse
  rw [← List.length_eq_zero_iff, ← hread.length_eq, List.length_eq_zero_iff]

theorem isBlank_iff : IsBlank source ↔ Text.pieces source = [] := by
  constructor
  · rintro ⟨template, hparse, htokens⟩
    exact (tokens_eq_nil_iff hparse).mp htokens
  · intro hpieces
    refine ⟨⟨source, []⟩, Template.parse_eq_ok_iff.mpr ⟨rfl, ?_, Nat.zero_le 1⟩, rfl⟩
    rw [hpieces]
    exact .nil

/-- Every token leaves something in the line for the assembler, whatever the sentinel is. -/
theorem assemblyText_eq_nil_iff (hparse : Template.parse source = .ok template) (byte : Int) :
    template.assemblyText byte = [] ↔ template.tokens = [] := by
  constructor
  · intro hempty
    have hpieces := (pieces_assemblyText hparse byte).1
    rw [hempty] at hpieces
    exact List.map_eq_nil_iff.mp (List.map_eq_nil_iff.mp hpieces.symm)
  · intro htokens
    rw [assemblyText_eq_line hparse, htokens]
    rfl

end Template

namespace InstructionList

/-- These are the numbers of the blank templates in increasing order, when the first template has the
    number `line`. -/
structure NumbersOfBlank (line : Nat) (templates : List Text) (numbers : List Nat) : Prop where
  increasing : numbers.Pairwise (· < ·)
  mem_iff : ∀ number, number ∈ numbers ↔ ∃ place source, number = line + place ∧
    templates[place]? = some source ∧ Template.IsBlank source

theorem numbersOfBlank_nil (line : Nat) : NumbersOfBlank line [] [] :=
  ⟨.nil, by simp⟩

variable {line : Nat} {template : Text} {templates : List Text} {numbers : List Nat}

/-- The numbers for a longer list: the first template has the number `line`, and all others keep theirs. -/
theorem mem_numbers_cons_iff (hnumbers : NumbersOfBlank (line + 1) templates numbers) (number : Nat) :
    (number = line ∧ Template.IsBlank template) ∨ number ∈ numbers ↔
      ∃ place source, number = line + place ∧ (template :: templates)[place]? = some source ∧
        Template.IsBlank source := by
  rw [hnumbers.mem_iff]
  constructor
  · rintro (⟨rfl, hblank⟩ | ⟨place, source, rfl, hsource, hblank⟩)
    · exact ⟨0, template, rfl, rfl, hblank⟩
    · exact ⟨place + 1, source, by omega, hsource, hblank⟩
  · rintro ⟨place, source, rfl, hsource, hblank⟩
    cases place with
    | zero =>
      cases hsource
      exact .inl ⟨rfl, hblank⟩
    | succ place => exact .inr ⟨place, source, by omega, hsource, hblank⟩

theorem NumbersOfBlank.cons_blank (hnumbers : NumbersOfBlank (line + 1) templates numbers)
    (hblank : Template.IsBlank template) : NumbersOfBlank line (template :: templates) (line :: numbers) := by
  refine ⟨List.pairwise_cons.mpr ⟨fun number hnumber => ?_, hnumbers.increasing⟩, fun number => ?_⟩
  · obtain ⟨place, _, rfl, _⟩ := (hnumbers.mem_iff number).mp hnumber
    omega
  · rw [← mem_numbers_cons_iff hnumbers, List.mem_cons, and_iff_left hblank]

theorem NumbersOfBlank.cons (hnumbers : NumbersOfBlank (line + 1) templates numbers)
    (hblank : ¬ Template.IsBlank template) : NumbersOfBlank line (template :: templates) numbers := by
  refine ⟨hnumbers.increasing, fun number => ?_⟩
  rw [← mem_numbers_cons_iff hnumbers]
  exact ⟨.inr, fun hmem => hmem.resolve_left fun hfirst => hblank hfirst.2⟩

/-- The warnings are those of the blank templates, in order and once for each. -/
theorem exists_blankNotices_eq (line : Nat) (templates : List Text) :
    ∃ numbers, blankNotices line templates = numbers.map .blankTemplate ∧
      NumbersOfBlank line templates numbers := by
  induction templates generalizing line with
  | nil => exact ⟨[], rfl, numbersOfBlank_nil line⟩
  | cons template rest ih =>
    obtain ⟨numbers, hnotices, hnumbers⟩ := ih (line + 1)
    rw [blankNotices, hnotices]
    split
    · next hempty =>
      exact ⟨line :: numbers, rfl, hnumbers.cons_blank (Template.isBlank_iff.mpr (Text.isEmpty_trim_iff.mp hempty))⟩
    · next hempty =>
      exact ⟨numbers, rfl, hnumbers.cons (mt Template.isBlank_iff.mp (mt Text.isEmpty_trim_iff.mpr hempty))⟩

/-- There is a warning for a template exactly if it is blank. -/
theorem blankTemplate_mem_warnings_iff {place : Nat} {source : Text} (hsource : templates[place]? = some source) :
    .blankTemplate (place + 1) ∈ warnings templates ↔ Template.IsBlank source := by
  obtain ⟨numbers, hnotices, hnumbers⟩ := exists_blankNotices_eq 1 templates
  have hmem : Notice.blankTemplate (place + 1) ∈ numbers.map .blankTemplate ↔ place + 1 ∈ numbers :=
    List.mem_map_of_injective fun _ _ hsame => Notice.blankTemplate.inj hsame
  rw [warnings, hnotices, hmem, hnumbers.mem_iff]
  constructor
  · rintro ⟨other, source', hplace, hsource', hblank⟩
    obtain rfl : place = other := by omega
    rw [hsource] at hsource'
    cases hsource'
    exact hblank
  · exact fun hblank => ⟨place, source, by omega, hsource, hblank⟩

end InstructionList

namespace InstructionList

/-- Reading a list warns of its blank templates, in order and once for each, and these are the
    templates for which the assembler is given an empty line: those that are read as no tokens. So
    in every run over the list, with any number of workers, whatever the assembler answers, an empty
    line is one that was warned of, and the other way round. -/
theorem blank_warnings_exact (text : Text) :
    (∃ numbers, warnings (split text) = numbers.map .blankTemplate ∧
      (warnings (split text)).map (·.labelled) =
        numbers.map (fun number => ("WARNING: line " : Text) ++ Text.ofNat number ++ ": blank template") ∧
      NumbersOfBlank 1 (split text) numbers) ∧
    (∀ source template, Template.parse source = .ok template → ∀ byte,
      template.assemblyText byte = [] ↔ template.tokens = []) ∧
    ∀ (σ : Type) (assembler : Assembler σ) jobs sentinel session order last,
      Compile.Yields assembler jobs sentinel (split text) session order last →
      ∃ lines, last.2.calls = session.calls ++ lines ∧
        List.Forall₂ (fun number line => line = [] ↔ .blankTemplate (number + 1) ∈ warnings (split text))
          order lines := by
  refine ⟨?_, fun source template => Template.assemblyText_eq_nil_iff, ?_⟩
  · obtain ⟨numbers, hnotices, hnumbers⟩ := exists_blankNotices_eq 1 (split text)
    refine ⟨numbers, hnotices, ?_, hnumbers⟩
    rw [warnings, hnotices, List.map_map]
    rfl
  · intro σ assembler jobs sentinel session order last hyields
    obtain ⟨lines, hcalls, hlines⟩ := hyields.exists_lines
    refine ⟨lines, hcalls, hlines.imp ?_⟩
    rintro number line ⟨source, template, hsource, hparse, rfl⟩
    rw [blankTemplate_mem_warnings_iff hsource, Template.assemblyText_eq_nil_iff hparse,
      Template.tokens_eq_nil_iff hparse, Template.isBlank_iff]

/-- An assembler that accepts everything. -/
def assemblesAll : Assembler Unit := fun line _ =>
  ({ result := .ok { instruction := line, status := 0, output := [0x90, 0, 0, 0, 0], stderr := [] }, notices := [] }, ())

/-- A line of exotic blanks is warned of, and the assembler is given an empty line for it; a comma and
    a label are not blank. -/
theorem blank_warnings_exact_comma :
    let text : Text := "ret\r\n\u2003\u0085\r\n,\n$label"
    NumbersOfBlank 1 (split text) [2] ∧
    Template.parse "," = .ok ⟨",", [⟨.word [], 1⟩]⟩ ∧
    Template.assemblyText ⟨",", [⟨.word [], 1⟩]⟩ (-1) ≠ [] ∧
    ∃ order last, Compile.Yields assemblesAll 1 0x11 (split text) (.new ()) order last ∧
      last.2.calls = [("ret" : Text), "", ",", "0x11111111"] ∧
      List.Forall₂ (fun number line => line = [] ↔ .blankTemplate (number + 1) ∈ warnings (split text))
        order [("ret" : Text), "", ",", "0x11111111"] := by
  intro text
  obtain ⟨⟨numbers, hnotices, _, hnumbers⟩, hline, hruns⟩ := blank_warnings_exact text
  have hwarnings : warnings (split text) = [.blankTemplate 2] := by decide
  have hcomma : Template.parse "," = .ok ⟨",", [⟨.word [], 1⟩]⟩ := by decide
  refine ⟨?_, hcomma, fun hempty => ?_, ?_⟩
  · obtain rfl : numbers = [2] := by
      rw [hwarnings] at hnotices
      exact (List.map_injective_iff.mpr fun _ _ hsame => Notice.blankTemplate.inj hsame) hnotices.symm
    exact hnumbers
  · exact List.cons_ne_nil _ _ ((hline _ _ hcomma (-1)).mp hempty)
  · have hyields := @Compile.Yields.inOrder Unit assemblesAll 1 0x11 (split text) (.new ()) _ rfl (.inl (by decide))
    obtain ⟨lines, hcalls, hlines⟩ := hruns _ _ _ _ _ _ _ hyields
    obtain rfl : lines = [("ret" : Text), "", ",", "0x11111111"] := hcalls.symm
    exact ⟨_, _, hyields, hcalls, hlines⟩

end InstructionList

end InstrDecl

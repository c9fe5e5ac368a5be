import InstrDecl.Proofs.Encoding.Sentinel
import InstrDecl.Proofs.Toolchain.Scratch

namespace InstrDecl

namespace Text

/-- The characters that end a line by some convention. -/
def lineBreaks : List CodeRange :=
  [⟨0x000a, 0x000d⟩, ⟨0x001c, 0x001e⟩, ⟨0x0085, 0x0085⟩, ⟨0x2028, 0x2029⟩]

/-- The character ends a line by some convention. -/
def isLineBreak (c : Char) : Bool :=
  CodeRange.covers lineBreaks c

/-- Line breaks are blanks, so a line without blanks but spaces is one line. -/
theorem isBlank_of_isLineBreak {c : Char} (hbreak : isLineBreak c = true) : isBlank c = true := by
  have hwithin : ∀ range ∈ lineBreaks, ∃ blank ∈ blanks, blank.first ≤ range.first ∧ range.last ≤ blank.last := by
    decide
  obtain ⟨range, hrange, hin⟩ := List.any_eq_true.mp hbreak
  obtain ⟨blank, hblank, hfirst, hlast⟩ := hwithin range hrange
  apply List.any_eq_true.mpr
  refine ⟨blank, hblank, ?_⟩
  simp only [CodeRange.contains, Bool.and_eq_true, decide_eq_true_eq] at hin ⊢
  omega

/-- A text whose only blanks are spaces stands on one line. -/
theorem isLineBreak_eq_false {text : Text} (hspaces : ∀ c ∈ text, isBlank c = true → c = ' ') :
    ∀ c ∈ text, isLineBreak c = false := by
  intro c hc
  by_contra hbreak
  rw [Bool.not_eq_false] at hbreak
  have hspace := hspaces c hc (isBlank_of_isLineBreak hbreak)
  rw [hspace] at hbreak
  exact absurd hbreak (by decide)

end Text

/-- The lines of a source file are the directive and the instruction, each ended by a newline. -/
theorem Tool.splitWhere_sourceText {tool : Tool} {instruction : Text} (hdirective : '\n' ∉ tool.directive)
    (hinstruction : '\n' ∉ instruction) :
    Text.splitWhere (· == '\n') (tool.sourceText instruction) = [tool.directive, instruction, []] := by
  have hjoin : tool.sourceText instruction = ['\n'].intercalate [tool.directive, instruction, []] := by
    have hnewline : ("\n" : Text) = ['\n'] := rfl
    simp [Tool.sourceText, hnewline, List.intercalate_cons_cons]
  rw [hjoin]
  apply Text.splitWhere_intercalate (List.cons_ne_nil _ _)
  intro part hpart
  simp only [List.mem_cons, List.not_mem_nil, or_false] at hpart
  rcases hpart with rfl | rfl | rfl
  · exact hdirective
  · exact hinstruction
  · exact List.not_mem_nil

namespace Template

variable {source : Text} {template : Template}

/-- With a substitute, every template can be written out, also one that needs none. -/
theorem render_some (template : Template) (substitute : Text) :
    template.render (some substitute) = .ok (template.fill substitute) := by
  rw [Template.render]

theorem placeholder?_eq_none_iff : template.placeholder? = none ↔ ∀ token ∈ template.tokens, token.kind? = none := by
  simp [Template.placeholder?]

theorem operand?_eq_none_iff : template.operand? = none ↔ ∀ token ∈ template.tokens, token.kind? = none :=
  List.findSome?_eq_none_iff

/-- The placeholder's own text, or anything if there is no placeholder, gives the line of the tokens
    as they are written. -/
theorem render_own_text (hparse : Template.parse source = .ok template) {substitute : Option Text}
    (hown : ∀ token, template.placeholder? = some token → substitute = some token.text) :
    template.render substitute = .ok ([' '].intercalate (template.tokens.map (·.raw))) := by
  cases substitute with
  | some text =>
    rw [render_some, fill_text_eq_line hparse]
    exact fun token htoken => Option.some.inj (hown token htoken)
  | none =>
    have hnone : template.placeholder? = none := by
      cases hplaceholder : template.placeholder? with
      | none => rfl
      | some token => cases hown token hplaceholder
    have hoperand : template.operand? = none := operand?_eq_none_iff.mpr (placeholder?_eq_none_iff.mp hnone)
    have hfill : template.fill [] = [' '].intercalate (template.tokens.map (·.raw)) := by
      apply fill_text_eq_line hparse
      intro token htoken
      rw [hnone] at htoken
      cases htoken
    simp only [Template.render, hoperand, hfill]

/-- The assembler is given the tokens with a sentinel of the right width in place of the operand. -/
theorem assemblyText_eq_line (hparse : Template.parse source = .ok template) (byte : Int) :
    template.assemblyText byte =
      [' '].intercalate ((template.tokens.map (·.settle (sentinelLiteral ·.width byte))).map (·.raw)) := by
  rw [Template.assemblyText]
  cases hoperand : template.operand? with
  | none =>
    apply fill_eq_line
    intro token htoken kind hkind
    rw [operand?_eq_none_iff.mp hoperand token htoken] at hkind
    cases hkind
  | some kind =>
    apply fill_eq_line
    intro token htoken kind' hkind'
    rw [operand?_eq_of_kind? hparse htoken hkind'] at hoperand
    rw [Option.some.inj hoperand]

/-- Tokens can still be told apart when the sentinel stands for the placeholder. -/
theorem legible_settle (hparse : Template.parse source = .ok template) (byte : Int) :
    ∀ token ∈ template.tokens.map (·.settle (sentinelLiteral ·.width byte)), token.Legible := by
  intro token htoken
  obtain ⟨original, horiginal, rfl⟩ := List.mem_map.mp htoken
  exact (legible_of_parse hparse original horiginal).settle fun kind => readsAsWord_sentinelLiteral kind.width byte

/-- The pieces of the line are the tokens of the template, and spaces are all that is between them. -/
theorem pieces_assemblyText (hparse : Template.parse source = .ok template) (byte : Int) :
    Text.pieces (template.assemblyText byte) =
        (template.tokens.map (·.settle (sentinelLiteral ·.width byte))).map (·.raw) ∧
      ∀ c ∈ template.assemblyText byte, Text.isBlank c = true → c = ' ' := by
  rw [assemblyText_eq_line hparse byte]
  apply pieces_line
  intro token htoken
  have hlegible := legible_settle hparse byte token htoken
  exact ⟨hlegible.nonempty, hlegible.unbroken⟩

/-- The line for the assembler is read as the settled tokens, none of which leaves an operand open. -/
theorem parse_assemblyText (hparse : Template.parse source = .ok template) (byte : Int) :
    Template.parse (template.assemblyText byte) =
      .ok ⟨template.assemblyText byte, template.tokens.map (·.settle (sentinelLiteral ·.width byte))⟩ := by
  have hclosed : (template.tokens.map (·.settle (sentinelLiteral ·.width byte))).filter (·.kind?.isSome) = [] := by
    rw [List.filter_eq_nil_iff]
    intro token htoken
    obtain ⟨original, _, rfl⟩ := List.mem_map.mp htoken
    rw [Token.kind?_settle]
    exact Bool.false_ne_true
  rw [assemblyText_eq_line hparse byte]
  apply parse_line (legible_settle hparse byte)
  rw [hclosed]
  exact Nat.zero_le 1

/-- A template that is written out has its tokens for pieces, with the substitute and its commas in
    place of the placeholder, and no blank but a single space between two of them. With the
    placeholder's own text it is read again as the same tokens. With a sentinel for any integer it
    has no line break and is read as the same tokens with the sentinel as a word, and then the source
    file has two lines: the directive and the instruction. -/
theorem rendering_reads_back (hparse : Template.parse source = .ok template) :
    (∀ substitute : Text, substitute ≠ [] → substitute.Unbroken →
      ∃ line, template.render (some substitute) = .ok line ∧
        Text.pieces line = template.tokens.map (fun token =>
          if token.kind?.isSome then substitute ++ token.separator else token.raw) ∧
        line = [' '].intercalate (Text.pieces line) ∧ ∀ c ∈ line, Text.isBlank c = true → c = ' ') ∧
    (∀ substitute : Option Text, (∀ token, template.placeholder? = some token → substitute = some token.text) →
      ∃ line reread, template.render substitute = .ok line ∧ Template.parse line = .ok reread ∧
        reread.tokens = template.tokens ∧ reread.identifier = template.identifier ∧
        reread.operand? = template.operand?) ∧
    ∀ byte : Int,
      let line := template.assemblyText byte
      (∀ c ∈ line, Text.isLineBreak c = false) ∧
      (∃ reread, Template.parse line = .ok reread ∧
        reread.tokens = template.tokens.map (·.settle (sentinelLiteral ·.width byte)) ∧
        reread.placeholder? = none) ∧
      ∀ (tool : Tool) (scratch : Location) (files : FileSystem), '\n' ∉ tool.directive →
        ∃ text, Tool.contentAt (tool.writeSource line scratch files) (Scratch.source scratch) =
            .ok (Utf8.encode text) ∧
          Text.splitWhere (· == '\n') text = [tool.directive, line, []] := by
  refine ⟨?_, ?_, ?_⟩
  · intro substitute hne hunbroken
    obtain ⟨hpieces, hspaces⟩ := pieces_fill hparse hne hunbroken
    refine ⟨_, render_some template substitute, ?_, ?_, hspaces⟩
    · rw [hpieces, List.map_map]
      apply List.map_congr_left
      intro token _
      obtain ⟨lexeme, commas⟩ := token
      cases lexeme <;> rfl
    · rw [hpieces]
      exact fill_eq_line fun _ _ _ _ => rfl
  · intro substitute hown
    obtain ⟨_, _, hone⟩ := Template.parse_eq_ok_iff.mp hparse
    exact ⟨_, _, render_own_text hparse hown, parse_line (legible_of_parse hparse) hone, rfl, rfl, rfl⟩
  · intro byte line
    have hline := Text.isLineBreak_eq_false (pieces_assemblyText hparse byte).2
    refine ⟨hline, ⟨_, parse_assemblyText hparse byte, rfl, ?_⟩, ?_⟩
    · apply placeholder?_eq_none_iff.mpr
      intro token htoken
      obtain ⟨original, _, rfl⟩ := List.mem_map.mp htoken
      exact Token.kind?_settle _ original
    · intro tool scratch files hdirective
      refine ⟨_, Tool.contentAt_writeSource, ?_⟩
      apply Tool.splitWhere_sourceText hdirective
      intro hnewline
      exact absurd (hline '\n' hnewline) (by decide)

/-- Of a move that is written with a line separator inside, and with a sentinel that is no byte. -/
theorem rendering_reads_back_move :
    let source : Text := "mov\tr12,\u2028$u64,,"
    let template : Template := ⟨source, [⟨.word "mov", 0⟩, ⟨.word "r12", 1⟩, ⟨.placeholder .u64, 2⟩]⟩
    Template.parse source = .ok template ∧
      (∃ line, template.render (some "[7") = .ok line ∧ Text.pieces line = (["mov", "r12,", "[7,,"] : List Text)) ∧
      (∃ line reread, template.render (some "$u64") = .ok line ∧ Template.parse line = .ok reread ∧
        reread.tokens = template.tokens) ∧
      (∃ reread, Template.parse (template.assemblyText (-1)) = .ok reread ∧
        reread.tokens = [⟨.word "mov", 0⟩, ⟨.word "r12", 1⟩, ⟨.word "0x-1-1-1-1-1-1-1-1", 2⟩] ∧
        reread.placeholder? = none) ∧
      '\n' ∉ Tool.default.directive ∧
      ∃ text, Tool.contentAt (Tool.default.writeSource (template.assemblyText (-1)) [] ⟨[], []⟩) (Scratch.source []) =
          .ok (Utf8.encode text) ∧
        Text.splitWhere (· == '\n') text =
          ([("bits 64" : Text), "mov r12, 0x-1-1-1-1-1-1-1-1,,", []] : List Text) := by
  intro source template
  have hparse : Template.parse source = .ok template := by rfl
  have hdirective : '\n' ∉ Tool.default.directive := by decide
  obtain ⟨hfill, hown, hsentinel⟩ := rendering_reads_back hparse
  obtain ⟨_, hreread, hfile⟩ := hsentinel (-1)
  refine ⟨hparse, ?_, ?_, hreread, hdirective, hfile Tool.default [] ⟨[], []⟩ hdirective⟩
  · obtain ⟨line, hrender, hpieces, _⟩ := hfill "[7" (by decide) (by decide)
    exact ⟨line, hrender, hpieces⟩
  · have htext : ∀ token, template.placeholder? = some token → some ("$u64" : Text) = some token.text := by
      intro token htoken
      cases htoken
      rfl
    obtain ⟨line, reread, hrender, hread, htokens, _⟩ := hown (some "$u64") htext
    exact ⟨line, reread, hrender, hread, htokens⟩

end Template

end InstrDecl

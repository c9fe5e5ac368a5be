import InstrDecl.Encoding.Extraction
import InstrDecl.Proofs.Template.Grammar

namespace InstrDecl

/-- What a line says, commas and blanks aside: its pieces without the commas at their ends, and
    nothing for a piece that is made of commas. -/
def Text.content (line : Text) : List Text :=
  ((Text.pieces line).map Text.withoutCommas).filter (!·.isEmpty)

/-- The kind of operand that a lexeme leaves open. -/
def Lexeme.kind? : Lexeme → Option OperandKind
  | placeholder kind => some kind
  | _ => none

namespace Template

/-- The lexemes of a template, without the empty words that are left of pieces made of commas. -/
def content (template : Template) : List Lexeme :=
  (template.tokens.map (·.lexeme)).filter (· ≠ .word [])

/-- Reads the content of a line, by the rules for lines. -/
def readContent (content : List Text) : Except TemplateFault (List Lexeme) :=
  match content.mapM Lexeme.read with
  | .error fault => .error fault
  | .ok lexemes =>
    let kinds := lexemes.filterMap (·.kind?)
    if 1 < kinds.length then .error (.severalPlaceholders (kinds.map ('$' :: ·.name))) else .ok lexemes

end Template

theorem Token.kind?_eq_lexeme_kind? (token : Token) : token.kind? = token.lexeme.kind? := by
  obtain ⟨lexeme, commas⟩ := token
  cases lexeme <;> rfl

/-- The lexeme of a piece does not depend on the commas after it. -/
theorem Token.map_lexeme_read (piece : Text) :
    (Token.read piece).map (·.lexeme) = Lexeme.read piece.withoutCommas := by
  have hread : Token.read piece = (Lexeme.read piece.withoutCommas).map fun lexeme =>
    { lexeme, commas := piece.length - piece.withoutCommas.length } := rfl
  rw [hread]
  cases Lexeme.read piece.withoutCommas <;> rfl

/-- An empty word is left of an empty text, and of no other. -/
theorem Lexeme.ne_empty_word_iff {text : Text} {lexeme : Lexeme} (hread : Lexeme.read text = .ok lexeme) :
    decide (lexeme ≠ .word []) = !text.isEmpty := by
  have htext := (Lexeme.read_eq_ok_iff.mp hread).text_eq
  cases text with
  | nil =>
    cases hread
    rfl
  | cons c rest =>
    rw [List.isEmpty_cons, Bool.not_false, decide_eq_true_iff]
    rintro rfl
    cases htext

/-- Reading the pieces of a line is reading its content, as far as the content goes. -/
theorem mapM_read_content (line : Text) :
    (Text.content line).mapM Lexeme.read =
      ((Text.pieces line).mapM Token.read).map fun tokens =>
        (tokens.map (·.lexeme)).filter (· ≠ .word []) := by
  have hempty : ∀ text : Text, (!text.isEmpty) = false → ∃ lexeme, Lexeme.read text = .ok lexeme := by
    intro text htext
    rw [Bool.not_eq_false', List.isEmpty_iff] at htext
    rw [htext]
    exact ⟨_, rfl⟩
  rw [Text.content, mapM_filter_eq_map_filter (fun _ _ => Lexeme.ne_empty_word_iff) hempty,
    ← map_mapM_eq_mapM_map Token.map_lexeme_read]
  cases (Text.pieces line).mapM Token.read <;> rfl

namespace Template

theorem filterMap_kind?_eq_content (tokens : List Token) :
    tokens.filterMap (·.kind?) = ((tokens.map (·.lexeme)).filter (· ≠ .word [])).filterMap (·.kind?) := by
  rw [List.filterMap_filter, List.filterMap_map]
  apply List.filterMap_congr
  intro token _
  rw [Token.kind?_eq_lexeme_kind?, Function.comp_apply]
  split
  · rfl
  · next hword =>
    rw [decide_eq_true_iff, not_not] at hword
    rw [hword]
    rfl

/-- Empty words are never placeholders, so they can be left out when the operand is looked for. -/
theorem operand?_eq_content (template : Template) :
    template.operand? = (template.content.filterMap (·.kind?)).head? := by
  rw [operand?_eq_head?, filterMap_kind?_eq_content, content]

/-- An empty word adds nothing to the name. -/
theorem identifier_eq_content (template : Template) :
    template.identifier = ['_'].intercalate ((template.content.map (·.segment)).filter (!·.isEmpty)) := by
  have hsegments : template.tokens.map (·.lexeme.segment) = (template.tokens.map (·.lexeme)).map (·.segment) := by
    rw [List.map_map]
    rfl
  rw [Template.identifier, segments, content, hsegments]
  generalize template.tokens.map (·.lexeme) = lexemes
  rw [List.filter_map, List.filter_map, List.filter_filter]
  congr 2
  apply List.filter_congr
  intro lexeme _
  by_cases hword : lexeme = .word []
  · rw [hword]
    rfl
  · rw [decide_eq_true hword, Bool.and_true]

/-- Whether a line is read, what is wrong with it, and which lexemes it has, can be told from its
    content. -/
theorem readContent_eq_parse (line : Text) :
    readContent (Text.content line) = ((Template.parse line).map (·.content)).mapError (·.fault) := by
  rw [readContent, mapM_read_content, Template.parse]
  cases (Text.pieces line).mapM Token.read with
  | error fault => rfl
  | ok tokens =>
    have hkinds := filterMap_kind?_eq_content tokens
    have hlength : (tokens.filterMap (·.kind?)).length = (tokens.filter (·.kind?.isSome)).length := by
      rw [← List.length_map, ← Token.map_text_filter_kind?, List.length_map]
    dsimp only [Except.map]
    rw [← hkinds, hlength, ← Token.map_text_filter_kind?]
    split <;> rfl

/-- Lines with the same pieces are read as the same tokens, or are rejected for the same cause. -/
theorem parse_of_pieces_eq {line line' : Text} (hpieces : Text.pieces line = Text.pieces line') :
    Template.parse line' = ((Template.parse line).map fun template => { template with source := line' }).mapError
      fun e => { e with template := line' } := by
  rw [Template.parse, Template.parse, hpieces]
  cases (Text.pieces line').mapM Token.read with
  | error fault => rfl
  | ok tokens =>
    dsimp only
    split <;> rfl

theorem parse_cases (line : Text) :
    (∃ template, Template.parse line = .ok template) ∨ ∃ fault, Template.parse line = .error ⟨line, fault⟩ := by
  cases hparse : Template.parse line with
  | ok template => exact .inl ⟨template, rfl⟩
  | error e =>
    obtain rfl := Template.parse_error_template hparse
    exact .inr ⟨e.fault, rfl⟩

/-- Lines with the same content are both read, with the same lexemes, or both rejected for the same
    cause. -/
theorem parse_of_content_eq {line line' : Text} (hcontent : Text.content line = Text.content line') :
    (∃ template template', Template.parse line = .ok template ∧ Template.parse line' = .ok template' ∧
      template.content = template'.content) ∨
    ∃ fault, Template.parse line = .error ⟨line, fault⟩ ∧ Template.parse line' = .error ⟨line', fault⟩ := by
  have hagree : readContent (Text.content line) = readContent (Text.content line') := by rw [hcontent]
  rw [readContent_eq_parse, readContent_eq_parse] at hagree
  rcases parse_cases line with ⟨template, hparse⟩ | ⟨fault, hparse⟩
  · rcases parse_cases line' with ⟨template', hparse'⟩ | ⟨fault', hparse'⟩
    · rw [hparse, hparse'] at hagree
      exact .inl ⟨template, template', hparse, hparse', Except.ok.inj hagree⟩
    · rw [hparse, hparse'] at hagree
      cases hagree
  · rcases parse_cases line' with ⟨template', hparse'⟩ | ⟨fault', hparse'⟩
    · rw [hparse, hparse'] at hagree
      cases hagree
    · rw [hparse, hparse'] at hagree
      obtain rfl : fault = fault' := Except.error.inj hagree
      exact .inr ⟨fault, hparse, hparse'⟩

/-- The mnemonic is the first piece as it stands in the line, with its commas. -/
theorem mnemonic_eq_head? {line : Text} {template : Template} (hparse : Template.parse line = .ok template) :
    template.mnemonic = (Text.pieces line).head?.getD [] := by
  obtain ⟨_, hread, _⟩ := Template.parse_eq_ok_iff.mp hparse
  unfold Template.mnemonic
  generalize Text.pieces line = pieces at hread ⊢
  generalize template.tokens = tokens at hread ⊢
  cases hread with
  | nil => rfl
  | cons hfirst _ => exact (Token.read_eq_ok_iff.mp hfirst).1

end Template

/-- Only the first piece of a line is looked at. -/
theorem isBranch_eq_head? (line : Text) : isBranch line = isNearJump ((Text.pieces line).head?.getD []) := by
  unfold isBranch
  cases Text.pieces line <;> rfl

/-- Two lines with the same pieces are read alike in everything: both are rejected for the same cause,
    or both have the same tokens and all that comes of them. If the lines only agree when commas are
    set aside, they are still rejected for the same cause or have the same name and operand. A branch
    is told from the first piece, which is the mnemonic of a template that can be read. -/
theorem readings_depend_on_pieces (line line' : Text) :
    (Text.pieces line = Text.pieces line' →
      (∃ template template', Template.parse line = .ok template ∧ Template.parse line' = .ok template' ∧
        template.tokens = template'.tokens ∧ template.identifier = template'.identifier ∧
        template.operand? = template'.operand? ∧ isBranch line = isBranch line' ∧
        ∀ byte, template.assemblyText byte = template'.assemblyText byte) ∨
      ∃ fault, Template.parse line = .error ⟨line, fault⟩ ∧ Template.parse line' = .error ⟨line', fault⟩) ∧
    (Text.content line = Text.content line' →
      (∃ template template', Template.parse line = .ok template ∧ Template.parse line' = .ok template' ∧
        template.identifier = template'.identifier ∧ template.operand? = template'.operand?) ∨
      ∃ fault, Template.parse line = .error ⟨line, fault⟩ ∧ Template.parse line' = .error ⟨line', fault⟩) ∧
    ((Text.pieces line).head? = (Text.pieces line').head? → isBranch line = isBranch line') ∧
    ∀ template, Template.parse line = .ok template →
      (isBranch line = true ↔ ∃ letters : Text, template.mnemonic = 'j' :: letters ∧
        (letters.length = 1 ∨ letters.length = 2) ∧ ∀ c ∈ letters, 'a' ≤ c ∧ c ≤ 'z') := by
  have hbranch : (Text.pieces line).head? = (Text.pieces line').head? → isBranch line = isBranch line' := by
    intro hhead
    rw [isBranch_eq_head?, isBranch_eq_head?, hhead]
  refine ⟨?_, ?_, hbranch, ?_⟩
  · intro hpieces
    have hagree := Template.parse_of_pieces_eq hpieces
    rcases Template.parse_cases line with ⟨template, hparse⟩ | ⟨fault, hparse⟩
    · rw [hparse] at hagree
      exact .inl ⟨template, _, hparse, hagree, rfl, rfl, rfl, hbranch (by rw [hpieces]), fun _ => rfl⟩
    · rw [hparse] at hagree
      exact .inr ⟨fault, hparse, hagree⟩
  · intro hcontent
    rcases Template.parse_of_content_eq hcontent with ⟨template, template', hparse, hparse', hsame⟩ | hrejected
    · refine .inl ⟨template, template', hparse, hparse', ?_, ?_⟩
      · rw [Template.identifier_eq_content, hsame, ← Template.identifier_eq_content]
      · rw [Template.operand?_eq_content, hsame, ← Template.operand?_eq_content]
    · exact .inr hrejected
  · intro template hparse
    rw [isBranch_eq_head?, ← Template.mnemonic_eq_head? hparse, isNearJump_iff]

/-- Tabs, line separators and commas of all sorts around one move, and around an operand that does not
    exist. -/
theorem readings_depend_on_pieces_move :
    Text.pieces "mov\tr12,\u2028$u64" = Text.pieces "mov r12, $u64" ∧
      (∃ template template', Template.parse "mov\tr12,\u2028$u64" = .ok template ∧
        Template.parse "mov r12, $u64" = .ok template' ∧ template.tokens = template'.tokens) ∧
      Text.content "mov , r12 $u64,," = Text.content "mov r12, $u64" ∧
      (∃ template template', Template.parse "mov , r12 $u64,," = .ok template ∧
        Template.parse "mov r12, $u64" = .ok template' ∧ template.identifier = template'.identifier) ∧
      Text.content "mov ,, $f64," = Text.content "mov $f64" ∧
      ∃ fault, Template.parse "mov ,, $f64," = .error ⟨"mov ,, $f64,", fault⟩ ∧
        Template.parse "mov $f64" = .error ⟨"mov $f64", fault⟩ := by
  have hmove : ∃ template, Template.parse "mov r12, $u64" = .ok template := ⟨_, rfl⟩
  have hfloat : Template.parse "mov $f64" = .error ⟨"mov $f64", .unsupportedKind "f64"⟩ := rfl
  have hpieces : Text.pieces "mov\tr12,\u2028$u64" = Text.pieces "mov r12, $u64" := by decide
  have hcontent : Text.content "mov , r12 $u64,," = Text.content "mov r12, $u64" := by decide
  have hcontent' : Text.content "mov ,, $f64," = Text.content "mov $f64" := by decide
  obtain ⟨moved, hmoved⟩ := hmove
  refine ⟨hpieces, ?_, hcontent, ?_, hcontent', ?_⟩
  · rcases (readings_depend_on_pieces _ _).1 hpieces with
      ⟨template, template', hparse, hparse', htokens, _⟩ | ⟨fault, _, hfails⟩
    · exact ⟨template, template', hparse, hparse', htokens⟩
    · rw [hmoved] at hfails
      cases hfails
  · rcases (readings_depend_on_pieces _ _).2.1 hcontent with
      ⟨template, template', hparse, hparse', hname, _⟩ | ⟨fault, _, hfails⟩
    · exact ⟨template, template', hparse, hparse', hname⟩
    · rw [hmoved] at hfails
      cases hfails
  · rcases (readings_depend_on_pieces _ _).2.1 hcontent' with ⟨template, template', _, hparse', _⟩ | hrejected
    · rw [hfloat] at hparse'
      cases hparse'
    · exact hrejected

end InstrDecl

import InstrDecl.Proofs.Template.Grammar
import InstrDecl.Proofs.Text.Unbroken

namespace InstrDecl

/-- Cutting off commas stops at the first other character. -/
theorem Text.withoutCommas_append_commas {text : Text} (hlast : text.getLast? ≠ some ',') (commas : Nat) :
    Text.withoutCommas (text ++ List.replicate commas ',') = text := by
  induction commas with
  | zero =>
    rw [List.replicate_zero, List.append_nil]
    apply List.rdropWhile_eq_self_iff.mpr
    intro hne hcomma
    apply hlast
    rw [List.getLast?_eq_some_getLast hne, beq_iff_eq.mp hcomma]
  | succ commas ih =>
    rw [List.replicate_succ', ← List.append_assoc]
    exact (List.rdropWhile_concat_pos (· == ',') _ ',' rfl).trans ih

/-- A text that can stand for an operand: whatever commas follow it, it is read as a word. -/
structure Text.ReadsAsWord (text : Text) : Prop where
  nonempty : text ≠ []
  unbroken : text.Unbroken
  not_placeholder : text.head? ≠ some '$'
  not_memory : text.head? ≠ some '['
  no_comma : text.getLast? ≠ some ','

namespace Token

/-- The token with a word in place of an operand that is left open; the word may depend on the kind
    of the operand. -/
def settle (word : OperandKind → Text) (token : Token) : Token :=
  match token.lexeme with
  | .placeholder kind => { token with lexeme := .word (word kind) }
  | _ => token

variable {token : Token} {word : OperandKind → Text}

theorem settle_eq_of_kind? {kind : OperandKind} (hkind : token.kind? = some kind) :
    token.settle word = { token with lexeme := .word (word kind) } := by
  obtain ⟨lexeme, commas⟩ := token
  cases lexeme with
  | word text => cases hkind
  | memory interior => cases hkind
  | placeholder kind' =>
    cases hkind
    rfl

theorem settle_eq_self (hkind : token.kind? = none) : token.settle word = token := by
  obtain ⟨lexeme, commas⟩ := token
  cases lexeme with
  | word text => rfl
  | memory interior => rfl
  | placeholder kind => cases hkind

theorem kind?_settle (word : OperandKind → Text) (token : Token) : (token.settle word).kind? = none := by
  cases hkind : token.kind? with
  | none => rw [settle_eq_self hkind, hkind]
  | some kind => rw [settle_eq_of_kind? hkind, Token.kind?]

/-- To fill a placeholder is to write a word in its place. -/
theorem fill_eq_raw_settle (substitute : Text) (token : Token) :
    token.fill substitute = (token.settle fun _ => substitute).raw := by
  obtain ⟨lexeme, commas⟩ := token
  cases lexeme <;> rfl

/-- A token that comes from a line: as written it is a piece, and the piece is read as the token. -/
structure Legible (token : Token) : Prop where
  nonempty : token.raw ≠ []
  unbroken : token.raw.Unbroken
  read : Token.read token.raw = .ok token

/-- A token that was read can be written and read again. -/
theorem legible_of_read {source piece : Text} (hpiece : piece ∈ Text.pieces source)
    (hread : Token.read piece = .ok token) : token.Legible := by
  obtain ⟨hraw, _⟩ := read_eq_ok_iff.mp hread
  obtain ⟨hne, hunbroken⟩ := Text.ne_nil_and_unbroken_of_mem_pieces hpiece
  subst hraw
  exact ⟨hne, hunbroken, hread⟩

theorem unbroken_separator (token : Token) : Text.Unbroken token.separator := by
  intro c hc
  rw [List.eq_of_mem_replicate hc]
  rfl

/-- A token stays a piece of a line when its operand is replaced by something that could be one. -/
theorem Legible.raw_settle (hlegible : token.Legible) (hword : ∀ kind, word kind ≠ [] ∧ (word kind).Unbroken) :
    (token.settle word).raw ≠ [] ∧ (token.settle word).raw.Unbroken := by
  cases hkind : token.kind? with
  | none =>
    rw [settle_eq_self hkind]
    exact ⟨hlegible.nonempty, hlegible.unbroken⟩
  | some kind =>
    obtain ⟨hne, hunbroken⟩ := hword kind
    rw [settle_eq_of_kind? hkind]
    constructor
    · exact List.append_ne_nil_of_left_ne_nil hne _
    · exact hunbroken.append token.unbroken_separator

/-- A token stays legible if the words for placeholders are. -/
theorem Legible.settle (hlegible : token.Legible) (hword : ∀ kind, (word kind).ReadsAsWord) :
    (token.settle word).Legible := by
  obtain ⟨hne, hunbroken⟩ :=
    hlegible.raw_settle fun kind => ⟨(hword kind).nonempty, (hword kind).unbroken⟩
  refine ⟨hne, hunbroken, ?_⟩
  cases hkind : token.kind? with
  | none =>
    rw [settle_eq_self hkind]
    exact hlegible.read
  | some kind =>
    rw [settle_eq_of_kind? hkind]
    apply read_eq_ok_iff.mpr
    refine ⟨rfl, ?_, .word (hword kind).not_placeholder (hword kind).not_memory⟩
    exact (Text.withoutCommas_append_commas (hword kind).no_comma token.commas).symm

end Token

namespace Template

variable {source : Text} {template : Template}

theorem legible_of_parse (hparse : Template.parse source = .ok template) :
    ∀ token ∈ template.tokens, token.Legible := by
  intro token htoken
  obtain ⟨_, hread, _⟩ := Template.parse_eq_ok_iff.mp hparse
  obtain ⟨piece, hpiece, hpieceRead⟩ := exists_mem_left_of_mem_right hread htoken
  exact Token.legible_of_read hpiece hpieceRead

/-- A line of tokens has the tokens for its pieces, and no blank but the spaces between them. -/
theorem pieces_line {tokens : List Token} (hraw : ∀ token ∈ tokens, token.raw ≠ [] ∧ token.raw.Unbroken) :
    Text.pieces ([' '].intercalate (tokens.map (·.raw))) = tokens.map (·.raw) ∧
      ∀ c ∈ [' '].intercalate (tokens.map (·.raw)), Text.isBlank c = true → c = ' ' := by
  have hparts : ∀ part ∈ tokens.map (·.raw), part ≠ [] ∧ Text.Unbroken part := by
    intro part hpart
    obtain ⟨token, htoken, rfl⟩ := List.mem_map.mp hpart
    exact hraw token htoken
  constructor
  · exact Text.pieces_intercalate hparts
  · intro c hc hblank
    exact Text.eq_space_of_mem_intercalate (fun part hpart => (hparts part hpart).2) hc hblank

/-- Tokens that come from lines, with at most one placeholder among them, are read back from the
    line that they are written to. -/
theorem parse_line {tokens : List Token} (hlegible : ∀ token ∈ tokens, token.Legible)
    (hone : (tokens.filter (·.kind?.isSome)).length ≤ 1) :
    Template.parse ([' '].intercalate (tokens.map (·.raw))) =
      .ok ⟨[' '].intercalate (tokens.map (·.raw)), tokens⟩ := by
  have hraw : ∀ token ∈ tokens, token.raw ≠ [] ∧ token.raw.Unbroken :=
    fun token htoken => ⟨(hlegible token htoken).nonempty, (hlegible token htoken).unbroken⟩
  apply Template.parse_eq_ok_iff.mpr
  refine ⟨rfl, ?_, hone⟩
  rw [(pieces_line hraw).1, List.forall₂_map_left_iff, List.forall₂_same]
  exact fun token htoken => (hlegible token htoken).read

/-- There is at most one placeholder, so any two are the same. -/
theorem placeholder_unique (hparse : Template.parse source = .ok template) {token other : Token}
    (htoken : token ∈ template.tokens) (hother : other ∈ template.tokens) (hopen : token.kind?.isSome)
    (hopen' : other.kind?.isSome) : token = other := by
  obtain ⟨_, _, hone⟩ := Template.parse_eq_ok_iff.mp hparse
  have hmem : token ∈ template.tokens.filter (·.kind?.isSome) := List.mem_filter.mpr ⟨htoken, hopen⟩
  have hmem' : other ∈ template.tokens.filter (·.kind?.isSome) := List.mem_filter.mpr ⟨hother, hopen'⟩
  generalize template.tokens.filter (·.kind?.isSome) = placeholders at hone hmem hmem'
  match placeholders, hone with
  | [], _ => exact absurd hmem List.not_mem_nil
  | [first], _ => rw [List.mem_singleton.mp hmem, List.mem_singleton.mp hmem']

/-- The kind of the one placeholder is the operand of the template. -/
theorem operand?_eq_of_kind? (hparse : Template.parse source = .ok template) {token : Token} {kind : OperandKind}
    (htoken : token ∈ template.tokens) (hkind : token.kind? = some kind) : template.operand? = some kind := by
  cases hoperand : template.operand? with
  | none =>
    rw [List.findSome?_eq_none_iff.mp hoperand token htoken] at hkind
    cases hkind
  | some kind' =>
    obtain ⟨other, hother, hkind'⟩ := List.exists_of_findSome?_eq_some hoperand
    obtain rfl := placeholder_unique hparse htoken hother (Option.isSome_of_eq_some hkind)
      (Option.isSome_of_eq_some hkind')
    rw [← hkind, hkind']

/-- A template is written out as the line of its settled tokens, if the substitute is what the
    operand is settled to. -/
theorem fill_eq_line {word : OperandKind → Text} {substitute : Text}
    (hword : ∀ token ∈ template.tokens, ∀ kind, token.kind? = some kind → word kind = substitute) :
    template.fill substitute = [' '].intercalate ((template.tokens.map (·.settle word)).map (·.raw)) := by
  rw [Template.fill, List.map_map]
  congr 1
  apply List.map_congr_left
  intro token htoken
  rw [Token.fill_eq_raw_settle, Function.comp_apply]
  cases hkind : token.kind? with
  | none => rw [Token.settle_eq_self hkind, Token.settle_eq_self hkind]
  | some kind => rw [Token.settle_eq_of_kind? hkind, Token.settle_eq_of_kind? hkind, hword token htoken kind hkind]

/-- The pieces of a template that is written out are its tokens, if the substitute is a word. -/
theorem pieces_fill (hparse : Template.parse source = .ok template) {substitute : Text} (hne : substitute ≠ [])
    (hunbroken : substitute.Unbroken) :
    Text.pieces (template.fill substitute) = (template.tokens.map (·.settle fun _ => substitute)).map (·.raw) ∧
      ∀ c ∈ template.fill substitute, Text.isBlank c = true → c = ' ' := by
  rw [fill_eq_line fun _ _ _ _ => rfl]
  apply pieces_line
  intro token htoken
  obtain ⟨original, horiginal, rfl⟩ := List.mem_map.mp htoken
  exact (legible_of_parse hparse original horiginal).raw_settle fun _ => ⟨hne, hunbroken⟩

/-- With the placeholder's own text for the operand, a template is written as its tokens are. -/
theorem fill_text_eq_line (hparse : Template.parse source = .ok template) {substitute : Text}
    (hown : ∀ token, template.placeholder? = some token → substitute = token.text) :
    template.fill substitute = [' '].intercalate (template.tokens.map (·.raw)) := by
  rw [Template.fill]
  congr 1
  apply List.map_congr_left
  intro token htoken
  cases hkind : token.kind? with
  | none => rw [Token.fill_eq_raw_settle, Token.settle_eq_self hkind]
  | some kind =>
    have hopen : token.kind?.isSome := Option.isSome_of_eq_some hkind
    obtain ⟨first, hfirst⟩ : ∃ first, template.placeholder? = some first := by
      rw [← Option.isSome_iff_exists, Template.placeholder?, List.find?_isSome]
      exact ⟨token, htoken, hopen⟩
    have hfirstOpen : first.kind?.isSome := by
      rw [Template.placeholder?] at hfirst
      exact List.find?_some (p := fun token : Token => token.kind?.isSome) hfirst
    obtain rfl := placeholder_unique hparse htoken (List.mem_of_find?_eq_some hfirst) hopen hfirstOpen
    rw [Token.fill_eq_raw_settle, Token.settle_eq_of_kind? hkind, hown token hfirst]
    rfl

end Template

end InstrDecl

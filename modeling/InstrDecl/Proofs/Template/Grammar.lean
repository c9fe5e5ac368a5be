import InstrDecl.Proofs.Identifier.Plain
import InstrDecl.Proofs.Template.Parse
import Mathlib.Data.List.Count
import Mathlib.Data.List.DropRight

namespace InstrDecl

/-- The text keeps what its first character promises. -/
structure Text.Lexical (text : Text) : Prop where
  kind : text.head? = some '$' → ∃ kind : OperandKind, text = '$' :: kind.name
  closed : text.head? = some '[' → text.getLast? = some ']'

/-- How a text spells a lexeme. -/
inductive Lexeme.Spelling : Text → Lexeme → Prop
  | placeholder (kind : OperandKind) : Spelling ('$' :: kind.name) (.placeholder kind)
  | memory (interior : Text) : Spelling ('[' :: interior ++ [']']) (.memory interior)
  | word {text : Text} (hplaceholder : text.head? ≠ some '$') (hmemory : text.head? ≠ some '[') :
      Spelling text (.word text)

/-- What is wrong with a text that spells no lexeme. -/
inductive Lexeme.Misspelling : Text → TemplateFault → Prop
  | kind {name : Text} (hname : ∀ kind : OperandKind, kind.name ≠ name) :
      Misspelling ('$' :: name) (.unsupportedKind name)
  | memory {rest : Text} (hopen : ('[' :: rest).getLast? ≠ some ']') :
      Misspelling ('[' :: rest) (.unclosedMemory ('[' :: rest))

theorem OperandKind.ofName?_eq_some_iff {name : Text} {kind : OperandKind} :
    ofName? name = some kind ↔ kind.name = name := by
  constructor
  · intro hfound
    simpa using List.find?_some hfound
  · rintro rfl
    exact ofName?_name kind

/-- A name is refused exactly if no kind of operand has it, in its own case. -/
theorem OperandKind.ofName?_eq_none_iff {name : Text} :
    ofName? name = none ↔ ∀ kind : OperandKind, kind.name ≠ name := by
  simp only [Option.eq_none_iff_forall_ne_some, ne_eq, ofName?_eq_some_iff]

namespace Lexeme

theorem Spelling.text_eq {text : Text} {lexeme : Lexeme} (hspelling : Spelling text lexeme) :
    lexeme.text = text := by
  cases hspelling <;> rfl

theorem getLast?_cons_eq_closing_iff {rest : Text} :
    ('[' :: rest).getLast? = some ']' ↔ rest.getLast? = some ']' := by
  cases rest <;> simp

/-- The interior and its brackets are all of a memory operand. -/
theorem memory_interior {rest : Text} (hclosed : rest.getLast? = some ']') :
    '[' :: Text.interior ('[' :: rest) ++ [']'] = '[' :: rest := by
  have hrest : rest.dropLast ++ [']'] = rest := List.dropLast_append_getLast? _ hclosed
  rw [Text.interior, List.drop_one, List.tail_cons, List.cons_append, hrest]

theorem read_eq_ok_iff {text : Text} {lexeme : Lexeme} :
    Lexeme.read text = .ok lexeme ↔ Spelling text lexeme := by
  constructor
  · intro hread
    unfold Lexeme.read at hread
    split at hread
    · next name =>
      split at hread
      · next kind hkind =>
        cases hread
        rw [← OperandKind.ofName?_eq_some_iff.mp hkind]
        exact .placeholder kind
      · cases hread
    · next rest =>
      split at hread
      · next hclosed =>
        cases hread
        have hspelling := Spelling.memory (Text.interior ('[' :: rest))
        rwa [memory_interior hclosed] at hspelling
      · cases hread
    · next hplaceholder hmemory =>
      cases hread
      refine .word ?_ ?_
      · intro hhead
        obtain ⟨rest, rfl⟩ := List.head?_eq_some_iff.mp hhead
        exact hplaceholder rest rfl
      · intro hhead
        obtain ⟨rest, rfl⟩ := List.head?_eq_some_iff.mp hhead
        exact hmemory rest rfl
  · intro hspelling
    cases hspelling with
    | placeholder kind => simp only [Lexeme.read, OperandKind.ofName?_name]
    | memory interior => simp [Lexeme.read, Text.interior]
    | word hplaceholder hmemory =>
      unfold Lexeme.read
      split
      · exact absurd rfl hplaceholder
      · exact absurd rfl hmemory
      · rfl

theorem read_eq_error_iff {text : Text} {fault : TemplateFault} :
    Lexeme.read text = .error fault ↔ Misspelling text fault := by
  constructor
  · intro hread
    unfold Lexeme.read at hread
    split at hread
    · split at hread
      · cases hread
      · next hkind =>
        cases hread
        exact .kind (OperandKind.ofName?_eq_none_iff.mp hkind)
    · split at hread
      · cases hread
      · next hopen =>
        cases hread
        exact .memory (mt getLast?_cons_eq_closing_iff.mp hopen)
    · cases hread
  · intro hmisspelling
    cases hmisspelling with
    | kind hname => simp only [Lexeme.read, OperandKind.ofName?_eq_none_iff.mpr hname]
    | memory hopen => simp only [Lexeme.read, if_neg (mt getLast?_cons_eq_closing_iff.mpr hopen)]

/-- The texts that spell a lexeme are those that keep what their first character promises. -/
theorem exists_spelling_iff {text : Text} : (∃ lexeme, Spelling text lexeme) ↔ text.Lexical := by
  constructor
  · rintro ⟨lexeme, hspelling⟩
    cases hspelling with
    | placeholder kind => exact ⟨fun _ => ⟨kind, rfl⟩, by simp⟩
    | memory interior => exact ⟨by simp, fun _ => List.getLast?_concat⟩
    | word hplaceholder hmemory => exact ⟨fun h => absurd h hplaceholder, fun h => absurd h hmemory⟩
  · rintro ⟨hkind, hclosed⟩
    by_cases hplaceholder : text.head? = some '$'
    · obtain ⟨kind, rfl⟩ := hkind hplaceholder
      exact ⟨_, .placeholder kind⟩
    · by_cases hmemory : text.head? = some '['
      · obtain ⟨rest, rfl⟩ := List.head?_eq_some_iff.mp hmemory
        have hspelling := Spelling.memory (Text.interior ('[' :: rest))
        rw [memory_interior (getLast?_cons_eq_closing_iff.mp (hclosed hmemory))] at hspelling
        exact ⟨_, hspelling⟩
      · exact ⟨_, .word hplaceholder hmemory⟩

theorem Spelling.kind?_isSome {token : Token} (hspelling : Spelling token.text token.lexeme) :
    token.kind?.isSome = (token.text.head? == some '$') := by
  obtain ⟨lexeme, commas⟩ := token
  cases lexeme with
  | word text =>
    cases hspelling with
    | word hplaceholder _ => simpa [Token.kind?, Token.text, Lexeme.text] using hplaceholder
  | memory interior => rfl
  | placeholder kind => rfl

end Lexeme

/-- A piece is its text and the commas after it. -/
theorem Text.withoutCommas_append (piece : Text) :
    piece.withoutCommas ++ List.replicate (piece.length - piece.withoutCommas.length) ',' = piece := by
  have hsplit : piece.withoutCommas ++ piece.rtakeWhile (· == ',') = piece := List.rdropWhile_append_rtakeWhile
  have hcommas : piece.rtakeWhile (· == ',') =
      List.replicate (piece.length - piece.withoutCommas.length) ',' := by
    refine List.eq_replicate_iff.mpr ⟨?_, fun c hc => ?_⟩
    · have hlength := congrArg List.length hsplit
      rw [List.length_append] at hlength
      omega
    · simpa using List.mem_rtakeWhile_imp hc
  rw [← hcommas, hsplit]

namespace Token

/-- A piece is read as the token that is written like it and whose text spells its lexeme. -/
theorem read_eq_ok_iff {piece : Text} {token : Token} :
    Token.read piece = .ok token ↔
      token.raw = piece ∧ token.text = piece.withoutCommas ∧ Lexeme.Spelling token.text token.lexeme := by
  have hread : Token.read piece = (Lexeme.read piece.withoutCommas).map fun lexeme =>
    { lexeme, commas := piece.length - piece.withoutCommas.length } := rfl
  rw [hread]
  constructor
  · intro hok
    cases hlexeme : Lexeme.read piece.withoutCommas with
    | error fault =>
      rw [hlexeme] at hok
      cases hok
    | ok lexeme =>
      rw [hlexeme] at hok
      cases hok
      have hspelling := Lexeme.read_eq_ok_iff.mp hlexeme
      have htext : Token.text ⟨lexeme, piece.length - piece.withoutCommas.length⟩ = piece.withoutCommas :=
        hspelling.text_eq
      refine ⟨?_, htext, by rwa [htext]⟩
      rw [raw, htext]
      exact piece.withoutCommas_append
  · rintro ⟨hraw, htext, hspelling⟩
    have hcommas : token.commas = piece.length - piece.withoutCommas.length := by
      have hlength := congrArg List.length hraw
      rw [raw, htext, List.length_append, separator, List.length_replicate] at hlength
      omega
    rw [htext] at hspelling
    rw [Lexeme.read_eq_ok_iff.mpr hspelling, ← hcommas]
    rfl

theorem read_eq_error_iff {piece : Text} {fault : TemplateFault} :
    Token.read piece = .error fault ↔ Lexeme.Misspelling piece.withoutCommas fault := by
  have hread : Token.read piece = (Lexeme.read piece.withoutCommas).map fun lexeme =>
    { lexeme, commas := piece.length - piece.withoutCommas.length } := rfl
  rw [hread, ← Lexeme.read_eq_error_iff]
  cases Lexeme.read piece.withoutCommas <;> simp [Except.map]

/-- Whether a piece is a token is decided by what it is without its commas. -/
theorem exists_read_eq_ok_iff {piece : Text} :
    (∃ token, Token.read piece = .ok token) ↔ piece.withoutCommas.Lexical := by
  rw [← Lexeme.exists_spelling_iff]
  constructor
  · rintro ⟨token, hread⟩
    obtain ⟨_, htext, hspelling⟩ := read_eq_ok_iff.mp hread
    exact ⟨token.lexeme, htext ▸ hspelling⟩
  · rintro ⟨lexeme, hspelling⟩
    have hread : Token.read piece = (Lexeme.read piece.withoutCommas).map _ := rfl
    rw [Lexeme.read_eq_ok_iff.mpr hspelling] at hread
    exact ⟨_, hread⟩

theorem text_eq_of_kind? {token : Token} {kind : OperandKind} (hkind : token.kind? = some kind) :
    token.text = '$' :: kind.name := by
  obtain ⟨lexeme, commas⟩ := token
  cases lexeme with
  | word text => cases hkind
  | memory interior => cases hkind
  | placeholder kind' =>
    cases hkind
    rfl

/-- The texts of the placeholders tell their kinds. -/
theorem map_text_filter_kind? (tokens : List Token) :
    (tokens.filter (·.kind?.isSome)).map (·.text) = (tokens.filterMap (·.kind?)).map ('$' :: ·.name) := by
  induction tokens with
  | nil => rfl
  | cons token rest ih =>
    cases hkind : token.kind? with
    | none => simp [hkind, ih]
    | some kind => simp [hkind, ih, text_eq_of_kind? hkind]

end Token

namespace Template

variable {pieces : List Text} {tokens : List Token}

theorem map_text_eq (hread : List.Forall₂ (fun piece token => Token.read piece = .ok token) pieces tokens) :
    tokens.map (·.text) = pieces.map Text.withoutCommas := by
  induction hread with
  | nil => rfl
  | cons hfirst _ ih => rw [List.map_cons, List.map_cons, ih, (Token.read_eq_ok_iff.mp hfirst).2.1]

/-- The pieces that start with a dollar sign are the placeholders among the tokens, and each of
    these is written with the name of its kind. -/
theorem filter_texts_eq (hread : List.Forall₂ (fun piece token => Token.read piece = .ok token) pieces tokens) :
    (pieces.map Text.withoutCommas).filter (·.head? == some '$') =
      (tokens.filterMap (·.kind?)).map ('$' :: ·.name) := by
  rw [← map_text_eq hread, List.filter_map, ← Token.map_text_filter_kind?]
  congr 1
  refine List.filter_congr fun token htoken => ?_
  obtain ⟨piece, _, hpiece⟩ := exists_mem_left_of_mem_right hread htoken
  exact (Token.read_eq_ok_iff.mp hpiece).2.2.kind?_isSome.symm

/-- There are as many placeholders as pieces that begin with their mark. -/
theorem length_filter_texts (hread : List.Forall₂ (fun piece token => Token.read piece = .ok token) pieces tokens) :
    ((pieces.map Text.withoutCommas).filter (·.head? == some '$')).length =
      (tokens.filter (·.kind?.isSome)).length := by
  rw [filter_texts_eq hread, ← Token.map_text_filter_kind?, List.length_map]

theorem exists_forall₂_read_iff :
    (∃ tokens, List.Forall₂ (fun piece token => Token.read piece = .ok token) pieces tokens) ↔
      ∀ text ∈ pieces.map Text.withoutCommas, text.Lexical := by
  simp only [← mapM_eq_ok_iff, List.forall_mem_map, ← Token.exists_read_eq_ok_iff]
  constructor
  · rintro ⟨tokens, hok⟩ piece hpiece
    exact exists_of_mem_left (mapM_eq_ok_iff.mp hok) hpiece
  · exact exists_mapM_eq_ok

/-- Of several pieces that are no tokens, the first decides the fault. -/
theorem mapM_read_eq_error_iff {fault : TemplateFault} :
    pieces.mapM Token.read = .error fault ↔
      ∃ (number : Nat) (text : Text), (pieces.map Text.withoutCommas)[number]? = some text ∧
        Lexeme.Misspelling text fault ∧
        ∀ earlier < number, ∀ text : Text, (pieces.map Text.withoutCommas)[earlier]? = some text → text.Lexical := by
  simp only [List.getElem?_map, Option.map_eq_some_iff]
  constructor
  · intro hfails
    obtain ⟨number, piece, hpiece, hmisread, hbefore⟩ := exists_of_mapM_eq_error hfails
    refine ⟨number, piece.withoutCommas, ⟨piece, hpiece, rfl⟩, Token.read_eq_error_iff.mp hmisread, ?_⟩
    rintro earlier hlt text ⟨other, hother, rfl⟩
    exact Token.exists_read_eq_ok_iff.mp (hbefore earlier hlt other hother)
  · rintro ⟨number, text, ⟨piece, hpiece, rfl⟩, hmisspelling, hbefore⟩
    refine mapM_eq_error hpiece (Token.read_eq_error_iff.mpr hmisspelling) fun earlier hlt other hother => ?_
    exact Token.exists_read_eq_ok_iff.mpr (hbefore earlier hlt _ ⟨other, hother, rfl⟩)

/-- The placeholders are counted only if all pieces are tokens, and then the fault names all of them in
    order. -/
theorem mapM_read_several_iff {fault : TemplateFault} :
    (∃ tokens, pieces.mapM Token.read = .ok tokens ∧ 1 < (tokens.filter (·.kind?.isSome)).length ∧
        fault = .severalPlaceholders ((tokens.filter (·.kind?.isSome)).map (·.text))) ↔
      (∀ text ∈ pieces.map Text.withoutCommas, text.Lexical) ∧
        1 < ((pieces.map Text.withoutCommas).filter (·.head? == some '$')).length ∧
        fault = .severalPlaceholders ((pieces.map Text.withoutCommas).filter (·.head? == some '$')) := by
  rw [← exists_forall₂_read_iff]
  constructor
  · rintro ⟨tokens, htokens, hseveral, hfault⟩
    have hread := mapM_eq_ok_iff.mp htokens
    refine ⟨⟨tokens, hread⟩, hseveral.trans_eq (length_filter_texts hread).symm, ?_⟩
    rw [hfault, Token.map_text_filter_kind?, ← filter_texts_eq hread]
  · rintro ⟨⟨tokens, hread⟩, hseveral, hfault⟩
    refine ⟨tokens, mapM_eq_ok_iff.mpr hread, hseveral.trans_eq (length_filter_texts hread), ?_⟩
    rw [hfault, Token.map_text_filter_kind?, ← filter_texts_eq hread]

/-- The two ways for a template to be rejected; the error names the template as it was written. -/
theorem parse_eq_error_iff {source : Text} {e : TemplateError} :
    Template.parse source = .error e ↔ e.template = source ∧
      ((Text.pieces source).mapM Token.read = .error e.fault ∨
        ∃ tokens, (Text.pieces source).mapM Token.read = .ok tokens ∧
          1 < (tokens.filter (·.kind?.isSome)).length ∧
          e.fault = .severalPlaceholders ((tokens.filter (·.kind?.isSome)).map (·.text))) := by
  obtain ⟨template, fault⟩ := e
  rw [Template.parse]
  cases (Text.pieces source).mapM Token.read with
  | error fault' => simp [eq_comm]
  | ok tokens =>
    dsimp only
    split
    · next hseveral => simp [hseveral, eq_comm]
    · next hone => simp [hone]

theorem operand?_eq_head? (template : Template) :
    template.operand? = (template.tokens.filterMap (·.kind?)).head? :=
  List.head?_filterMap.symm

/-- Of at most one placeholder, the operand is its kind. -/
theorem operand?_eq_some_iff_count {template : Template} {kind : OperandKind}
    (hread : List.Forall₂ (fun piece token => Token.read piece = .ok token) pieces template.tokens)
    (hone : (template.tokens.filter (·.kind?.isSome)).length ≤ 1) :
    template.operand? = some kind ↔ (pieces.map Text.withoutCommas).count ('$' :: kind.name) = 1 := by
  have hcount : (pieces.map Text.withoutCommas).count ('$' :: kind.name) =
      (template.tokens.filterMap (·.kind?)).count kind := by
    rw [← List.count_filter (p := (·.head? == some '$')) rfl, filter_texts_eq hread]
    exact List.count_map_of_injective _ _
      (fun _ _ hsame => OperandKind.name_injective (List.cons.inj hsame).2) kind
  have hkinds : (template.tokens.filterMap (·.kind?)).length ≤ 1 := by
    rwa [← List.length_map, ← Token.map_text_filter_kind?, List.length_map]
  rw [operand?_eq_head?, hcount]
  generalize template.tokens.filterMap (·.kind?) = kinds at hkinds ⊢
  match kinds, hkinds with
  | [], _ => simp
  | [first], _ => by_cases hfirst : first = kind <;> simp [hfirst]

/-- A template leaves no operand open exactly if none of its pieces begins with the mark of a placeholder. -/
theorem operand?_eq_none_iff_texts {template : Template}
    (hread : List.Forall₂ (fun piece token => Token.read piece = .ok token) pieces template.tokens) :
    template.operand? = none ↔ ∀ text ∈ pieces.map Text.withoutCommas, text.head? ≠ some '$' := by
  have hnone : (pieces.map Text.withoutCommas).filter (·.head? == some '$') = [] ↔
      template.tokens.filterMap (·.kind?) = [] := by
    rw [filter_texts_eq hread, List.map_eq_nil_iff]
  rw [operand?_eq_head?, List.head?_eq_none_iff, ← hnone, List.filter_eq_nil_iff]
  simp only [beq_iff_eq, ne_eq]

/-- A template is read exactly when every piece, its commas aside, keeps what its first character
    promises and at most one starts with a dollar sign. Then there is one token for each piece, in
    order and with nothing lost, and the operand is that of the piece with the dollar sign. If not,
    the first piece that is at fault decides the error; only without one are the placeholders
    counted, and all of them are listed. -/
theorem parse_accepts_grammar (source : Text) :
    let texts := (Text.pieces source).map Text.withoutCommas
    let placeholders := texts.filter (·.head? == some '$')
    ((∃ template, Template.parse source = .ok template) ↔
      (∀ text ∈ texts, text.Lexical) ∧ placeholders.length ≤ 1) ∧
    (∀ template, Template.parse source = .ok template →
      template.source = source ∧
      List.Forall₂ (fun piece token => token.raw = piece ∧ token.text = piece.withoutCommas ∧
        token.text ++ token.separator = piece ∧ (∀ c ∈ token.separator, c = ',') ∧
        Lexeme.Spelling token.text token.lexeme) (Text.pieces source) template.tokens ∧
      (∀ kind, template.operand? = some kind ↔ texts.count ('$' :: kind.name) = 1) ∧
      (template.operand? = none ↔ ∀ text ∈ texts, text.head? ≠ some '$')) ∧
    ∀ e, Template.parse source = .error e ↔ e.template = source ∧
      ((∃ (number : Nat) (text : Text), texts[number]? = some text ∧ Lexeme.Misspelling text e.fault ∧
        ∀ earlier < number, ∀ text : Text, texts[earlier]? = some text → text.Lexical) ∨
      ((∀ text ∈ texts, text.Lexical) ∧ 1 < placeholders.length ∧
        e.fault = .severalPlaceholders placeholders)) := by
  refine ⟨⟨?_, ?_⟩, ?_, ?_⟩
  · rintro ⟨template, hparse⟩
    obtain ⟨_, hread, hone⟩ := Template.parse_eq_ok_iff.mp hparse
    exact ⟨exists_forall₂_read_iff.mp ⟨_, hread⟩, (length_filter_texts hread).trans_le hone⟩
  · rintro ⟨hall, hone⟩
    obtain ⟨tokens, hread⟩ := exists_forall₂_read_iff.mpr hall
    exact ⟨⟨source, tokens⟩,
      Template.parse_eq_ok_iff.mpr ⟨rfl, hread, (length_filter_texts hread).symm.trans_le hone⟩⟩
  · intro template hparse
    obtain ⟨hsource, hread, hone⟩ := Template.parse_eq_ok_iff.mp hparse
    refine ⟨hsource, hread.imp ?_, fun kind => operand?_eq_some_iff_count hread hone,
      operand?_eq_none_iff_texts hread⟩
    intro piece token hpiece
    obtain ⟨hraw, htext, hspelling⟩ := Token.read_eq_ok_iff.mp hpiece
    exact ⟨hraw, htext, hraw, fun c hc => List.eq_of_mem_replicate hc, hspelling⟩
  · intro e
    rw [parse_eq_error_iff, mapM_read_eq_error_iff, mapM_read_several_iff]

/-- Commas after a memory operand are no part of it; a bracket that is not closed comes before a
    kind that there is not. -/
theorem parse_accepts_grammar_mov :
    (∃ template, Template.parse "mov [rax+8],, $i32" = .ok template ∧ template.operand? = some .i32 ∧
      template.tokens.map (·.separator) = [[], [',', ','], []]) ∧
    Template.parse "mov [rax+8 $f64" = .error ⟨"mov [rax+8 $f64", .unclosedMemory "[rax+8"⟩ := by
  constructor
  · obtain ⟨_, hok, _⟩ := parse_accepts_grammar "mov [rax+8],, $i32"
    have hparse : Template.parse "mov [rax+8],, $i32" = .ok ⟨"mov [rax+8],, $i32",
      [⟨.word "mov", 0⟩, ⟨.memory "rax+8", 2⟩, ⟨.placeholder .i32, 0⟩]⟩ := rfl
    exact ⟨_, hparse, ((hok _ hparse).2.2.1 .i32).mpr (by decide), rfl⟩
  · refine ((parse_accepts_grammar _).2.2 _).mpr ⟨rfl, .inl ⟨1, "[rax+8", rfl, .memory (by decide), ?_⟩⟩
    intro earlier hlt text htext
    obtain rfl : earlier = 0 := by omega
    obtain rfl : ("mov" : Text) = text := Option.some.inj htext
    exact ⟨fun hhead => absurd hhead (by decide), fun hhead => absurd hhead (by decide)⟩

end Template

end InstrDecl

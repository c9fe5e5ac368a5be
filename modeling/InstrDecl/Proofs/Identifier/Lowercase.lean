import InstrDecl.Proofs.Template.Grammar
import InstrDecl.Proofs.Text.Lowercase
import InstrDecl.Proofs.Text.Settled

namespace InstrDecl

open Text (Settled asciiLower)

/-- What stands between the brackets of a memory operand. -/
def Lexeme.interior? : Lexeme → Option Text
  | memory interior => some interior
  | _ => none

/-- For each token of a template what stands between its brackets, if it is a memory operand. -/
def Template.interiors (template : Template) : List (Option Text) :=
  template.tokens.map (·.lexeme.interior?)

/-- A token that adds nothing to a name is passed over, with its joint. -/
theorem segments_cons (token : Token) (rest : List Token) :
    segments (token :: rest) =
      if token.lexeme.segment = [] then segments rest else token.lexeme.segment :: segments rest := by
  unfold segments
  cases hsegment : token.lexeme.segment <;> simp [hsegment]

section Settled

/-- The word for a plus sign is in lowercase already. -/
theorem settled_spellPlus_iff {text : Text} :
    (∀ c ∈ Text.spellPlus text, Settled c) ↔ ∀ c ∈ text, Settled c := by
  constructor
  · intro hspelled c hc
    by_cases hplus : c = '+'
    · rw [hplus]
      decide
    · exact hspelled c (List.mem_flatMap.mpr ⟨c, hc, by rw [if_neg hplus]; exact List.mem_singleton_self c⟩)
  · intro htext d hd
    obtain ⟨c, hc, hmem⟩ := List.mem_flatMap.mp hd
    split at hmem
    · exact Text.lower_eq_self_iff.mp (rfl : Text.lower "_plus_" = "_plus_") d hmem
    · rw [List.mem_singleton.mp hmem]
      exact htext c hc

/-- Only a memory operand can bring a capital into a name. -/
theorem Lexeme.settled_segment_iff {lexeme : Lexeme} :
    (∀ c ∈ lexeme.segment, Settled c) ↔
      ∀ interior, lexeme.interior? = some interior → Text.lower interior = interior := by
  cases lexeme with
  | word text =>
    constructor
    · intro _ interior hnone
      cases hnone
    · intro _ c hc
      exact Text.settled_of_mem_lower hc
  | memory interior =>
    have hptr := Text.lower_eq_self_iff.mp (rfl : Text.lower "ptr_" = "ptr_")
    simp only [segment, interior?, Option.some.injEq, forall_eq', List.forall_mem_append, Text.lower_eq_self_iff,
      settled_spellPlus_iff, and_iff_right hptr]
  | placeholder kind =>
    constructor
    · intro _ interior hnone
      cases hnone
    · intro _
      exact Text.lower_eq_self_iff.mp (by cases kind <;> rfl)

/-- A name is in lowercase exactly if what each token adds to it is. -/
theorem Template.settled_identifier_iff {template : Template} :
    (∀ c ∈ template.identifier, Settled c) ↔
      ∀ token ∈ template.tokens, ∀ c ∈ token.lexeme.segment, Settled c := by
  constructor
  · intro hidentifier token htoken c hc
    have hkept : token.lexeme.segment ∈ segments template.tokens := by
      refine List.mem_filter.mpr ⟨List.mem_map.mpr ⟨token, htoken, rfl⟩, ?_⟩
      simpa using List.ne_nil_of_mem hc
    exact hidentifier c (Text.mem_intercalate_of_mem hkept hc)
  · intro htokens c hc
    rcases Text.mem_of_mem_intercalate hc with hunderscore | ⟨segment, hsegment, hmem⟩
    · rw [List.mem_singleton.mp hunderscore]
      decide
    · obtain ⟨token, htoken, rfl⟩ := List.mem_map.mp (List.mem_filter.mp hsegment).1
      exact htokens token htoken c hmem

end Settled

section AsciiCase

/-- The lexeme with small letters for the capital letters of ASCII. -/
def Lexeme.asciiLower : Lexeme → Lexeme
  | word text => word (Text.asciiLower text)
  | memory interior => memory (Text.asciiLower interior)
  | placeholder kind => placeholder kind

theorem head?_asciiLower_ne {text : Text} {mark : Char} (hmark : ∀ c : Char, c.toLower = mark ↔ c = mark)
    (hhead : text.head? ≠ some mark) : (asciiLower text).head? ≠ some mark := by
  rw [asciiLower, List.head?_map]
  intro hsome
  obtain ⟨c, hc, hlower⟩ := Option.map_eq_some_iff.mp hsome
  rw [(hmark c).mp hlower] at hc
  exact hhead hc

/-- Small letters leave a lexeme what it is: its marks have no case. -/
theorem Lexeme.Spelling.asciiLower {text : Text} {lexeme : Lexeme} (hspelling : Lexeme.Spelling text lexeme) :
    Lexeme.Spelling (Text.asciiLower text) lexeme.asciiLower := by
  cases hspelling with
  | placeholder kind =>
    have hname : Text.asciiLower ('$' :: kind.name) = '$' :: kind.name := by cases kind <;> rfl
    rw [hname]
    exact .placeholder kind
  | memory interior =>
    have hbrackets : Text.asciiLower ('[' :: interior ++ [']']) = '[' :: Text.asciiLower interior ++ [']'] :=
      List.map_append
    rw [hbrackets]
    exact .memory _
  | word hplaceholder hmemory =>
    exact .word (head?_asciiLower_ne (Text.toLower_eq_mark_iff (by decide)) hplaceholder)
      (head?_asciiLower_ne (Text.toLower_eq_mark_iff (by decide)) hmemory)

theorem withoutCommas_asciiLower (piece : Text) :
    (asciiLower piece).withoutCommas = asciiLower piece.withoutCommas := by
  refine Text.dropEndWhile_asciiLower (fun c => ?_) piece
  rw [Bool.eq_iff_iff, beq_iff_eq, beq_iff_eq, Text.toLower_eq_mark_iff (by decide)]

/-- The lexemes of a template are also read, but for the case of their letters, if the line has small
    letters instead of capitals. -/
theorem Template.mapM_read_asciiLower {source : Text} {template : Template}
    (hparse : Template.parse source = .ok template) :
    (Text.pieces (asciiLower source)).mapM (fun piece => Lexeme.read piece.withoutCommas) =
      .ok (template.tokens.map (·.lexeme.asciiLower)) := by
  rw [mapM_eq_ok_iff, Text.pieces_asciiLower, List.forall₂_map_left_iff, List.forall₂_map_right_iff]
  refine (Template.parse_eq_ok_iff.mp hparse).2.1.imp fun piece token hread => ?_
  obtain ⟨_, htext, hspelling⟩ := Token.read_eq_ok_iff.mp hread
  rw [withoutCommas_asciiLower, ← htext, Lexeme.read_eq_ok_iff]
  exact hspelling.asciiLower

/-- Templates that differ in the case of ASCII letters have lexemes that do. -/
theorem Template.lexemes_asciiLower_eq {source source' : Text} {template template' : Template}
    (hparse : Template.parse source = .ok template) (hparse' : Template.parse source' = .ok template')
    (hcase : asciiLower source = asciiLower source') :
    template.tokens.map (·.lexeme.asciiLower) = template'.tokens.map (·.lexeme.asciiLower) := by
  have hread := mapM_read_asciiLower hparse
  rw [hcase, mapM_read_asciiLower hparse'] at hread
  exact (Except.ok.inj hread).symm

/-- Memory operands that differ in case take as much room in a name, and are spelled alike only if
    they are the same. -/
theorem spellPlus_of_asciiLower_eq {text text' : Text} (hcase : asciiLower text = asciiLower text') :
    (Text.spellPlus text).length = (Text.spellPlus text').length ∧
      (Text.spellPlus text = Text.spellPlus text' ↔ text = text') := by
  induction text generalizing text' with
  | nil =>
    obtain rfl : text' = [] := List.map_eq_nil_iff.mp hcase.symm
    exact ⟨rfl, Iff.rfl⟩
  | cons c rest ih =>
    cases text' with
    | nil => cases hcase
    | cons c' rest' =>
      obtain ⟨hc, hrest⟩ := List.cons.inj hcase
      obtain ⟨hlength, hspelled⟩ := ih hrest
      have hplus : c = '+' ↔ c' = '+' := by
        rw [← Text.toLower_eq_mark_iff (by decide) c, hc, Text.toLower_eq_mark_iff (by decide)]
      have hcons : ∀ (c : Char) (rest : Text), Text.spellPlus (c :: rest) =
          (if c = '+' then ("_plus_" : Text) else [c]) ++ Text.spellPlus rest := fun _ _ => List.flatMap_cons
      rw [hcons, hcons, List.length_append, List.length_append, hlength, List.cons.injEq, ← hspelled]
      by_cases hc' : c' = '+'
      · rw [if_pos hc', hplus.mpr hc', hc', if_pos rfl]
        exact ⟨rfl, by simp⟩
      · rw [if_neg hc', if_neg (mt hplus.mp hc')]
        exact ⟨rfl, by simp⟩

/-- Lexemes that differ in case at most add equally long parts to a name, and the same ones unless they are
    memory operands that differ. -/
theorem Lexeme.segment_of_asciiLower_eq {lexeme lexeme' : Lexeme} (hcase : lexeme.asciiLower = lexeme'.asciiLower) :
    lexeme.segment.length = lexeme'.segment.length ∧
      (lexeme.segment = lexeme'.segment ↔ lexeme.interior? = lexeme'.interior?) := by
  cases lexeme with
  | word text =>
    cases lexeme' with
    | word text' =>
      have hlower : Text.lower text = Text.lower text' := by
        rw [← Text.lower_asciiLower text, Lexeme.word.inj hcase, Text.lower_asciiLower]
      exact ⟨congrArg List.length hlower, iff_of_true hlower rfl⟩
    | memory | placeholder => cases hcase
  | memory interior =>
    cases lexeme' with
    | memory interior' =>
      obtain ⟨hlength, hspelled⟩ := spellPlus_of_asciiLower_eq (Lexeme.memory.inj hcase)
      simp only [segment, interior?, List.length_append, hlength, List.append_cancel_left_eq, hspelled,
        Option.some.injEq, and_self]
    | word | placeholder => cases hcase
  | placeholder kind =>
    cases lexeme' with
    | placeholder kind' =>
      obtain rfl := Lexeme.placeholder.inj hcase
      exact ⟨rfl, iff_of_true rfl rfl⟩
    | word | memory => cases hcase

theorem segments_of_asciiLower_eq {tokens tokens' : List Token}
    (hcase : List.Forall₂ (fun token token' => token.lexeme.asciiLower = token'.lexeme.asciiLower) tokens tokens') :
    List.Forall₂ (fun segment segment' => segment.length = segment'.length) (segments tokens) (segments tokens') ∧
      (segments tokens = segments tokens' ↔
        tokens.map (·.lexeme.interior?) = tokens'.map (·.lexeme.interior?)) := by
  induction hcase with
  | nil => exact ⟨.nil, iff_of_true rfl rfl⟩
  | @cons token token' rest rest' hfirst _ ih =>
    obtain ⟨hlengths, hsegments⟩ := ih
    obtain ⟨hlength, hsegment⟩ := Lexeme.segment_of_asciiLower_eq hfirst
    have hempty : token.lexeme.segment = [] ↔ token'.lexeme.segment = [] := by
      rw [← List.length_eq_zero_iff, hlength, List.length_eq_zero_iff]
    rw [List.map_cons, List.map_cons, List.cons.injEq, ← hsegment, ← hsegments, segments_cons, segments_cons]
    by_cases hnone : token.lexeme.segment = []
    · rw [if_pos hnone, if_pos (hempty.mp hnone), hnone, hempty.mp hnone]
      exact ⟨hlengths, (and_iff_right rfl).symm⟩
    · rw [if_neg hnone, if_neg (mt hempty.mpr hnone), List.cons.injEq]
      exact ⟨.cons hlength hlengths, Iff.rfl⟩

end AsciiCase

/-- The name of an instruction is in lowercase but for its memory operands. It is its own lowercase form
    exactly if what stands in every memory operand is. And templates that differ in the case of ASCII
    letters only have the same name exactly if they do not differ in a memory operand. -/
theorem Template.identifier_lowercase_but_for_memory (template : Template) :
    (Text.lower template.identifier = template.identifier ↔
      ∀ interior, some interior ∈ template.interiors → Text.lower interior = interior) ∧
    ∀ source source' template', Template.parse source = .ok template → Template.parse source' = .ok template' →
      asciiLower source = asciiLower source' →
      (template.identifier = template'.identifier ↔ template.interiors = template'.interiors) := by
  constructor
  · rw [Text.lower_eq_self_iff, Template.settled_identifier_iff]
    constructor
    · intro htokens interior hinterior
      obtain ⟨token, htoken, hsome⟩ := List.mem_map.mp hinterior
      exact Lexeme.settled_segment_iff.mp (htokens token htoken) interior hsome
    · intro hinteriors token htoken
      refine Lexeme.settled_segment_iff.mpr fun interior hsome => ?_
      exact hinteriors interior (List.mem_map.mpr ⟨token, htoken, hsome⟩)
  · intro source source' template' hparse hparse' hcase
    have hlexemes := (map_eq_map_iff_forall₂ fun _ _ _ _ => Iff.rfl).mp
      (Template.lexemes_asciiLower_eq hparse hparse' hcase)
    obtain ⟨hlengths, hsegments⟩ := segments_of_asciiLower_eq hlexemes
    exact (Text.intercalate_eq_iff hlengths).trans hsegments

/-- Words may be written in either case if the memory operand is in lowercase. -/
theorem Template.identifier_lowercase_but_for_memory_move :
    ∃ template template', Template.parse "mov RAX, [rbx+8], $i32" = .ok template ∧
      Template.parse "MOV rax, [rbx+8], $i32" = .ok template' ∧
      Text.lower template.identifier = template.identifier ∧ template.identifier = template'.identifier := by
  obtain ⟨template, hparse, hinteriors⟩ : ∃ template, Template.parse "mov RAX, [rbx+8], $i32" = .ok template ∧
      template.interiors = [none, none, some ("rbx+8" : Text), none] := ⟨_, rfl, by decide⟩
  obtain ⟨template', hparse', hinteriors'⟩ : ∃ template, Template.parse "MOV rax, [rbx+8], $i32" = .ok template ∧
      template.interiors = [none, none, some ("rbx+8" : Text), none] := ⟨_, rfl, by decide⟩
  obtain ⟨hlowercase, hsame⟩ := identifier_lowercase_but_for_memory template
  refine ⟨template, template', hparse, hparse', hlowercase.mpr ?_,
    (hsame _ _ _ hparse hparse' (by decide)).mpr (hinteriors.trans hinteriors'.symm)⟩
  intro interior hinterior
  rw [hinteriors] at hinterior
  obtain rfl : interior = "rbx+8" := by simpa using hinterior
  decide

/-- The capitals of a memory operand are kept in the name, so another name is given to the template with
    small letters. -/
theorem Template.memory_operand_keeps_capitals :
    (Instruction.derive "mov [RAX], $i32").map (·.identifier) = .ok "mov_ptr_RAX_i32" ∧
      Text.lower "mov_ptr_RAX_i32" = "mov_ptr_rax_i32" ∧
      asciiLower "mov [RAX], $i32" = asciiLower "mov [rax], $i32" ∧
      (Instruction.derive "mov [rax], $i32").map (·.identifier) = .ok "mov_ptr_rax_i32" :=
  ⟨by decide, by decide, by decide, by decide⟩

end InstrDecl

import InstrDecl.Instruction
import InstrDecl.Proofs.Text.Lowercase
import InstrDecl.Proofs.Text.Split

namespace InstrDecl

/-- The atoms of a lexeme in a name. An underscore joins the tokens of a name as well as the terms inside a
    memory operand, so a name is one row of atoms. -/
def Lexeme.atoms : Lexeme → List Text
  | word text => [Text.lower text]
  | memory interior => "ptr" :: (Text.splitWhere (· == '+') interior).intersperse "plus"
  | placeholder .label => []
  | placeholder kind => [kind.name]

/-- The lexemes that a name tells of, which are all but labels. -/
def Template.named (template : Template) : List Lexeme :=
  (template.tokens.map (·.lexeme)).filter (· ≠ .placeholder .label)

theorem spellPlus_of_not_mem {text : Text} (hplus : '+' ∉ text) : Text.spellPlus text = text := by
  induction text with
  | nil => rfl
  | cons c rest ih =>
    rw [List.mem_cons, not_or] at hplus
    have hne : c ≠ '+' := Ne.symm hplus.1
    rw [Text.spellPlus, List.flatMap_cons, if_neg hne]
    exact congrArg (c :: ·) (ih hplus.2)

/-- To spell out the plus signs between terms is to join the terms and the word in turn. -/
theorem spellPlus_intercalate {terms : List Text} (hplus : ∀ term ∈ terms, '+' ∉ term) :
    Text.spellPlus (['+'].intercalate terms) = ['_'].intercalate (terms.intersperse "plus") := by
  induction terms with
  | nil => rfl
  | cons term rest ih =>
    have hterm := spellPlus_of_not_mem (hplus term List.mem_cons_self)
    have hrest := ih fun term hmem => hplus term (List.mem_cons_of_mem _ hmem)
    cases rest with
    | nil => simpa using hterm
    | cons next rest =>
      have happend : ∀ a b : Text, Text.spellPlus (a ++ b) = Text.spellPlus a ++ Text.spellPlus b :=
        fun a b => List.flatMap_append
      have hspelled : Text.spellPlus ['+'] = ['_'] ++ ("plus" ++ ['_']) := rfl
      rw [List.intercalate_cons_cons, happend, happend, hterm, hrest, hspelled, List.intersperse_cons_cons,
        List.intercalate_cons_cons, List.intercalate_cons_of_ne_nil (by cases rest <;> simp)]
      simp only [List.append_assoc]

/-- What a lexeme adds to a name is its atoms, joined as the whole name is. -/
theorem Lexeme.segment_eq_intercalate_atoms (lexeme : Lexeme) :
    lexeme.segment = ['_'].intercalate lexeme.atoms := by
  cases lexeme with
  | word text => simp [segment, atoms]
  | memory interior =>
    have hsplit : Text.splitWhere (· == '+') interior = interior.splitOn '+' := by
      rw [Text.splitWhere_eq_splitOnP, List.splitOn_eq_splitOnP]
    have hplus : ∀ term ∈ Text.splitWhere (· == '+') interior, '+' ∉ term := by
      intro term hterm hmem
      simpa using Text.eq_false_of_mem_splitWhere hterm '+' hmem
    have hspell := spellPlus_intercalate hplus
    rw [hsplit, List.intercalate_splitOn] at hspell
    have hne : (interior.splitOn '+').intersperse ("plus" : Text) ≠ [] := by
      obtain ⟨term, terms, hterms⟩ := List.exists_cons_of_ne_nil (List.splitOn_ne_nil '+' interior)
      rw [hterms]
      cases terms <;> simp
    rw [segment, atoms, hsplit, List.intercalate_cons_of_ne_nil hne, ← hspell]
    rfl
  | placeholder kind => cases kind <;> rfl

end InstrDecl

import InstrDecl.Proofs.Identifier.Atoms
import Mathlib.Data.List.Basic

namespace InstrDecl

/-- A text of ASCII letters and digits, and not empty. -/
def Text.IsAlphanumeric (text : Text) : Prop :=
  text ≠ [] ∧ ∀ c ∈ text, c.isAlphanum = true

/-- The words that stand for something else in a name. -/
def reservedWords : List Text :=
  ["ptr", "plus", "i8", "u8", "i32", "u32", "u64", "addr"]

/-- The lexemes of the intended language: words that are not reserved, and memory operands that
    are sums. -/
def Lexeme.Plain : Lexeme → Prop
  | word text => text.IsAlphanumeric ∧ Text.lower text ∉ reservedWords
  | memory interior =>
    ∃ terms : List Text, terms ≠ [] ∧ (∀ term ∈ terms, term.IsAlphanumeric) ∧ interior = ['+'].intercalate terms
  | placeholder _ => True

theorem toNat_lt_of_isAlphanum {c : Char} (hc : c.isAlphanum = true) : c.toNat < 128 := by
  delta Char.isAlphanum Char.isAlpha Char.isUpper Char.isLower Char.isDigit at hc
  simp only [Bool.or_eq_true, Bool.and_eq_true, decide_eq_true_eq, ge_iff_le, UInt32.le_iff_toNat_le] at hc
  have hval : c.val.toNat = c.toNat := rfl
  have hletters : 'Z'.val.toNat = 90 ∧ 'z'.val.toNat = 122 ∧ '9'.val.toNat = 57 := by decide
  omega

/-- No letter or digit is the joint of a name, in lowercase either. -/
theorem toLower_ne_underscore {c : Char} (hc : c.isAlphanum = true) : c.toLower ≠ '_' := by
  refine Text.ascii_forall (p := fun c => c.isAlphanum = true → c.toLower ≠ '_') ?_ c (toNat_lt_of_isAlphanum hc) hc
  decide

theorem Text.IsAlphanumeric.not_mem {text : Text} {c : Char} (htext : text.IsAlphanumeric)
    (hc : c.isAlphanum = false) : c ∉ text := by
  intro hmem
  rw [htext.2 c hmem] at hc
  cases hc

theorem Text.IsAlphanumeric.lower_eq {text : Text} (htext : text.IsAlphanumeric) :
    Text.lower text = text.map Char.toLower :=
  Text.lower_eq_map fun c hc => toNat_lt_of_isAlphanum (htext.2 c hc)

/-- All kinds of operand but labels show in a name, by a word that nothing else may be. -/
theorem OperandKind.name_mem_reservedWords {kind : OperandKind} (hkind : kind ≠ .label) :
    kind.name ∈ reservedWords := by
  cases kind with
  | label => exact absurd rfl hkind
  | _ => decide

theorem OperandKind.name_injective {kind kind' : OperandKind} (hname : kind.name = kind'.name) : kind = kind' := by
  have hfound := ofName?_name kind
  rw [hname, ofName?_name] at hfound
  exact (Option.some.inj hfound).symm

/-- The terms of a plain memory operand are what stands between its plus signs. -/
theorem Lexeme.atoms_memory {terms : List Text} (hne : terms ≠ [])
    (hterms : ∀ term ∈ terms, term.IsAlphanumeric) :
    (Lexeme.memory (['+'].intercalate terms)).atoms = ("ptr" : Text) :: terms.intersperse ("plus" : Text) := by
  rw [atoms, Text.splitWhere_intercalate hne fun term hterm => (hterms term hterm).not_mem rfl]

theorem Lexeme.atoms_placeholder {kind : OperandKind} (hkind : kind ≠ .label) :
    (Lexeme.placeholder kind).atoms = [kind.name] := by
  cases kind with
  | label => exact absurd rfl hkind
  | _ => rfl

/-- A memory operand is plain if its terms are letters and digits. -/
theorem Lexeme.plain_memory_iff {interior : Text} :
    (memory interior).Plain ↔ ∀ term ∈ Text.splitWhere (· == '+') interior, term.IsAlphanumeric := by
  constructor
  · rintro ⟨terms, hne, hterms, rfl⟩
    rwa [Text.splitWhere_intercalate hne fun term hterm => (hterms term hterm).not_mem rfl]
  · intro hterms
    refine ⟨_, Text.splitWhere_ne_nil _ interior, hterms, ?_⟩
    rw [Text.splitWhere_eq_splitOnP, ← List.splitOn_eq_splitOnP, List.intercalate_splitOn]

instance : DecidablePred Text.IsAlphanumeric := fun text =>
  have := List.decidableBAll (fun c : Char => c.isAlphanum = true) text
  inferInstanceAs (Decidable (text ≠ [] ∧ ∀ c ∈ text, c.isAlphanum = true))

instance : DecidablePred Lexeme.Plain
  | .word text => inferInstanceAs (Decidable (text.IsAlphanumeric ∧ Text.lower text ∉ reservedWords))
  | .memory _ => decidable_of_iff _ Lexeme.plain_memory_iff.symm
  | .placeholder _ => inferInstanceAs (Decidable True)

/-- The atoms of a plain lexeme can be told apart in a name. -/
theorem Lexeme.Plain.atom_sound {lexeme : Lexeme} (hplain : lexeme.Plain) :
    ∀ atom ∈ lexeme.atoms, atom ≠ [] ∧ '_' ∉ atom := by
  have hreserved : ∀ word ∈ reservedWords, word ≠ [] ∧ '_' ∉ word := by decide
  cases lexeme with
  | word text =>
    obtain ⟨htext, _⟩ := hplain
    intro atom hatom
    obtain rfl : atom = text.map Char.toLower := by simpa [atoms, htext.lower_eq] using hatom
    refine ⟨by simpa using htext.1, ?_⟩
    intro hmem
    obtain ⟨c, hc, hlower⟩ := List.mem_map.mp hmem
    exact toLower_ne_underscore (htext.2 c hc) hlower
  | memory interior =>
    obtain ⟨terms, hne, hterms, rfl⟩ := hplain
    rw [atoms_memory hne hterms]
    intro atom hatom
    rcases List.mem_cons.mp hatom with rfl | hatom
    · exact hreserved _ (by decide)
    · rcases Text.mem_of_mem_intersperse hatom with rfl | hterm
      · exact hreserved _ (by decide)
      · exact ⟨(hterms atom hterm).1, (hterms atom hterm).not_mem rfl⟩
  | placeholder kind =>
    by_cases hkind : kind = .label
    · subst hkind
      simp [atoms]
    · rw [atoms_placeholder hkind]
      intro atom hatom
      obtain rfl := List.mem_singleton.mp hatom
      exact hreserved _ (OperandKind.name_mem_reservedWords hkind)

/-- All lexemes but a label have an atom. -/
theorem Lexeme.atoms_ne_nil {lexeme : Lexeme} (hlabel : lexeme ≠ .placeholder .label) : lexeme.atoms ≠ [] := by
  cases lexeme with
  | word text => simp [atoms]
  | memory interior => simp [atoms]
  | placeholder kind =>
    rw [atoms_placeholder fun h => hlabel (by rw [h])]
    simp

/-- A plus sign joins the terms of one memory operand only. -/
theorem head?_atoms_ne_plus {lexemes : List Lexeme}
    (hplain : ∀ lexeme ∈ lexemes, lexeme.Plain ∧ lexeme ≠ .placeholder .label) :
    (lexemes.flatMap Lexeme.atoms).head? ≠ some ("plus" : Text) := by
  cases lexemes with
  | nil => simp
  | cons lexeme rest =>
    obtain ⟨hlexeme, hlabel⟩ := hplain lexeme List.mem_cons_self
    rw [List.flatMap_cons, List.head?_append_of_ne_nil _ (Lexeme.atoms_ne_nil hlabel)]
    cases lexeme with
    | word text =>
      intro hhead
      have hlower : Text.lower text = "plus" := Option.some.inj hhead
      exact hlexeme.2 (by rw [hlower]; decide)
    | memory interior =>
      intro hhead
      exact absurd (Option.some.inj hhead) (by decide)
    | placeholder kind => cases kind <;> decide

end InstrDecl

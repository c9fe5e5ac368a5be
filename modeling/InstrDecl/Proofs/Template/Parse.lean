import InstrDecl.Instruction
import InstrDecl.Proofs.Traversal

namespace InstrDecl

/-- A template is read exactly when every piece is a token and at most one is a placeholder. -/
theorem Template.parse_eq_ok_iff {source : Text} {template : Template} :
    Template.parse source = .ok template ↔
      template.source = source ∧
      List.Forall₂ (fun piece token => Token.read piece = .ok token) (Text.pieces source) template.tokens ∧
      (template.tokens.filter (·.kind?.isSome)).length ≤ 1 := by
  obtain ⟨source', tokens⟩ := template
  rw [← mapM_eq_ok_iff, Template.parse]
  cases (Text.pieces source).mapM Token.read with
  | error fault => simp
  | ok read =>
    dsimp only
    split
    · next hseveral =>
      constructor
      · intro h
        cases h
      · rintro ⟨_, htokens, hone⟩
        cases htokens
        omega
    · next hone =>
      constructor
      · intro h
        cases h
        exact ⟨rfl, rfl, by omega⟩
      · rintro ⟨rfl, htokens, _⟩
        cases htokens
        rfl

theorem Template.parse_error_template {source : Text} {e : TemplateError}
    (hparse : Template.parse source = .error e) : e.template = source := by
  unfold Template.parse at hparse
  split at hparse
  · cases hparse
    rfl
  · dsimp only at hparse
    split at hparse
    · cases hparse
      rfl
    · cases hparse

/-- What an instruction is made of: all but the branch flag is told from the template, and that is told from
    the line itself. -/
theorem Instruction.derive_eq_ok_iff {source : Text} {instruction : Instruction} :
    Instruction.derive source = .ok instruction ↔
      Template.parse source = .ok instruction.template ∧
      instruction.identifier = instruction.template.identifier ∧
      instruction.operand = instruction.template.operand? ∧ instruction.isBranch = isBranch source := by
  obtain ⟨⟨identifier, operand, branch⟩, template⟩ := instruction
  unfold Instruction.derive
  cases Template.parse source with
  | error e => simp [Except.map]
  | ok parsed =>
    constructor
    · intro h
      cases h
      exact ⟨rfl, rfl, rfl, rfl⟩
    · rintro ⟨hparsed, hidentifier, hoperand, hbranch⟩
      dsimp only at hparsed hidentifier hoperand hbranch
      cases hparsed
      subst hidentifier hoperand hbranch
      rfl

/-- There is an instruction for every template that can be read. -/
theorem Instruction.derive_eq_error_iff {source : Text} {e : TemplateError} :
    Instruction.derive source = .error e ↔ Template.parse source = .error e := by
  unfold Instruction.derive
  cases Template.parse source <;> simp [Except.map]

theorem Instruction.exists_derive_eq_ok {source : Text} {template : Template}
    (hparse : Template.parse source = .ok template) : ∃ instruction, Instruction.derive source = .ok instruction := by
  unfold Instruction.derive
  rw [hparse]
  exact ⟨_, rfl⟩

/-- The near jumps are a `j` and one or two lowercase letters of the alphabet. -/
theorem isNearJump_iff {text : Text} :
    isNearJump text = true ↔ ∃ letters : Text, text = 'j' :: letters ∧
      (letters.length = 1 ∨ letters.length = 2) ∧ ∀ c ∈ letters, 'a' ≤ c ∧ c ≤ 'z' := by
  have hlower : ∀ c : Char, c.isLower = true ↔ 'a' ≤ c ∧ c ≤ 'z' := by
    intro c
    delta Char.isLower
    rw [Bool.and_eq_true, decide_eq_true_iff, decide_eq_true_iff]
    exact Iff.rfl
  constructor
  · intro hjump
    unfold isNearJump at hjump
    split at hjump
    · next a => exact ⟨[a], rfl, .inl rfl, by simpa [hlower] using hjump⟩
    · next a b => exact ⟨[a, b], rfl, .inr rfl, by simpa [hlower] using hjump⟩
    · cases hjump
  · rintro ⟨letters, rfl, hlength, hletters⟩
    match letters, hlength with
    | [a], _ => simpa [isNearJump, hlower] using hletters
    | [a, b], _ => simpa [isNearJump, hlower] using hletters

/-- Branches are told by the mnemonic as written: a small j and one or two more small letters. -/
theorem isBranch_iff {source : Text} :
    isBranch source = true ↔ ∃ letters : Text, (Text.pieces source).head? = some ('j' :: letters) ∧
      (letters.length = 1 ∨ letters.length = 2) ∧ ∀ c ∈ letters, 'a' ≤ c ∧ c ≤ 'z' := by
  unfold isBranch
  cases Text.pieces source with
  | nil => simp
  | cons piece rest =>
    simp only [isNearJump_iff, List.head?_cons, Option.some.injEq]

end InstrDecl

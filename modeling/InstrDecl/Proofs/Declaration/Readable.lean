import InstrDecl.Proofs.Declaration.Fields
import InstrDecl.Proofs.Traversal

namespace InstrDecl.Declaration

/-- An encoder is one line, if the name is. -/
theorem newline_not_mem_encoder {signature : Signature} (hname : Text.Unbroken signature.identifier)
    (opcode : Bytes) : '\n' ∉ encoder signature opcode := by
  have hhead : ∀ isBranch, '\n' ∉ encoderHead isBranch := by decide
  have htype : ∀ operand, '\n' ∉ typeField operand := by
    rintro (_ | _ | _ | _ | _ | _ | _ | _) <;> decide
  have hend : '\n' ∉ (");" : Text) := by decide
  rw [encoder_eq_fields]
  simp only [List.mem_append, List.mem_cons, not_or]
  exact ⟨⟨⟨hhead _, hname.not_mem rfl⟩, by decide⟩, by decide, htype _,
    not_mem_byteArray (by decide) (by decide) opcode, hend⟩

theorem newline_not_mem_prototype {signature : Signature} (hname : Text.Unbroken signature.identifier) :
    '\n' ∉ prototype signature := by
  have hparameter : ∀ operand, '\n' ∉ parameterField operand := by
    rintro (_ | _ | _ | _ | _ | _ | _ | _) <;> decide
  have hstart : '\n' ∉ ("fn " : Text) ∧ '\n' ∉ ("(&mut" : Text) := by decide
  rw [prototype_eq_fields]
  simp only [List.mem_append, List.mem_cons, not_or]
  exact ⟨hstart.1, ⟨hname.not_mem rfl, hstart.2⟩, by decide, hparameter _⟩

/-- An encoder tells everything it was made of; only the operand of a branch is not in it. -/
theorem encoder_eq_encoder_iff {signature signature' : Signature} {opcode opcode' : Bytes}
    (hname : Text.Unbroken signature.identifier) (hname' : Text.Unbroken signature'.identifier) :
    encoder signature opcode = encoder signature' opcode' ↔
      signature.isBranch = signature'.isBranch ∧ signature.identifier = signature'.identifier ∧
        opcode = opcode' ∧ (signature.isBranch = false → signature.operand = signature'.operand) := by
  have hhead : ∀ isBranch, Text.Unbroken (encoderHead isBranch) := by decide
  have hcomma : Text.Unbroken [','] := by decide
  have htype : ∀ operand, '[' ∉ typeField operand := by
    rintro (_ | _ | _ | _ | _ | _ | _ | _) <;> decide
  have hbracket : ∀ opcode, ∃ rest, byteArray opcode ++ ");" = '[' :: rest := fun opcode => ⟨_, rfl⟩
  rw [encoder_eq_fields, encoder_eq_fields]
  constructor
  · intro hsame
    -- up to the first space: the name; up to the first bracket after it: the type
    obtain ⟨hfirst, hsecond⟩ := Text.append_cons_injective
      ((((hhead _).append hname).append hcomma).not_mem rfl)
      ((((hhead _).append hname').append hcomma).not_mem rfl) hsame
    obtain ⟨hbranch, hidentifier⟩ := encoderHead_append_injective (List.append_cancel_right hfirst)
    obtain ⟨rest, hrest⟩ := hbracket opcode
    obtain ⟨rest', hrest'⟩ := hbracket opcode'
    rw [hrest, hrest'] at hsecond
    obtain ⟨hfield, htail⟩ := Text.append_cons_injective (htype _) (htype _) hsecond
    have hoperand := typeField_injective hfield
    have hbytes : byteArray opcode ++ ");" = byteArray opcode' ++ ");" := by rw [hrest, hrest', htail]
    refine ⟨hbranch, hidentifier, byteArray_injective (List.append_cancel_right hbytes), ?_⟩
    intro hplain
    rw [Signature.encodedOperand, Signature.encodedOperand, ← hbranch, hplain] at hoperand
    exact hoperand
  · rintro ⟨hbranch, hidentifier, rfl, hoperand⟩
    have hencoded : signature.encodedOperand = signature'.encodedOperand := by
      rw [Signature.encodedOperand, Signature.encodedOperand, ← hbranch]
      cases hcase : signature.isBranch with
      | true => rfl
      | false => exact hoperand hcase
    rw [hbranch, hidentifier, hencoded]

/-- A prototype tells everything it was made of. -/
theorem prototype_eq_prototype_iff {signature signature' : Signature}
    (hname : Text.Unbroken signature.identifier) (hname' : Text.Unbroken signature'.identifier) :
    prototype signature = prototype signature' ↔
      signature.identifier = signature'.identifier ∧ signature.operand = signature'.operand := by
  have hself : Text.Unbroken "(&mut" := by decide
  rw [prototype_eq_fields, prototype_eq_fields]
  constructor
  · intro hsame
    obtain ⟨hfirst, hfield⟩ := Text.append_cons_injective ((hname.append hself).not_mem rfl)
      ((hname'.append hself).not_mem rfl) (List.append_cancel_left hsame)
    exact ⟨List.append_cancel_right hfirst, parameterField_injective hfield⟩
  · rintro ⟨hidentifier, hoperand⟩
    rw [hidentifier, hoperand]

variable {α : Type} {f : α → Text} {items items' : List α} {indent : Text}

/-- The lines of a block are its declarations, each after the indent, and nothing follows the last. -/
theorem splitWhere_block (hindent : '\n' ∉ indent) (hline : ∀ item ∈ items, '\n' ∉ f item) :
    Text.splitWhere (· == '\n') (block indent (items.map f)) = items.map (indent ++ f ·) ++ [[]] := by
  induction items with
  | nil => rfl
  | cons item rest ih =>
    have hrest := ih fun item hitem => hline item (List.mem_cons_of_mem _ hitem)
    have hfirst : ∀ c ∈ indent ++ f item, (c == '\n') = false := by
      intro c hc
      rw [beq_eq_false_iff_ne]
      rintro rfl
      rcases List.mem_append.mp hc with hmem | hmem
      · exact hindent hmem
      · exact hline item List.mem_cons_self hmem
    have hblock : block indent ((item :: rest).map f) = (indent ++ f item) ++ '\n' :: block indent (rest.map f) := by
      simp [block]
    rw [Text.splitWhere_eq_splitOnP] at hrest ⊢
    rw [hblock, List.splitOnP_append_cons_of_forall_mem hfirst '\n' rfl, hrest]
    rfl

/-- Blocks are equal exactly when their declarations are, one by one. -/
theorem block_eq_block_iff {S : α → α → Prop} (hindent : '\n' ∉ indent)
    (hline : ∀ item ∈ items, '\n' ∉ f item) (hline' : ∀ item ∈ items', '\n' ∉ f item)
    (hsame : ∀ item ∈ items, ∀ item' ∈ items', f item = f item' ↔ S item item') :
    block indent (items.map f) = block indent (items'.map f) ↔ List.Forall₂ S items items' := by
  constructor
  · intro hblock
    have hlines := congrArg (Text.splitWhere (· == '\n')) hblock
    rw [splitWhere_block hindent hline, splitWhere_block hindent hline'] at hlines
    refine (map_eq_map_iff_forall₂ ?_).mp (List.append_cancel_right hlines)
    intro item hitem item' hitem'
    rw [List.append_right_inj]
    exact hsame item hitem item' hitem'
  · intro hall
    rw [(map_eq_map_iff_forall₂ hsame).mpr hall]

end InstrDecl.Declaration

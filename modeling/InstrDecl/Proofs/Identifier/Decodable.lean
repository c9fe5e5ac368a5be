import InstrDecl.Proofs.Identifier.Plain
import InstrDecl.Proofs.Template.Parse

namespace InstrDecl

/-- The lexemes say the same, the case of letters in words apart. -/
def Lexeme.Alike : Lexeme → Lexeme → Prop
  | word first, word second => first.map Char.toLower = second.map Char.toLower
  | memory first, memory second => first = second
  | placeholder first, placeholder second => first = second
  | _, _ => False

/-- The terms of a memory operand end where no plus sign follows. -/
theorem intersperse_append_injective {terms terms' rest rest' : List Text} (hne : terms ≠ [])
    (hne' : terms' ≠ []) (hrest : rest.head? ≠ some ("plus" : Text)) (hrest' : rest'.head? ≠ some ("plus" : Text))
    (hsame : terms.intersperse ("plus" : Text) ++ rest = terms'.intersperse ("plus" : Text) ++ rest') :
    terms = terms' ∧ rest = rest' := by
  induction terms generalizing terms' with
  | nil => exact absurd rfl hne
  | cons term more ih =>
    obtain ⟨term', more', rfl⟩ := List.exists_cons_of_ne_nil hne'
    cases more with
    | nil =>
      cases more' with
      | nil =>
        simp only [List.intersperse_singleton, List.singleton_append, List.cons.injEq] at hsame
        exact ⟨by rw [hsame.1], hsame.2⟩
      | cons next' more' =>
        simp only [List.intersperse_singleton, List.intersperse_cons_cons, List.cons_append, List.nil_append,
          List.cons.injEq] at hsame
        exact absurd (by rw [hsame.2]; rfl) hrest
    | cons next more =>
      cases more' with
      | nil =>
        simp only [List.intersperse_singleton, List.intersperse_cons_cons, List.cons_append, List.nil_append,
          List.cons.injEq] at hsame
        exact absurd (by rw [← hsame.2]; rfl) hrest'
      | cons next' more' =>
        simp only [List.intersperse_cons_cons, List.cons_append, List.cons.injEq, true_and] at hsame
        obtain ⟨hmore, htail⟩ := ih (by simp) (by simp) hsame.2
        exact ⟨by rw [hsame.1, hmore], htail⟩

/-- The first atom of a row says what the first lexeme is and where it ends. -/
theorem alike_of_atoms_append_eq {lexeme lexeme' : Lexeme} {rest rest' : List Text} (hplain : lexeme.Plain)
    (hplain' : lexeme'.Plain) (hlabel : lexeme ≠ .placeholder .label) (hlabel' : lexeme' ≠ .placeholder .label)
    (hrest : rest.head? ≠ some ("plus" : Text)) (hrest' : rest'.head? ≠ some ("plus" : Text))
    (hatoms : lexeme.atoms ++ rest = lexeme'.atoms ++ rest') : lexeme.Alike lexeme' ∧ rest = rest' := by
  cases lexeme with
  | word text =>
    have hword : ∀ word ∈ reservedWords, Text.lower text ≠ word := by
      rintro word hword rfl
      exact hplain.2 hword
    cases lexeme' with
    | word text' =>
      obtain ⟨hlower, htail⟩ := List.cons.inj hatoms
      rw [hplain.1.lower_eq, hplain'.1.lower_eq] at hlower
      exact ⟨hlower, htail⟩
    | memory interior' => exact absurd (List.cons.inj hatoms).1 (hword _ (by decide))
    | placeholder kind' =>
      have hkind' : kind' ≠ .label := fun h => hlabel' (by rw [h])
      rw [Lexeme.atoms_placeholder hkind'] at hatoms
      exact absurd (List.cons.inj hatoms).1 (hword _ (OperandKind.name_mem_reservedWords hkind'))
  | memory interior =>
    obtain ⟨terms, hne, hterms, rfl⟩ := hplain
    rw [Lexeme.atoms_memory hne hterms] at hatoms
    cases lexeme' with
    | word text' =>
      have hlower : ("ptr" : Text) = Text.lower text' := (List.cons.inj hatoms).1
      exact absurd (by rw [← hlower]; decide) hplain'.2
    | memory interior' =>
      obtain ⟨terms', hne', hterms', rfl⟩ := hplain'
      rw [Lexeme.atoms_memory hne' hterms'] at hatoms
      obtain ⟨rfl, htail⟩ := intersperse_append_injective hne hne' hrest hrest' (List.cons.inj hatoms).2
      exact ⟨rfl, htail⟩
    | placeholder kind' =>
      have hname : ("ptr" : Text) ≠ kind'.name := by cases kind' <;> decide
      rw [Lexeme.atoms_placeholder fun h => hlabel' (by rw [h])] at hatoms
      exact absurd (List.cons.inj hatoms).1 hname
  | placeholder kind =>
    have hkind : kind ≠ .label := fun h => hlabel (by rw [h])
    rw [Lexeme.atoms_placeholder hkind] at hatoms
    cases lexeme' with
    | word text' =>
      have hlower : kind.name = Text.lower text' := (List.cons.inj hatoms).1
      exact absurd (by rw [← hlower]; exact OperandKind.name_mem_reservedWords hkind) hplain'.2
    | memory interior' =>
      have hname : kind.name ≠ "ptr" := by cases kind <;> decide
      exact absurd (List.cons.inj hatoms).1 hname
    | placeholder kind' =>
      rw [Lexeme.atoms_placeholder fun h => hlabel' (by rw [h])] at hatoms
      obtain ⟨hname, htail⟩ := List.cons.inj hatoms
      exact ⟨OperandKind.name_injective hname, htail⟩

/-- A row of atoms can be decoded lexeme by lexeme. -/
theorem forall₂_alike_of_atoms_eq {lexemes lexemes' : List Lexeme}
    (hplain : ∀ lexeme ∈ lexemes, lexeme.Plain ∧ lexeme ≠ .placeholder .label)
    (hplain' : ∀ lexeme ∈ lexemes', lexeme.Plain ∧ lexeme ≠ .placeholder .label)
    (hatoms : lexemes.flatMap Lexeme.atoms = lexemes'.flatMap Lexeme.atoms) :
    List.Forall₂ Lexeme.Alike lexemes lexemes' := by
  induction lexemes generalizing lexemes' with
  | nil =>
    cases lexemes' with
    | nil => exact .nil
    | cons lexeme' rest' =>
      obtain ⟨_, hlabel'⟩ := hplain' lexeme' List.mem_cons_self
      simp [Lexeme.atoms_ne_nil hlabel'] at hatoms
  | cons lexeme rest ih =>
    obtain ⟨hlexeme, hlabel⟩ := hplain lexeme List.mem_cons_self
    have hrest := fun lexeme hmem => hplain lexeme (List.mem_cons_of_mem _ hmem)
    cases lexemes' with
    | nil => simp [Lexeme.atoms_ne_nil hlabel] at hatoms
    | cons lexeme' rest' =>
      obtain ⟨hlexeme', hlabel'⟩ := hplain' lexeme' List.mem_cons_self
      have hrest' := fun lexeme hmem => hplain' lexeme (List.mem_cons_of_mem _ hmem)
      rw [List.flatMap_cons, List.flatMap_cons] at hatoms
      obtain ⟨halike, htail⟩ := alike_of_atoms_append_eq hlexeme hlexeme' hlabel hlabel'
        (head?_atoms_ne_plus hrest) (head?_atoms_ne_plus hrest') hatoms
      exact .cons halike (ih hrest hrest' htail)

/-- Lexemes that are alike have the same atoms, so one of them can stand for the other in a name. -/
theorem Lexeme.Alike.atoms_eq {lexeme lexeme' : Lexeme} (halike : lexeme.Alike lexeme')
    (hplain : lexeme.Plain) (hplain' : lexeme'.Plain) : lexeme.atoms = lexeme'.atoms := by
  cases lexeme with
  | word text =>
    cases lexeme' with
    | word text' =>
      rw [Alike] at halike
      rw [atoms, atoms, hplain.1.lower_eq, hplain'.1.lower_eq, halike]
    | memory _ | placeholder _ => exact absurd halike id
  | memory interior =>
    cases lexeme' with
    | memory interior' =>
      obtain rfl : interior = interior' := halike
      rfl
    | word _ | placeholder _ => exact absurd halike id
  | placeholder kind =>
    cases lexeme' with
    | placeholder kind' =>
      obtain rfl : kind = kind' := halike
      rfl
    | word _ | memory _ => exact absurd halike id

theorem atoms_eq_of_forall₂_alike {lexemes lexemes' : List Lexeme}
    (hplain : ∀ lexeme ∈ lexemes, lexeme.Plain) (hplain' : ∀ lexeme ∈ lexemes', lexeme.Plain)
    (halike : List.Forall₂ Lexeme.Alike lexemes lexemes') :
    lexemes.flatMap Lexeme.atoms = lexemes'.flatMap Lexeme.atoms := by
  induction halike with
  | nil => rfl
  | cons hfirst _ ih =>
    rw [List.flatMap_cons, List.flatMap_cons,
      hfirst.atoms_eq (hplain _ List.mem_cons_self) (hplain' _ List.mem_cons_self),
      ih (fun lexeme hmem => hplain lexeme (List.mem_cons_of_mem _ hmem))
        fun lexeme hmem => hplain' lexeme (List.mem_cons_of_mem _ hmem)]

/-- Of the plain lexemes only a label adds nothing to a name. -/
theorem Lexeme.segment_isEmpty_of_plain {lexeme : Lexeme} (hplain : lexeme.Plain) :
    (!lexeme.segment.isEmpty) = decide (lexeme ≠ .placeholder .label) := by
  by_cases hlabel : lexeme = .placeholder .label
  · subst hlabel
    rfl
  · obtain ⟨atom, atoms, hatoms⟩ := List.exists_cons_of_ne_nil (atoms_ne_nil hlabel)
    have hatom : atom ≠ [] := (hplain.atom_sound atom (by rw [hatoms]; exact List.mem_cons_self)).1
    rw [segment_eq_intercalate_atoms, hatoms]
    cases atoms <;> simp [hatom, hlabel]

theorem Template.plain_of_mem_named {template : Template}
    (hplain : ∀ token ∈ template.tokens, token.lexeme.Plain) :
    ∀ lexeme ∈ template.named, lexeme.Plain ∧ lexeme ≠ .placeholder .label := by
  intro lexeme hlexeme
  rw [named, List.mem_filter, List.mem_map, decide_eq_true_eq] at hlexeme
  obtain ⟨⟨token, htoken, rfl⟩, hlabel⟩ := hlexeme
  exact ⟨hplain token htoken, hlabel⟩

/-- The atoms of plain templates are not empty and hold no joint, so they can be told apart in a name. -/
theorem Template.atom_sound {template : Template} (hplain : ∀ token ∈ template.tokens, token.lexeme.Plain) :
    ∀ atom ∈ template.named.flatMap Lexeme.atoms, atom ≠ [] ∧ '_' ∉ atom := by
  intro atom hatom
  obtain ⟨lexeme, hlexeme, hmem⟩ := List.mem_flatMap.mp hatom
  exact (plain_of_mem_named hplain lexeme hlexeme).1.atom_sound atom hmem

/-- The name of a plain template is one row of atoms. -/
theorem Template.identifier_eq_intercalate_atoms {template : Template}
    (hplain : ∀ token ∈ template.tokens, token.lexeme.Plain) :
    template.identifier = ['_'].intercalate (template.named.flatMap Lexeme.atoms) := by
  have hsegments : segments template.tokens = template.named.map Lexeme.segment := by
    have hkept : ∀ token ∈ template.tokens,
        (!token.lexeme.segment.isEmpty) = decide (token.lexeme ≠ .placeholder .label) :=
      fun token htoken => Lexeme.segment_isEmpty_of_plain (hplain token htoken)
    rw [segments, named, List.filter_map, List.filter_map, List.map_map]
    exact congrArg _ (List.filter_congr hkept)
  have hrows : ∀ row ∈ template.named.map Lexeme.atoms, row ≠ [] := by
    intro row hrow
    obtain ⟨lexeme, hlexeme, rfl⟩ := List.mem_map.mp hrow
    obtain ⟨_, hlabel⟩ := plain_of_mem_named hplain lexeme hlexeme
    exact Lexeme.atoms_ne_nil hlabel
  calc template.identifier
      = ['_'].intercalate (template.named.map Lexeme.segment) := by rw [identifier, hsegments]
    _ = ['_'].intercalate ((template.named.map Lexeme.atoms).map ['_'].intercalate) := by
      rw [List.map_map]
      exact congrArg _ (List.map_congr_left fun lexeme _ => lexeme.segment_eq_intercalate_atoms)
    _ = ['_'].intercalate (template.named.flatMap Lexeme.atoms) := by
      rw [Text.intercalate_map_intercalate hrows, List.flatMap_def]

/-- In the intended language two lines describe instructions of the same name exactly when, labels
    left out, they have the same tokens in the same order, the case of letters in words apart. -/
theorem Instruction.identifier_eq_iff_alike {source source' : Text} {instruction instruction' : Instruction}
    (hderive : Instruction.derive source = .ok instruction)
    (hderive' : Instruction.derive source' = .ok instruction')
    (hplain : ∀ token ∈ instruction.template.tokens, token.lexeme.Plain)
    (hplain' : ∀ token ∈ instruction'.template.tokens, token.lexeme.Plain) :
    instruction.identifier = instruction'.identifier ↔
      List.Forall₂ Lexeme.Alike instruction.template.named instruction'.template.named := by
  have hnamed := Template.plain_of_mem_named hplain
  have hnamed' := Template.plain_of_mem_named hplain'
  obtain ⟨_, hidentifier, _⟩ := Instruction.derive_eq_ok_iff.mp hderive
  obtain ⟨_, hidentifier', _⟩ := Instruction.derive_eq_ok_iff.mp hderive'
  rw [hidentifier, hidentifier', Template.identifier_eq_intercalate_atoms hplain,
    Template.identifier_eq_intercalate_atoms hplain']
  constructor
  · intro hjoin
    have hatoms := Text.intercalate_injective (Template.atom_sound hplain) (Template.atom_sound hplain') hjoin
    exact forall₂_alike_of_atoms_eq hnamed hnamed' hatoms
  · intro halike
    rw [atoms_eq_of_forall₂_alike (fun lexeme hmem => (hnamed lexeme hmem).1)
      (fun lexeme hmem => (hnamed' lexeme hmem).1) halike]

/-- A jump to a label and one without operand have the same name, and they are alike. -/
theorem Instruction.identifier_eq_iff_alike_jump :
    let first : Instruction :=
      ⟨⟨"jmp_ptr_rax_plus_plus", some .label, true⟩, "jmp  [rax+plus], $label",
        [⟨.word "jmp", 0⟩, ⟨.memory "rax+plus", 1⟩, ⟨.placeholder .label, 0⟩]⟩
    let second : Instruction :=
      ⟨⟨"jmp_ptr_rax_plus_plus", none, false⟩, "JMP [rax+plus]",
        [⟨.word "JMP", 0⟩, ⟨.memory "rax+plus", 0⟩]⟩
    Instruction.derive "jmp  [rax+plus], $label" = .ok first ∧
      Instruction.derive "JMP [rax+plus]" = .ok second ∧
      List.Forall₂ Lexeme.Alike first.template.named second.template.named := by
  intro first second
  have hfirst : Instruction.derive "jmp  [rax+plus], $label" = .ok first := rfl
  have hsecond : Instruction.derive "JMP [rax+plus]" = .ok second := rfl
  have hplain : ∀ token ∈ first.template.tokens, token.lexeme.Plain := by decide
  have hplain' : ∀ token ∈ second.template.tokens, token.lexeme.Plain := by decide
  exact ⟨hfirst, hsecond, (identifier_eq_iff_alike hfirst hsecond hplain hplain').mp rfl⟩

end InstrDecl

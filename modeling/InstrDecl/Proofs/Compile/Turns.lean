import InstrDecl.Proofs.Compile.Scheduled
import InstrDecl.Proofs.Pool.History

namespace InstrDecl.Compile

open Pool (Turn Gathered worldAfter)

variable {σ : Type} {assembler : Assembler σ} {jobs sentinel : Int} {sources : List Text}
variable {session : Session σ} {instructions : List Instruction} {order : List Nat}
variable {last : Except CompileError (List CompiledInstruction) × Session σ}

/-- Turns do not depend on how the items are numbered. -/
theorem turn_map_succ {α ε β ω : Type} {work : α → ω → Except ε β × ω} {items : List α} {start : ω}
    {number : Nat} {result : Except ε β} (first : α) (hturn : Turn work items start order number result) :
    Turn work (first :: items) start (order.map (· + 1)) (number + 1) result := by
  obtain ⟨before, after, item, rfl, hitem, hresult⟩ := hturn
  refine ⟨before.map (· + 1), after.map (· + 1), item, by simp, by simpa using hitem, ?_⟩
  simpa [worldAfter, List.filterMap_map, Function.comp_def] using hresult

/-- In a run in order the turns are in the order of the list. -/
theorem inOrder_gathered (assembler : Assembler σ) (sentinel : Int) (instructions : List Instruction)
    (session : Session σ) :
    Gathered (Turn (one assembler sentinel) instructions session
      (List.range (attempts assembler sentinel instructions session)))
      (inOrder assembler sentinel instructions session).1 := by
  induction instructions generalizing session with
  | nil =>
    intro number result hresult
    simp at hresult
  | cons instruction rest ih =>
    have hrest := ih (instruction.template.extract assembler sentinel session).2
    have hfirst : ∀ order, Turn (one assembler sentinel) (instruction :: rest) session (0 :: order) 0
        (one assembler sentinel instruction session).1 :=
      fun order => (Pool.turn_cons_iff rfl).mpr (.inl ⟨rfl, rfl⟩)
    rw [inOrder_cons, attempts]
    rw [one] at hfirst
    cases hextract : instruction.template.extract assembler sentinel session with
    | mk result after =>
      rw [hextract] at hfirst hrest
      cases result with
      | error e => exact ⟨0, hfirst [], by simp⟩
      | ok opcode =>
        have hlater : ∀ number result,
            Turn (one assembler sentinel) rest after (List.range (attempts assembler sentinel rest after)) number
              result →
            Turn (one assembler sentinel) (instruction :: rest) session
              (List.range (attempts assembler sentinel rest after + 1)) (number + 1) result := by
          intro number result hturn
          rw [List.range_succ_eq_map]
          have hitem : (instruction :: rest)[0]? = some instruction := rfl
          refine (Pool.turn_cons_iff hitem).mpr (.inr ?_)
          rw [one, hextract]
          exact turn_map_succ instruction hturn
        dsimp only at hrest ⊢
        rw [List.range_succ_eq_map] at hlater ⊢
        cases hrun : inOrder assembler sentinel rest after with
        | mk outcome last =>
          rw [hrun] at hrest
          cases outcome with
          | ok compiled =>
            intro number i hi
            cases number with
            | zero =>
              cases hi
              exact hfirst _
            | succ number => exact hlater number _ (hrest number i (by simpa using hi))
          | error e =>
            obtain ⟨number, herror, hbefore⟩ := hrest
            refine ⟨number + 1, hlater number _ herror, fun earlier hlt => ?_⟩
            cases earlier with
            | zero => exact ⟨_, hfirst _⟩
            | succ earlier =>
              obtain ⟨i, hi⟩ := hbefore earlier (by omega)
              exact ⟨i, hlater earlier _ hi⟩

/-- The outcome is put together from what the instructions came to in their turns. -/
theorem Yields.gathered (hyields : Yields assembler jobs sentinel sources session order last)
    (hderive : Instruction.deriveAll sources = .ok instructions) :
    ∃ outcome, Gathered (Turn (one assembler sentinel) instructions
        (session.note [.derived instructions.length]) order) outcome ∧ last.1 = outcome.mapError .encoding := by
  cases hyields with
  | rejected hrejected =>
    rw [hderive] at hrejected
    cases hrejected
  | inOrder hderive' hsingle =>
    rw [hderive] at hderive'
    cases hderive'
    exact ⟨_, inOrder_gathered assembler sentinel instructions _, conclude_fst _⟩
  | pooled hderive' hjobs hseveral hplay hhalted =>
    rw [hderive] at hderive'
    cases hderive'
    exact ⟨_, Pool.gathered_of_play hplay, conclude_fst _⟩

theorem conclude_state (run : Except EncodingError (List CompiledInstruction) × Session σ) :
    (conclude run).2.state = run.2.state := by
  obtain ⟨outcome, session⟩ := run
  cases outcome <;> rfl

/-- The assembler is left in the state that the turns bring it to. -/
theorem Yields.state_eq (hyields : Yields assembler jobs sentinel sources session order last)
    (hderive : Instruction.deriveAll sources = .ok instructions) :
    last.2.state = (worldAfter (one assembler sentinel) instructions
      (session.note [.derived instructions.length]) order).state := by
  cases hyields with
  | rejected hrejected =>
    rw [hderive] at hrejected
    cases hrejected
  | inOrder hderive' hsingle =>
    rw [hderive] at hderive'
    cases hderive'
    rw [conclude_state, inOrder_session, worldAfter, filterMap_range_getElem?]
    rfl
  | pooled hderive' hjobs hseveral hplay hhalted =>
    rw [hderive] at hderive'
    cases hderive'
    have hsound : Pool.Sound (fun _ _ => True) _ _ _ _ _ := Pool.sound_of_play (fun _ _ => trivial) hplay
    rw [conclude_state, hsound.world]

end InstrDecl.Compile

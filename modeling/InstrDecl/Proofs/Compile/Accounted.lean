import InstrDecl.Proofs.Compile.Declarations
import InstrDecl.Proofs.Toolchain.Calls

namespace InstrDecl.Compile

variable {tool : Tool} {program : Program} {jobs sentinel : Int} {sources : List Text}
variable {instructions : List Instruction} {number : Nat} {instruction : Instruction} {launch : Launch}

theorem mapError_encoding_injective {α : Type} {outcome outcome' : Except EncodingError α}
    (hsame : outcome.mapError CompileError.encoding = outcome'.mapError CompileError.encoding) :
    outcome = outcome' := by
  cases outcome <;> cases outcome' <;> cases hsame <;> rfl

/-- However the calls are scheduled, they are those of turns in the order of the run, and the outcome
    is put together from what each of them came to. -/
theorem Yields.exists_calls {workspace : Workspace} {order : List Nat}
    {last : Except CompileError (List CompiledInstruction) × Session Workspace}
    (hyields : Yields (tool.assemble program) jobs sentinel sources (.new workspace) order last)
    (hderive : Instruction.deriveAll sources = .ok instructions) :
    ∃ calls outcome, last.1 = outcome.mapError .encoding ∧ Settles (fun _ _ => True) instructions order outcome ∧
      tool.CallLog program sentinel instructions ((Session.new workspace).note [.derived instructions.length])
        order calls ∧
      Pool.Gathered (tool.Came program sentinel instructions calls) outcome ∧
      last.2.state.launches = workspace.launches ++ calls.map (·.2) ∧ last.2.state.files = workspace.files := by
  obtain ⟨outcome, hsettles, hlast⟩ : ∃ outcome, Settles (fun _ _ => True) instructions order outcome ∧
      last.1 = outcome.mapError .encoding := hyields.settles (fun _ _ => trivial) hderive
  obtain ⟨outcome', hgathered, hlast'⟩ := hyields.gathered hderive
  obtain rfl : outcome' = outcome := mapError_encoding_injective (hlast'.symm.trans hlast)
  obtain ⟨calls, hlog⟩ := tool.exists_callLog program sentinel hsettles.within
    ((Session.new workspace).note [.derived instructions.length])
  have hlaunches := hlog.launches
  have hfiles := hlog.files
  rw [← hyields.state_eq hderive] at hlaunches hfiles
  exact ⟨calls, _, hlast, hsettles, hlog, hgathered.imp hlog.came, hlaunches, hfiles⟩

end InstrDecl.Compile

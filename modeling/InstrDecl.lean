import InstrDecl.Diagnostic.Refusal
import InstrDecl.Main
import InstrDecl.Proofs.Command.Settings
import InstrDecl.Proofs.Command.Table
import InstrDecl.Proofs.Compile.Agreement
import InstrDecl.Proofs.Compile.Failures
import InstrDecl.Proofs.Compile.Sequential
import InstrDecl.Proofs.Encoding.Recovery
import InstrDecl.Proofs.Identifier.Decodable
import InstrDecl.Proofs.Identifier.Lowercase
import InstrDecl.Proofs.InstructionList.Loading
import InstrDecl.Proofs.InstructionList.Restoring
import InstrDecl.Proofs.InstructionList.Warnings
import InstrDecl.Proofs.Template.Dependence
import InstrDecl.Proofs.Template.Grammar
import InstrDecl.Proofs.Toolchain.Interleaving

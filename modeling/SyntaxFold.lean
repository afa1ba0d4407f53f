import SyntaxFold.Main
import SyntaxFold.Value.Equality
import SyntaxFold.Proofs.CommandLine.Execution
import SyntaxFold.Proofs.CommandLine.TableClass
import SyntaxFold.Proofs.Datum.Quotation
import SyntaxFold.Proofs.Function.Reads
import SyntaxFold.Proofs.KindTable
import SyntaxFold.Proofs.Normalize
import SyntaxFold.Proofs.Overflow
import SyntaxFold.Proofs.Reduction.Canonical
import SyntaxFold.Proofs.Reduction.Concatenation
import SyntaxFold.Proofs.Reduction.Element
import SyntaxFold.Proofs.Reduction.EnumMember
import SyntaxFold.Proofs.Reduction.Extension
import SyntaxFold.Proofs.Reduction.Formula
import SyntaxFold.Proofs.Reduction.Fuel
import SyntaxFold.Proofs.Reduction.LiteralStage
import SyntaxFold.Proofs.Reduction.ReadBack
import SyntaxFold.Proofs.Reduction.Resolved
import SyntaxFold.Proofs.Reduction.Spelling
import SyntaxFold.Proofs.Reduction.Strictness
import SyntaxFold.Proofs.Reduction.Wrapping
import SyntaxFold.Proofs.Shift
import SyntaxFold.Proofs.Synth.Config
import SyntaxFold.Proofs.Synth.Record
import SyntaxFold.Proofs.Synth.Renaming
import SyntaxFold.Proofs.Synth.Tables
import SyntaxFold.Proofs.Synth.Waves
import SyntaxFold.Proofs.Value.Equality

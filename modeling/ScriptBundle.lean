import ScriptBundle.Main
import ScriptBundle.Proofs.Abandonment
import ScriptBundle.Proofs.Instantiation
import ScriptBundle.Proofs.Overwriting
import ScriptBundle.Proofs.Rewriting
import ScriptBundle.Proofs.Ownership
import ScriptBundle.Proofs.Interruption
import ScriptBundle.Proofs.Survival
import ScriptBundle.Proofs.Confinement
import ScriptBundle.Proofs.Course
import ScriptBundle.Proofs.Repetition
import ScriptBundle.Proofs.Independence
import ScriptBundle.Proofs.Rendering
import ScriptBundle.Proofs.Termination
import ScriptBundle.Proofs.Elsewhere
import ScriptBundle.Proofs.Return
import ScriptBundle.Proofs.Discovery
import ScriptBundle.Proofs.SourceOrder
import ScriptBundle.Proofs.Canonical
import ScriptBundle.Proofs.Quotation
import ScriptBundle.Proofs.Composition
import ScriptBundle.Proofs.Declaration
import ScriptBundle.Proofs.Refusal

import Provision.Main
import Provision.Installation.Step
import Provision.Dialogue.Script
import Provision.CommandLine.Files
import Provision.Proofs.Installation.Stability
import Provision.Proofs.Snapshot
import Provision.Proofs.Template.Token
import Provision.Proofs.Text.Blank
import Provision.Proofs.Template.Grammar
import Provision.Proofs.Conformance
import Provision.Proofs.Pass.Default
import Provision.Proofs.Pass.ClosedForm
import Provision.Proofs.Pass.StaticCheck
import Provision.Proofs.Pass.Suggestion
import Provision.Proofs.Installation.Relevance
import Provision.Proofs.Installation.Update
import Provision.Proofs.Installation.Shape
import Provision.Proofs.Pass.Dependency
import Provision.Proofs.Pass.Causality
import Provision.Proofs.Installation.Frame
import Provision.Proofs.Dialogue.Terminal
import Provision.Proofs.Pass.Confirmation
import Provision.Proofs.Manifest
import Provision.Proofs.Output.Env
import Provision.Proofs.Pass.Accounting
import Provision.Proofs.CommandLine.Replay
import Provision.Proofs.Template.Name
import Provision.Proofs.Dialogue.TypedInteger
import Provision.Proofs.Pass.Influence
import Provision.Proofs.Pass.Trail
import Provision.Proofs.Template.Substitution
import Provision.Proofs.Dialogue.Retry
import Provision.Proofs.IntegerLimits
import Provision.Proofs.Template.BareReference
import Provision.Proofs.Manifest.Validation
import Provision.Proofs.Pass.Mismatch

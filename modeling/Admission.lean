import Admission.Main
import Admission.Metrics
import Admission.Precheck
import Admission.Procedure.Script
import Admission.Settings.Document
import Admission.Site
import Admission.Sync.Signal
import Admission.Table.Image
import Admission.Text.SingleLine
import Admission.Verdict
import Admission.Viewer.Basic
import Admission.Proofs.Client
import Admission.Proofs.Connection
import Admission.Proofs.Decision.Answer
import Admission.Proofs.Decision.Recovery
import Admission.Proofs.Password.Lines
import Admission.Proofs.Password.Secrecy
import Admission.Proofs.Service.Front
import Admission.Proofs.Service.Lifecycle
import Admission.Proofs.Session.Draft
import Admission.Proofs.Session.Interleaving
import Admission.Proofs.Traffic.Exclusion
import Admission.Proofs.Traffic.OwnVerdict
import Admission.Proofs.Traffic.Stale
import Admission.Proofs.Service.Ownership
import Admission.Proofs.Service.Pool
import Admission.Proofs.Wakeup.Bell
import Admission.Proofs.Wakeup.Vigil
import Admission.Proofs.Wakeup.Sound
import Admission.Proofs.Wakeup.Steps
import Admission.Proofs.Wakeup.Clients
import Admission.Proofs.Wakeup.Workers
import Admission.Proofs.Wakeup.NoLostWakeup
import Admission.Proofs.Wakeup.Whole
import Admission.Proofs.Decision.Successor
import Admission.Proofs.Password.Backout
import Admission.Proofs.Settings.Ranges
import Admission.Proofs.Settings.Grammar
import Admission.Proofs.Procedure.Isolation
import Admission.Proofs.Password.Acceptance
import Admission.Proofs.Decision.Counts
import Admission.Proofs.Rotation
import Admission.Proofs.Residue
import Admission.Proofs.Table.Scene
import Admission.Proofs.Claim
import Admission.Proofs.Decision.Reason
import Admission.Proofs.Text.Composite
import Admission.Proofs.Catalog.Registry
import Admission.Proofs.ConnectionLiteral
import Admission.Proofs.Procedure.Name
import Admission.Proofs.Torn
import Admission.Proofs.Contention

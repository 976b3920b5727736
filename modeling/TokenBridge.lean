import TokenBridge.Attestation.Recovery
import TokenBridge.Config.Session
import TokenBridge.HexText
import TokenBridge.Json.Reader
import TokenBridge.Logging.Console
import TokenBridge.Message.Family
import TokenBridge.Tracking.Reconciliation
import TokenBridge.Proofs.Outcome
import TokenBridge.Proofs.Layout.Reading
import TokenBridge.Proofs.Layout.Writing
import TokenBridge.Proofs.Layout.Canonical
import TokenBridge.Proofs.Layout.Input
import TokenBridge.Proofs.Layout.RoundTrip
import TokenBridge.Proofs.Layout.Embedding
import TokenBridge.Proofs.Layout.Refusal
import TokenBridge.Proofs.Layout.Isolation
import TokenBridge.Proofs.Layout.Progress
import TokenBridge.Proofs.Layout.MaximalRun
import TokenBridge.Proofs.Layout.StaticSize
import TokenBridge.Proofs.Layout.Conformance
import TokenBridge.Proofs.Layout.Absence
import TokenBridge.Proofs.Value.Equality
import TokenBridge.Proofs.Message.Item
import TokenBridge.Proofs.Message.Composition
import TokenBridge.Proofs.Message.Acceptance
import TokenBridge.Proofs.Message.Transfer
import TokenBridge.Proofs.Message.Capacity
import TokenBridge.Proofs.Message.PackedAmount
import TokenBridge.Proofs.Message.Family
import TokenBridge.Proofs.Text.LetterCase
import TokenBridge.Proofs.Text.Hexadecimal
import TokenBridge.Proofs.Attestation.Framing
import TokenBridge.Proofs.Attestation.Header
import TokenBridge.Proofs.Attestation.Signers
import TokenBridge.Proofs.Attestation.Recovery
import TokenBridge.Proofs.Attestation.Preimages
import TokenBridge.Proofs.Attestation.Accounts
import TokenBridge.Proofs.Curve.Field
import TokenBridge.Proofs.Curve.Points
import TokenBridge.Proofs.Amount.Conservation
import TokenBridge.Proofs.Amount.Splitting
import TokenBridge.Proofs.Tracking.History
import TokenBridge.Proofs.Json.Reading
import TokenBridge.Proofs.Tracking.Answers
import TokenBridge.Proofs.Tracking.CallDetails
import TokenBridge.Proofs.Tracking.Verdicts
import TokenBridge.Proofs.Tracking.AxelarAnswers
import TokenBridge.Proofs.Tracking.FaultFamilies
import TokenBridge.Proofs.Value.Layering
import TokenBridge.Proofs.Config.Checking
import TokenBridge.Proofs.Config.Precedence
import TokenBridge.Proofs.Config.Validity
import TokenBridge.Proofs.Number.NotANumber
import TokenBridge.Proofs.Tracking.PublicNetworks
import TokenBridge.Proofs.Config.Reloading
import TokenBridge.Proofs.Logging.Configuring

import SigValidation.Accumulator
import SigValidation.Amount
import SigValidation.Backend.Context
import SigValidation.Backend.Scripted
import SigValidation.Bytes.Basic
import SigValidation.Cache.Bounded
import SigValidation.Cache.Recording
import SigValidation.Check
import SigValidation.Checker
import SigValidation.Config.Toml
import SigValidation.Curve.Point
import SigValidation.Curve.Modular
import SigValidation.Decimal.Binary64
import SigValidation.Ecdsa.Signature
import SigValidation.Hash.Sha256
import SigValidation.Journal
import SigValidation.Json.Codec
import SigValidation.Json.Printer
import SigValidation.Json.Reader
import SigValidation.Routine
import SigValidation.Pass.Basic
import SigValidation.Schnorr.Signature
import SigValidation.Terminal
import SigValidation.TestVector
import SigValidation.Text.Debug
import SigValidation.Text.Format
import SigValidation.Text.Quoted
import SigValidation.Proofs.Accumulator.Accounting
import SigValidation.Proofs.Accumulator.Bookkeeping
import SigValidation.Proofs.Accumulator.FailStop
import SigValidation.Proofs.Accumulator.Lockstep
import SigValidation.Proofs.Accumulator.OneByOne
import SigValidation.Proofs.Accumulator.OneQueue
import SigValidation.Proofs.Accumulator.Outcomes
import SigValidation.Proofs.Accumulator.Refusals
import SigValidation.Proofs.Accumulator.Transcript
import SigValidation.Proofs.Amount.Sources
import SigValidation.Proofs.Backend.Capacity
import SigValidation.Proofs.Backend.Contract
import SigValidation.Proofs.Digits
import SigValidation.Proofs.Cache.BoundedSet
import SigValidation.Proofs.Cache.Calm
import SigValidation.Proofs.Cache.Contents
import SigValidation.Proofs.Check.Item
import SigValidation.Proofs.Check.Recut
import SigValidation.Proofs.Checker.Commons
import SigValidation.Proofs.Checker.EcdsaAnswers
import SigValidation.Proofs.Checker.Unstored
import SigValidation.Proofs.Config.Lines
import SigValidation.Proofs.Config.Toml
import SigValidation.Proofs.Curve.GroupLaw
import SigValidation.Proofs.Curve.Jacobian
import SigValidation.Proofs.Curve.Keys
import SigValidation.Proofs.Curve.Residue
import SigValidation.Proofs.Ecdsa.Malleability
import SigValidation.Proofs.Signing
import SigValidation.Proofs.Json.Codec
import SigValidation.Proofs.Json.Document
import SigValidation.Proofs.Pass.Phases
import SigValidation.Proofs.Pass.Deferral
import SigValidation.Proofs.Pass.Failure
import SigValidation.Proofs.Pass.History
import SigValidation.Proofs.Pass.Independence
import SigValidation.Proofs.Pass.Interleaving
import SigValidation.Proofs.Pass.Lockstep
import SigValidation.Proofs.Pass.QueuePass
import SigValidation.Proofs.Pass.Recovery
import SigValidation.Proofs.Pass.Verdict
import SigValidation.Proofs.TestVector.Accepted
import SigValidation.Proofs.Config.Grammar

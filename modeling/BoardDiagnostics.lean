import BoardDiagnostics.Activity
import BoardDiagnostics.Allocation.Spec
import BoardDiagnostics.Allocation.Stress
import BoardDiagnostics.Banner
import BoardDiagnostics.Battery.Basic
import BoardDiagnostics.Battery.Conditions
import BoardDiagnostics.Battery.Registry
import BoardDiagnostics.Battery.Sequential
import BoardDiagnostics.Board.Basic
import BoardDiagnostics.Board.Call
import BoardDiagnostics.Board.Emulated
import BoardDiagnostics.Board.Scripted
import BoardDiagnostics.Board.Silicon
import BoardDiagnostics.Capability.Basic
import BoardDiagnostics.Capability.Probe
import BoardDiagnostics.Checks.Cipher
import BoardDiagnostics.Checks.Files
import BoardDiagnostics.Checks.Randomness
import BoardDiagnostics.Checks.Result
import BoardDiagnostics.Checks.Run
import BoardDiagnostics.Checks.Scripting
import BoardDiagnostics.Checks.Signing
import BoardDiagnostics.Checks.Timing
import BoardDiagnostics.Concurrent.Barrier
import BoardDiagnostics.Concurrent.Phase
import BoardDiagnostics.Concurrent.Signal
import BoardDiagnostics.Concurrent.Task
import BoardDiagnostics.Concurrent.Unit
import BoardDiagnostics.Concurrent.World
import BoardDiagnostics.Config.Basic
import BoardDiagnostics.Config.Loaded
import BoardDiagnostics.Config.Reader
import BoardDiagnostics.Config.Writer
import BoardDiagnostics.Console
import BoardDiagnostics.Curve.Point
import BoardDiagnostics.Curve.Secp256k1
import BoardDiagnostics.Curve.Signature
import BoardDiagnostics.Decimal.Shortest
import BoardDiagnostics.Duration
import BoardDiagnostics.Event
import BoardDiagnostics.EventLog.Basic
import BoardDiagnostics.EventLog.History
import BoardDiagnostics.EventLog.Session
import BoardDiagnostics.EventLog.Stream
import BoardDiagnostics.Fault
import BoardDiagnostics.Hash.Hmac
import BoardDiagnostics.Hash.Ripemd160
import BoardDiagnostics.Hash.Sha256
import BoardDiagnostics.Host
import BoardDiagnostics.Json.Failure
import BoardDiagnostics.Json.Number
import BoardDiagnostics.Json.Record
import BoardDiagnostics.Json.Scalar
import BoardDiagnostics.Json.Skip
import BoardDiagnostics.Json.Text
import BoardDiagnostics.Json.Writer
import BoardDiagnostics.Ledger.Push
import BoardDiagnostics.Ledger.Scheme
import BoardDiagnostics.Ledger.Script
import BoardDiagnostics.Ledger.Spending
import BoardDiagnostics.Ledger.Transaction
import BoardDiagnostics.Main
import BoardDiagnostics.Media.Target
import BoardDiagnostics.Memory
import BoardDiagnostics.Octets
import BoardDiagnostics.Orchestrator
import BoardDiagnostics.Panic
import BoardDiagnostics.Program
import BoardDiagnostics.Queue
import BoardDiagnostics.Random.Generator
import BoardDiagnostics.Random.Uniform
import BoardDiagnostics.Stage
import BoardDiagnostics.Text.Hex
import BoardDiagnostics.Text.Hidden
import BoardDiagnostics.Text.Quoted
import BoardDiagnostics.Transcript
import BoardDiagnostics.Proofs.Barrier.Operations
import BoardDiagnostics.Proofs.Barrier.Uses
import BoardDiagnostics.Proofs.Barrier.Answers
import BoardDiagnostics.Proofs.Phase.Watch
import BoardDiagnostics.Proofs.Phase.Account
import BoardDiagnostics.Proofs.Phase.Steps
import BoardDiagnostics.Proofs.Phase.Return
import BoardDiagnostics.Proofs.Phase.Outcome
import BoardDiagnostics.Proofs.Activity
import BoardDiagnostics.Proofs.Phase.Trace
import BoardDiagnostics.Proofs.Battery.Allocation
import BoardDiagnostics.Proofs.Battery.Media
import BoardDiagnostics.Proofs.Battery.Sequential
import BoardDiagnostics.Proofs.Run.Courses
import BoardDiagnostics.Proofs.Run.Trace
import BoardDiagnostics.Proofs.Run.Breakdown
import BoardDiagnostics.Proofs.Config.Loading
import BoardDiagnostics.Proofs.Run.Repeat
import BoardDiagnostics.Proofs.Run.Stages
import BoardDiagnostics.Proofs.Gates.Permission
import BoardDiagnostics.Proofs.Gates.Battery
import BoardDiagnostics.Proofs.Gates.Calls
import BoardDiagnostics.Proofs.Gates.Emulated
import BoardDiagnostics.Proofs.Gates.Run
import BoardDiagnostics.Proofs.Json.Grammar
import BoardDiagnostics.Proofs.Json.Strings
import BoardDiagnostics.Proofs.Json.Numbers
import BoardDiagnostics.Proofs.Json.Skipping
import BoardDiagnostics.Proofs.Json.Values
import BoardDiagnostics.Proofs.Json.Schema
import BoardDiagnostics.Proofs.Json.Records
import BoardDiagnostics.Proofs.Json.Slots
import BoardDiagnostics.Proofs.Config.Meaning
import BoardDiagnostics.Proofs.Json.Writing
import BoardDiagnostics.Proofs.Config.RoundTrip
import BoardDiagnostics.Proofs.EventLog.Publishing
import BoardDiagnostics.Proofs.EventLog.Receiving
import BoardDiagnostics.Proofs.Phase.Linked
import BoardDiagnostics.Proofs.Run.Overlap
import BoardDiagnostics.Proofs.Ledger.Pushes
import BoardDiagnostics.Proofs.Ledger.Templates
import BoardDiagnostics.Proofs.Ledger.Bounds
import BoardDiagnostics.Proofs.Ledger.Commitment
import BoardDiagnostics.Proofs.Ledger.Verification
import BoardDiagnostics.Proofs.Ledger.Signing
import BoardDiagnostics.Proofs.Ledger.Binding
import BoardDiagnostics.Proofs.Ledger.Reading
import BoardDiagnostics.Proofs.Ledger.Classification
import BoardDiagnostics.Proofs.Battery.Exchanges
import BoardDiagnostics.Proofs.Battery.Lockstep
import BoardDiagnostics.Proofs.Battery.Accounts
import BoardDiagnostics.Proofs.Random.Uniform
import BoardDiagnostics.Proofs.Allocation.Draw
import BoardDiagnostics.Proofs.Allocation.Budget
import BoardDiagnostics.Proofs.Checks.Demands
import BoardDiagnostics.Proofs.Checks.Limits
import BoardDiagnostics.Proofs.Capability.Repetition
import BoardDiagnostics.Proofs.Text.Quoted
import BoardDiagnostics.Proofs.Fault
import BoardDiagnostics.Proofs.Run.ServiceFault

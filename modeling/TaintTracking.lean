import TaintTracking.Builtin
import TaintTracking.CommandLine.Execute
import TaintTracking.CommandLine.Help
import TaintTracking.CommandLine.Parser
import TaintTracking.Config.Load
import TaintTracking.FileTree
import TaintTracking.Json.Parser
import TaintTracking.Log.Filter
import TaintTracking.Main
import TaintTracking.Text.Uuid
import TaintTracking.Json.Printer
import TaintTracking.Pipeline.Basic
import TaintTracking.Pipeline.Report
import TaintTracking.Script
import TaintTracking.Wire.Decode
import TaintTracking.Proofs.Program.Exit
import TaintTracking.Proofs.Policy
import TaintTracking.Proofs.Program.Guard
import TaintTracking.Proofs.Program.Action
import TaintTracking.Proofs.Session.Steps
import TaintTracking.Proofs.Gating
import TaintTracking.Proofs.Pipeline.Boundary
import TaintTracking.Proofs.Pipeline.Laundering
import TaintTracking.Proofs.Nesting
import TaintTracking.Proofs.Store.Reachable
import TaintTracking.Proofs.Store.Mirror
import TaintTracking.Proofs.TrustConfig
import TaintTracking.Proofs.Builtin.State
import TaintTracking.Proofs.Session.Cancellation
import TaintTracking.Proofs.Builtin.Invocation
import TaintTracking.Proofs.Builtin.Run
import TaintTracking.Proofs.Builtin.Job
import TaintTracking.Proofs.Builtin.Noninterference
import TaintTracking.Proofs.Builtin.Monotone
import TaintTracking.Proofs.Store.LastWriter
import TaintTracking.Proofs.Context.Isolation
import TaintTracking.Proofs.Pipeline.Correspondence
import TaintTracking.Proofs.Pipeline.Composition
import TaintTracking.Proofs.Session.Tokens
import TaintTracking.Proofs.Session.Confinement
import TaintTracking.Proofs.Session.Twins
import TaintTracking.Proofs.Pipeline.Replacement
import TaintTracking.Proofs.Builtin.Timeout
import TaintTracking.Proofs.Json.RoundTrip
import TaintTracking.Proofs.Program.Output
import TaintTracking.Proofs.Wire.RoundTrip
import TaintTracking.Proofs.Program.InTurn
import TaintTracking.Proofs.Program.Agreement
import TaintTracking.Proofs.Program.Checkpoints
import TaintTracking.Proofs.Program.Failure
import TaintTracking.Proofs.Program.Asynchrony
import TaintTracking.Proofs.Program.ForceFlag
import TaintTracking.Proofs.Store.Merge
import TaintTracking.Proofs.Store.MainTaint
import TaintTracking.Proofs.Store.Independence
import TaintTracking.Proofs.Program.Binding
import TaintTracking.Proofs.Pipeline.Limit
import TaintTracking.Proofs.Context.ErrorState
import TaintTracking.Proofs.Respelling
import TaintTracking.Proofs.Store.MainName

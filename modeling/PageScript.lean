import PageScript.Main
import PageScript.Program.Exchange
import PageScript.Rehearsal.Call
import PageScript.Rehearsal.Reception
import PageScript.Rehearsal.Stage
import PageScript.Store.Shared
import PageScript.Proofs.Line.NormalForm
import PageScript.Proofs.Console
import PageScript.Proofs.Grammar.Fit
import PageScript.Proofs.Grammar.Unambiguous
import PageScript.Proofs.Command.Arguments
import PageScript.Proofs.Command.Display
import PageScript.Proofs.Command.RoundTrip
import PageScript.Proofs.Command.Canonical
import PageScript.Proofs.Interpreter.Run
import PageScript.Proofs.Interpreter.RunLaw
import PageScript.Proofs.Ledger
import PageScript.Proofs.Bridge.History
import PageScript.Proofs.Bridge.Correlation
import PageScript.Proofs.Bridge.Pending
import PageScript.Proofs.Remote.History
import PageScript.Proofs.Interpreter.Progress
import PageScript.Proofs.Interpreter.ApprovalGate
import PageScript.Proofs.Remote.Correlation
import PageScript.Proofs.Remote.Closing
import PageScript.Proofs.Remote.Relay
import PageScript.Proofs.Json.Arranged
import PageScript.Proofs.Observer.UnboundedLog
import PageScript.Proofs.Record.Recovers
import PageScript.Proofs.Command.Record
import PageScript.Proofs.Report
import PageScript.Proofs.Event.Record
import PageScript.Proofs.Page.Request
import PageScript.Proofs.Wire
import PageScript.Proofs.Json.Leaves
import PageScript.Proofs.Json.Spelling
import PageScript.Proofs.Json.Reader
import PageScript.Proofs.Json.Bounds
import PageScript.Proofs.Store.Memory
import PageScript.Proofs.Store.Shared
import PageScript.Proofs.Program.Surroundings
import PageScript.Proofs.Interpreter.StopOnError
import PageScript.Proofs.Setting
import PageScript.Proofs.Interpreter.Splitting
import PageScript.Proofs.LogFile
import PageScript.Proofs.Decimal.Binary64
import PageScript.Proofs.Decimal.Shortest
import PageScript.Proofs.Json.Number
import PageScript.Proofs.Json.Float
import PageScript.Proofs.Event.Copy
import PageScript.Proofs.Store.Recipes
import PageScript.Proofs.Interpreter.Recording
import PageScript.Proofs.Recording
import PageScript.Proofs.Script
import PageScript.Proofs.Observer.Installation
import PageScript.Proofs.Rehearsal.Vigil
import PageScript.Proofs.Rehearsal.Quiet
import PageScript.Proofs.Rehearsal.Appearance.Turn
import PageScript.Proofs.Rehearsal.Appearance.Prompt
import PageScript.Proofs.Interpreter.Targets
import PageScript.Proofs.Command.Numbers
import PageScript.Proofs.Command.Agreement
import PageScript.Proofs.Line.Canonical
import PageScript.Proofs.Command.Spelling
import PageScript.Proofs.Recipe.Keys
import PageScript.Proofs.Recipe.Case
import PageScript.Proofs.Url.Target
import PageScript.Proofs.Interpreter.Screenshots
import PageScript.Proofs.Remote.Watch
import PageScript.Proofs.Remote.Lifecycle
import PageScript.Proofs.Yaml.Section
import PageScript.Proofs.Config.Record
import PageScript.Proofs.Config.Partial

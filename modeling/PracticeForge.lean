import PracticeForge.Activity.Basic
import PracticeForge.Activity.Edit
import PracticeForge.Activity.Persist
import PracticeForge.Activity.Store
import PracticeForge.Api.Exchange
import PracticeForge.Api.Routes
import PracticeForge.Api.Site
import PracticeForge.Chat.Negotiation
import PracticeForge.Chat.Shorthand
import PracticeForge.Chat.Store
import PracticeForge.Chat.Thread
import PracticeForge.Chat.Wording
import PracticeForge.Clock
import PracticeForge.Config.Settings
import PracticeForge.Contract.Draft
import PracticeForge.Contract.Sql
import PracticeForge.Failure
import PracticeForge.Gateway.Complete
import PracticeForge.Gateway.Config
import PracticeForge.Gateway.Reply
import PracticeForge.Gateway.Scripted
import PracticeForge.Gateway.Tasks
import PracticeForge.Generation.Pool
import PracticeForge.Generation.Prompt
import PracticeForge.Generation.Run
import PracticeForge.Generation.Scripted
import PracticeForge.Generation.Slot
import PracticeForge.Json.Read
import PracticeForge.Json.Show
import PracticeForge.Json.Value
import PracticeForge.Json.Write
import PracticeForge.Judge.Docker
import PracticeForge.Judge.Drain
import PracticeForge.Judge.Files
import PracticeForge.Judge.Output
import PracticeForge.Judge.Process
import PracticeForge.Judge.Scripted
import PracticeForge.Judge.Verdict
import PracticeForge.Machine.Bytes
import PracticeForge.Machine.Files
import PracticeForge.Machine.Stream
import PracticeForge.Machine.World
import PracticeForge.Machine.Format
import PracticeForge.Machine.Printf
import PracticeForge.Machine.Utility.Options
import PracticeForge.Machine.Utility.Basic
import PracticeForge.Machine.Utility.Stream
import PracticeForge.Machine.Utility.Count
import PracticeForge.Machine.Utility.Output
import PracticeForge.Machine.Utility.Table
import PracticeForge.Machine.Shell.Syntax
import PracticeForge.Machine.Shell.Read
import PracticeForge.Machine.Shell.Arith
import PracticeForge.Machine.Shell.Pattern
import PracticeForge.Machine.Shell.State
import PracticeForge.Machine.Shell.Expand
import PracticeForge.Machine.Shell.Test
import PracticeForge.Machine.Shell.Builtin
import PracticeForge.Machine.Shell.Run
import PracticeForge.Machine.Launch
import PracticeForge.Number.Binary64
import PracticeForge.Number.Decimal
import PracticeForge.Number.Numeral
import PracticeForge.Number.Shortest
import PracticeForge.Outline.Expr
import PracticeForge.Outline.Literal
import PracticeForge.Outline.Read
import PracticeForge.Outline.Token
import PracticeForge.Problem.Basic
import PracticeForge.Problem.Guided
import PracticeForge.Proofs.Basic
import PracticeForge.Proofs.Number.Nearest
import PracticeForge.Proofs.Spec.Encode
import PracticeForge.Proofs.Spec.Patch
import PracticeForge.Proofs.Spec.Rescale
import PracticeForge.Proofs.Spec.Fields
import PracticeForge.Proofs.Spec.Consistent
import PracticeForge.Proofs.Spec.Freeze
import PracticeForge.Proofs.Chat.Apply
import PracticeForge.Proofs.Chat.Coupling
import PracticeForge.Proofs.Chat.Gate
import PracticeForge.Proofs.Chat.Shorthand
import PracticeForge.Proofs.Chat.Turn
import PracticeForge.Proofs.Chat.Outcome
import PracticeForge.Proofs.Chat.Invariant
import PracticeForge.Proofs.Chat.Consent
import PracticeForge.Proofs.Effect
import PracticeForge.Proofs.Generation.SlotRun
import PracticeForge.Proofs.Generation.Stages
import PracticeForge.Proofs.Gateway.Alone
import PracticeForge.Proofs.Gateway.Complete
import PracticeForge.Proofs.Gateway.Tasks
import PracticeForge.Proofs.Progress.Window
import PracticeForge.Proofs.Generation.Delivered
import PracticeForge.Proofs.Activity.Persist
import PracticeForge.Proofs.Service.Trigger
import PracticeForge.Proofs.Generation.Pool
import PracticeForge.Proofs.Store.Database
import PracticeForge.Proofs.Text.Words
import PracticeForge.Proofs.Spec.Recheck
import PracticeForge.Proofs.Spec.Layout
import PracticeForge.Proofs.Judge.Outcome
import PracticeForge.Proofs.Chat.Stated
import PracticeForge.Proofs.Problem.Scaffold
import PracticeForge.Proofs.Activity.Interleaving
import PracticeForge.Proofs.Progress.ShortError
import PracticeForge.Proofs.Service.Lifecycle
import PracticeForge.Proofs.Service.Served
import PracticeForge.Progress.Bus
import PracticeForge.Progress.Event
import PracticeForge.Reply
import PracticeForge.Schema.Check
import PracticeForge.Schema.Instant
import PracticeForge.Schema.Issue
import PracticeForge.Service.Local
import PracticeForge.Service.Loop
import PracticeForge.Service.Threads
import PracticeForge.Spec.Basic
import PracticeForge.Spec.Draft
import PracticeForge.Spec.Patch
import PracticeForge.Spec.Plan
import PracticeForge.Spec.Profile
import PracticeForge.Spec.Rescale
import PracticeForge.Store.Database
import PracticeForge.Store.Tables
import PracticeForge.Telemetry.Event
import PracticeForge.Text.Alnum
import PracticeForge.Text.Case
import PracticeForge.Text.CharName
import PracticeForge.Text.CharName.FromA
import PracticeForge.Text.CharName.FromC
import PracticeForge.Text.CharName.FromD
import PracticeForge.Text.CharName.FromL
import PracticeForge.Text.CharName.FromN
import PracticeForge.Text.Cased
import PracticeForge.Text.Digit
import PracticeForge.Text.Identifier
import PracticeForge.Text.Normalize
import PracticeForge.Text.Pattern
import PracticeForge.Text.Pattern.Machine
import PracticeForge.Text.Printable
import PracticeForge.Text.Quote
import PracticeForge.Text.RangeTable
import PracticeForge.Text.Space
import PracticeForge.Text.Surrogate
import PracticeForge.Text.Words
import PracticeForge.Proofs.Generation.Renaming
import PracticeForge.Proofs.Judge.Drain

import AuditCollector.Disk.Faults
import AuditCollector.Main
import AuditCollector.Scripted.Kernel
import AuditCollector.Proofs.Disk.Tree
import AuditCollector.Proofs.Disk.Site
import AuditCollector.Proofs.Log.Commands
import AuditCollector.Proofs.Log.Journal
import AuditCollector.Proofs.Disk.Spelling
import AuditCollector.Proofs.Disk.Serving
import AuditCollector.Proofs.Disk.Shared
import AuditCollector.Proofs.Log.Generations
import AuditCollector.Proofs.Channel.Overheard
import AuditCollector.Proofs.EventLoop.Records
import AuditCollector.Proofs.Exchange.Send
import AuditCollector.Proofs.Channel.Delivery
import AuditCollector.Proofs.Channel.View
import AuditCollector.Proofs.Client.Send
import AuditCollector.Proofs.Client.FollowUp
import AuditCollector.Proofs.Kernel.Answering
import AuditCollector.Proofs.Kernel.Requests
import AuditCollector.Proofs.Kernel.Backlog
import AuditCollector.Proofs.Kernel.Calls
import AuditCollector.Proofs.Kernel.Consumer
import AuditCollector.Proofs.Log.Splitter
import AuditCollector.Proofs.Log.Tape
import AuditCollector.Proofs.Log.Paths
import AuditCollector.Proofs.Startup.Steps
import AuditCollector.Proofs.Startup.Verdicts
import AuditCollector.Proofs.Startup.LateAnswers
import AuditCollector.Proofs.Startup.Consumer
import AuditCollector.Proofs.Daemon.Registration
import AuditCollector.Proofs.Channel.Memory
import AuditCollector.Proofs.Client.Requests
import AuditCollector.Proofs.Startup.Requests
import AuditCollector.Proofs.EventLoop.States
import AuditCollector.Proofs.EventLoop.Ledger
import AuditCollector.Proofs.Channel.Twins
import AuditCollector.Proofs.Startup.Twins
import AuditCollector.Proofs.EventLoop.Forgeries
import AuditCollector.Proofs.Channel.Invariant
import AuditCollector.Proofs.System.Recorded
import AuditCollector.Proofs.Daemon.Balance
import AuditCollector.Proofs.Daemon.View
import AuditCollector.Proofs.Rule.Tables
import AuditCollector.Proofs.Rule.Changes
import AuditCollector.Proofs.Rule.Reading
import AuditCollector.Proofs.Frame.Requests
import AuditCollector.Proofs.Log.Bounds
import AuditCollector.Proofs.Frame.WordLength
import AuditCollector.Proofs.Frame.Decoding
import AuditCollector.Proofs.Client.Waiting
import AuditCollector.Proofs.Kernel.Pending
import AuditCollector.Proofs.Log.Lines
import AuditCollector.Proofs.Exchange.Receive
import AuditCollector.Proofs.Client.Numbering
import AuditCollector.Proofs.Log.Course
import AuditCollector.Proofs.Disk.TwoNames
import AuditCollector.Proofs.Log.Restarts
import AuditCollector.Proofs.Disk.Growth
import AuditCollector.Proofs.Log.FailedRotations
import AuditCollector.Proofs.Rule.Numerals
import AuditCollector.Proofs.Rule.Watches
import AuditCollector.Proofs.Frame.Codecs
import AuditCollector.Proofs.Client.Refusal
import AuditCollector.Proofs.Daemon.ExitCode
import AuditCollector.Proofs.Config.Overrides

import TaskDesk.Decimal.Reading
import TaskDesk.Task.Format
import TaskDesk.Task.Folder
import TaskDesk.Catalog.BuiltIn
import TaskDesk.Catalog.Filter
import TaskDesk.Catalog.Registry
import TaskDesk.Files.Entry
import TaskDesk.Store.TaskDir
import TaskDesk.Readiness.Dispatcher
import TaskDesk.Manager.Basic
import TaskDesk.Target.Basic
import TaskDesk.Wizard.Commit
import TaskDesk.Project.Mailbox
import TaskDesk.Files.Disk
import TaskDesk.Settings.Merge
import TaskDesk.Settings.Document
import TaskDesk.Settings.Environment
import TaskDesk.Settings.Load
import TaskDesk.Yaml.Printer
import TaskDesk.CommandLine.Program
import TaskDesk.Readiness.Watch
import TaskDesk.Workspace.Basic
import TaskDesk.Main
import TaskDesk.Proofs.Tasks.Changes
import TaskDesk.Proofs.Tasks.Integrity
import TaskDesk.Proofs.Manager.Mutation
import TaskDesk.Proofs.Manager.Failure
import TaskDesk.Proofs.Manager.Runs
import TaskDesk.Proofs.Text.Digits
import TaskDesk.Proofs.Time.Timestamp
import TaskDesk.Proofs.Decimal.Shortest
import TaskDesk.Proofs.Json.Form
import TaskDesk.Proofs.Json.Numeral
import TaskDesk.Proofs.Json.Reader
import TaskDesk.Proofs.Text.Order
import TaskDesk.Proofs.Task.Format
import TaskDesk.Proofs.Store.Snapshot
import TaskDesk.Proofs.Tasks.Persistence
import TaskDesk.Proofs.Manager.Persistence
import TaskDesk.Proofs.Wizard.Commit
import TaskDesk.Proofs.Clients.Basic
import TaskDesk.Proofs.Clients.Act
import TaskDesk.Proofs.Clients.Safety
import TaskDesk.Proofs.Wizard.Validity
import TaskDesk.Proofs.Clients.Validity
import TaskDesk.Proofs.Manager.Placement
import TaskDesk.Proofs.Catalog.Forest
import TaskDesk.Proofs.Catalog.Filtered
import TaskDesk.Proofs.Catalog.Listing
import TaskDesk.Proofs.Wizard.Conclusion
import TaskDesk.Proofs.Wizard.Outcome
import TaskDesk.Proofs.Wizard.Sessions
import TaskDesk.Proofs.Wizard.Failure
import TaskDesk.Proofs.Tasks.Dates
import TaskDesk.Proofs.Wizard.Retry
import TaskDesk.Proofs.Wizard.Recommit
import TaskDesk.Proofs.Wizard.Overlap
import TaskDesk.Proofs.Wizard.History
import TaskDesk.Proofs.Readiness.Course
import TaskDesk.Proofs.Readiness.Depot
import TaskDesk.Proofs.Manager.Listener
import TaskDesk.Proofs.Wizard.Files
import TaskDesk.Proofs.Manager.Opening
import TaskDesk.Proofs.Clients.Limits
import TaskDesk.Proofs.CommandLine.Drafts
import TaskDesk.Proofs.CommandLine.Leftover
import TaskDesk.Proofs.CommandLine.Runs
import TaskDesk.Proofs.Clients.Verdict
import TaskDesk.Proofs.Catalog.Definition
import TaskDesk.Proofs.Store.Resave
import TaskDesk.Proofs.Target.Kinds
import TaskDesk.Proofs.Target.Recall
import TaskDesk.Proofs.Catalog.Shown
import TaskDesk.Proofs.Catalog.Growth
import TaskDesk.Proofs.Text.Bytes
import TaskDesk.Proofs.Catalog.Siblings
import TaskDesk.Proofs.Catalog.Tables
import TaskDesk.Proofs.Catalog.Described
import TaskDesk.Proofs.Catalog.Arrangement
import TaskDesk.Proofs.Catalog.Refusals
import TaskDesk.Proofs.Catalog.Audience
import TaskDesk.Proofs.Clients.Selection
import TaskDesk.Proofs.Tasks.Views
import TaskDesk.Proofs.Manager.Views
import TaskDesk.Proofs.Manager.Updates
import TaskDesk.Proofs.Json.Compact
import TaskDesk.Proofs.Catalog.Format
import TaskDesk.Proofs.Task.Properties
import TaskDesk.Proofs.Task.Retyping
import TaskDesk.Proofs.Settings.Spelling
import TaskDesk.Proofs.Settings.Overrides

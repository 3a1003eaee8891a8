import CategoryFilter.Broadcast
import CategoryFilter.Candidate
import CategoryFilter.Category.Codec
import CategoryFilter.Category.Name
import CategoryFilter.Category.Registry
import CategoryFilter.Category.Strategy
import CategoryFilter.CommandLine.Arguments
import CategoryFilter.Config.Basic
import CategoryFilter.Config.Codec
import CategoryFilter.Confirm.Basic
import CategoryFilter.Confirm.HashSet
import CategoryFilter.Confirm.Intel
import CategoryFilter.Confirm.ListFile
import CategoryFilter.Confirm.Source
import CategoryFilter.Daemon.Journal
import CategoryFilter.Daemon.Launch
import CategoryFilter.Daemon.Notice
import CategoryFilter.Digest.Base64
import CategoryFilter.Digest.Domain
import CategoryFilter.Digest.Sha256
import CategoryFilter.Domain.Normal
import CategoryFilter.Domain.Pattern
import CategoryFilter.Event
import CategoryFilter.Event.Codec
import CategoryFilter.Examiner.Confirmation
import CategoryFilter.Examiner.Detection
import CategoryFilter.Examiner.Refresh
import CategoryFilter.Examiner.State
import CategoryFilter.Examiner.Surroundings
import CategoryFilter.Exclusion
import CategoryFilter.Failure
import CategoryFilter.Files
import CategoryFilter.Files.Path
import CategoryFilter.Files.Tree
import CategoryFilter.Ingress.Address
import CategoryFilter.Ingress.Listener
import CategoryFilter.Ingress.Router
import CategoryFilter.Ingress.Server
import CategoryFilter.Ingress.Switch
import CategoryFilter.Json.Basic
import CategoryFilter.Json.Fields
import CategoryFilter.Json.Reader
import CategoryFilter.Json.Writer
import CategoryFilter.Log.Directive
import CategoryFilter.Log.Filter
import CategoryFilter.Log.Verbosity
import CategoryFilter.Main
import CategoryFilter.Memo
import CategoryFilter.Proofs.Bytes
import CategoryFilter.Proofs.CandidateKey
import CategoryFilter.Proofs.Codecs
import CategoryFilter.Proofs.Confirm.Agreement
import CategoryFilter.Proofs.Confirm.Batch
import CategoryFilter.Proofs.Confirm.Digests
import CategoryFilter.Proofs.Confirm.ListNames
import CategoryFilter.Proofs.Confirm.Listing
import CategoryFilter.Proofs.Confirm.Specificity
import CategoryFilter.Proofs.Confirm.Verdict
import CategoryFilter.Proofs.Conservation
import CategoryFilter.Proofs.Coverage
import CategoryFilter.Proofs.Deactivation
import CategoryFilter.Proofs.DrainOrder
import CategoryFilter.Proofs.Enforcement
import CategoryFilter.Proofs.Examiner.Aside
import CategoryFilter.Proofs.Examiner.Confirmation
import CategoryFilter.Proofs.Examiner.Detection
import CategoryFilter.Proofs.Examiner.Drift
import CategoryFilter.Proofs.Examiner.Ledger
import CategoryFilter.Proofs.Examiner.Notice
import CategoryFilter.Proofs.Examiner.Reaches
import CategoryFilter.Proofs.Examiner.Refresh
import CategoryFilter.Proofs.Examiner.RefreshEnding
import CategoryFilter.Proofs.Examiner.RefreshNotice
import CategoryFilter.Proofs.Examiner.Run
import CategoryFilter.Proofs.Examiner.Twins
import CategoryFilter.Proofs.Examiner.Use
import CategoryFilter.Proofs.Exclusion
import CategoryFilter.Proofs.ExclusionDominance
import CategoryFilter.Proofs.FeatureSwitch
import CategoryFilter.Proofs.Files
import CategoryFilter.Proofs.Ingress
import CategoryFilter.Proofs.Interleaving
import CategoryFilter.Proofs.Isolation
import CategoryFilter.Proofs.Json.Records
import CategoryFilter.Proofs.Json.RoundTrip
import CategoryFilter.Proofs.Keys
import CategoryFilter.Proofs.LastWriter
import CategoryFilter.Proofs.Memo.Indexed
import CategoryFilter.Proofs.MutualExclusion
import CategoryFilter.Proofs.NormalName
import CategoryFilter.Proofs.Notices
import CategoryFilter.Proofs.OpenMatches
import CategoryFilter.Proofs.Order
import CategoryFilter.Proofs.Queue
import CategoryFilter.Proofs.QueueHistory
import CategoryFilter.Proofs.Ranks
import CategoryFilter.Proofs.Reconciliation
import CategoryFilter.Proofs.Reexamination
import CategoryFilter.Proofs.RefreshAgreement
import CategoryFilter.Proofs.RepeatedRefresh
import CategoryFilter.Proofs.Schedule
import CategoryFilter.Proofs.Service.Bystander
import CategoryFilter.Proofs.Service.Channel
import CategoryFilter.Proofs.Service.Course
import CategoryFilter.Proofs.Service.Detection
import CategoryFilter.Proofs.Service.Dispatch
import CategoryFilter.Proofs.Service.Dispatcher
import CategoryFilter.Proofs.Service.Handover
import CategoryFilter.Proofs.SetCap
import CategoryFilter.Proofs.SortedSet
import CategoryFilter.Proofs.Store.Alike
import CategoryFilter.Proofs.Store.Dynamic
import CategoryFilter.Proofs.Store.Execution
import CategoryFilter.Proofs.Store.Membership
import CategoryFilter.Proofs.Store.Migration
import CategoryFilter.Proofs.Store.Pair
import CategoryFilter.Proofs.Store.RankRemoval
import CategoryFilter.Proofs.Store.Refinement
import CategoryFilter.Proofs.Store.Scores
import CategoryFilter.Proofs.Store.Trim
import CategoryFilter.Proofs.Store.Write
import CategoryFilter.Proofs.Trimming
import CategoryFilter.Proofs.UnfinishedRefresh
import CategoryFilter.Queue
import CategoryFilter.Schedule.Nightly
import CategoryFilter.Schedule.Zone
import CategoryFilter.Service.Channel
import CategoryFilter.Service.Executor
import CategoryFilter.Service.Task
import CategoryFilter.Services.Basic
import CategoryFilter.Services.Client
import CategoryFilter.Services.Endpoint
import CategoryFilter.Services.Message
import CategoryFilter.Services.Url
import CategoryFilter.SortedSet.Basic
import CategoryFilter.Store.Classification
import CategoryFilter.Store.Database
import CategoryFilter.Store.Error
import CategoryFilter.Store.Location
import CategoryFilter.Store.Opening
import CategoryFilter.Store.Schema
import CategoryFilter.Store.Sets
import CategoryFilter.Store.Settings
import CategoryFilter.Text.Blank
import CategoryFilter.Text.LowerCase
import CategoryFilter.Text.Order
import CategoryFilter.Text.Pieces
import CategoryFilter.Text.Quoted
import CategoryFilter.Text.Table.CaseIgnorable
import CategoryFilter.Text.Table.Cased
import CategoryFilter.Text.Table.Extending
import CategoryFilter.Text.Table.Lowercase
import CategoryFilter.Text.Table.Unprintable

import TimingBoard.CommandLine.Rehearsal
import TimingBoard.Main
import TimingBoard.Source.Ingestion
import TimingBoard.Text.CodePoints
import TimingBoard.Text.GeneralCategory.Basic
import TimingBoard.Proofs.Session.Runs
import TimingBoard.Proofs.Session.Reach
import TimingBoard.Proofs.Session.Course
import TimingBoard.Proofs.Session.Terminal
import TimingBoard.Proofs.Aggregate.Arrivals
import TimingBoard.Proofs.Aggregate.WorstCase
import TimingBoard.Proofs.Message.Walk
import TimingBoard.Proofs.Message.Growth
import TimingBoard.Proofs.Message.Rebuild
import TimingBoard.Proofs.Message.Listing
import TimingBoard.Proofs.Session.Rounds
import TimingBoard.Proofs.Aggregate.Producers
import TimingBoard.Proofs.Aggregate.Total
import TimingBoard.Proofs.Aggregate.Independence
import TimingBoard.Proofs.Source.Line
import TimingBoard.Proofs.Source.Tail
import TimingBoard.Proofs.Tree.Grouping
import TimingBoard.Proofs.Tree.LabelPath
import TimingBoard.Proofs.Tree.Summary
import TimingBoard.Proofs.Source.Ingestion
import TimingBoard.Proofs.Session.Ticks
import TimingBoard.Proofs.Session.Effects
import TimingBoard.Proofs.Session.Clipboard
import TimingBoard.Proofs.Json.RoundTrip
import TimingBoard.Proofs.Json.Number
import TimingBoard.Proofs.Tree.Export
import TimingBoard.Proofs.Message.Acceptance
import TimingBoard.Proofs.Tree.Canonical
import TimingBoard.Proofs.Tree.Comments
import TimingBoard.Proofs.Number.Rounding
import TimingBoard.Proofs.Number.Shortest
import TimingBoard.Proofs.Json.Accepted
import TimingBoard.Proofs.Aggregate.Lines
import TimingBoard.Proofs.Aggregate.Export
import TimingBoard.Proofs.Aggregate.LiveView
import TimingBoard.Proofs.Session.ReportText
import TimingBoard.Proofs.Tree.Stem
import TimingBoard.Proofs.Tree.Branches
import TimingBoard.Proofs.Tree.Likeness
import TimingBoard.Proofs.Session.Outlet
import TimingBoard.Proofs.Tree.Merging
import TimingBoard.Proofs.Text.Order
import TimingBoard.Proofs.Source.Path
import TimingBoard.Proofs.Source.Topic
import TimingBoard.Proofs.Number.Duration
import TimingBoard.Proofs.CommandLine.Settings
import TimingBoard.Proofs.Session.Discovery
import TimingBoard.Proofs.Session.Notices
import TimingBoard.Proofs.Tree.Snapshot
import TimingBoard.Proofs.Number.Sum
import TimingBoard.Proofs.Aggregate.Ranking
import TimingBoard.Proofs.Session.Menu
import TimingBoard.Proofs.Session.Subscription
import TimingBoard.Proofs.Json.Token
import TimingBoard.Proofs.Json.Grammar
import TimingBoard.Proofs.Message.Spelling
import TimingBoard.Proofs.Session.Lease

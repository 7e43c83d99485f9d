import JobDashboard.Api.Run
import JobDashboard.Board.Fetches
import JobDashboard.Http.Channel
import JobDashboard.Http.EventStream
import JobDashboard.Http.Timeline
import JobDashboard.Main
import JobDashboard.Polling.Clock
import JobDashboard.Proofs.Ordered.Entries
import JobDashboard.Proofs.Ordered.Grouping
import JobDashboard.Proofs.Stats.CanonicalOrder
import JobDashboard.Proofs.Stats.RowText
import JobDashboard.Proofs.Stats.Tally
import JobDashboard.Proofs.Stats.GroupBy
import JobDashboard.Proofs.Stats.OrderIndependence
import JobDashboard.Proofs.Stats.Conservation
import JobDashboard.Proofs.Stats.ChartKeys
import JobDashboard.Proofs.Stats.QueueOrder
import JobDashboard.Proofs.Text.FormUrlencoded
import JobDashboard.Proofs.Query.LastValue
import JobDashboard.Proofs.Query.RoundTrip
import JobDashboard.Proofs.Query.Canonical
import JobDashboard.Proofs.Query.Survival
import JobDashboard.Proofs.Color.Reports
import JobDashboard.Proofs.Dashboard.StatsReport
import JobDashboard.Proofs.Board.Loading
import JobDashboard.Proofs.Scheduler.Address
import JobDashboard.Proofs.Job.StatusFilter
import JobDashboard.Proofs.Job.Durations
import JobDashboard.Proofs.Job.Corruption
import JobDashboard.Proofs.Job.InOrder
import JobDashboard.Proofs.Board.Answers
import JobDashboard.Proofs.Api.ConfirmedKills
import JobDashboard.Proofs.Api.Streams
import JobDashboard.Proofs.Polling.Cancellation
import JobDashboard.Proofs.Stats.AverageBasis
import JobDashboard.Proofs.Query.Fields
import JobDashboard.Proofs.Api.JobFilters
import JobDashboard.Proofs.Api.StatsWindow
import JobDashboard.Proofs.Log.Lines
import JobDashboard.Proofs.Http.Header
import JobDashboard.Proofs.Api.RequestIds
import JobDashboard.Proofs.Api.Pages
import JobDashboard.Proofs.Job.RetimedPayload

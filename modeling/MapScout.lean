import MapScout.Agent.Backoff
import MapScout.Agent.Call
import MapScout.Agent.Endpoint
import MapScout.Agent.Visit
import MapScout.Base64
import MapScout.CommandLine.Flag
import MapScout.CommandLine.Invocation
import MapScout.Deployment.Control
import MapScout.Deployment.Launch
import MapScout.Deployment.Network
import MapScout.Deployment.Station
import MapScout.Dispatch.Board
import MapScout.Dispatch.Client
import MapScout.Dispatch.Config
import MapScout.Dispatch.Error
import MapScout.Dispatch.Session
import MapScout.Dispatch.Task
import MapScout.Dispatch.Turn
import MapScout.Dispatch.World
import MapScout.Gate
import MapScout.Gate.Line
import MapScout.Json.Basic
import MapScout.Json.Reader
import MapScout.Json.Record
import MapScout.Json.Writer
import MapScout.Main
import MapScout.Map.Object
import MapScout.Map.Payload
import MapScout.Map.Place
import MapScout.Map.Sighting
import MapScout.Net.Address
import MapScout.Number.Base36
import MapScout.Number.Binary64
import MapScout.Number.Decimal
import MapScout.Number.Power
import MapScout.Pool
import MapScout.Report
import MapScout.Settings
import MapScout.Span
import MapScout.Stock.Account
import MapScout.Stock.Error
import MapScout.Stock.Inventory
import MapScout.Stock.ObjectCache
import MapScout.Stock.Proxy
import MapScout.Stock.Store
import MapScout.Text.Blank
import MapScout.Text.Hex
import MapScout.Text.Percent
import MapScout.Text.Printable
import MapScout.Text.Quoted
import MapScout.Text.Utf8
import MapScout.Timeline
import MapScout.Tunnel.Broker
import MapScout.Tunnel.Connection
import MapScout.Tunnel.Error
import MapScout.Tunnel.Frame
import MapScout.Tunnel.Link
import MapScout.Tunnel.Turn
import MapScout.Web.Coordinate
import MapScout.Web.Form
import MapScout.Web.Message
import MapScout.Web.ScanDesk
import MapScout.Web.Scanner
import MapScout.Web.Url
import MapScout.Proofs.Keyed
import MapScout.Proofs.Stock.Faultless
import MapScout.Proofs.Stock.Ledger
import MapScout.Proofs.Stock.Balance
import MapScout.Proofs.Stock.Exclusive
import MapScout.Proofs.Pool.Order
import MapScout.Proofs.Pool.Tickets
import MapScout.Proofs.Timeline
import MapScout.Proofs.Dispatch.Moves
import MapScout.Proofs.Dispatch.Frame
import MapScout.Proofs.Dispatch.ScanFlow
import MapScout.Proofs.Dispatch.Run
import MapScout.Proofs.Dispatch.RetryBudget
import MapScout.Proofs.Dispatch.Attention
import MapScout.Proofs.Dispatch.Holding
import MapScout.Proofs.Dispatch.Conservation
import MapScout.Proofs.Dispatch.Transcript
import MapScout.Proofs.Dispatch.Books
import MapScout.Proofs.Dispatch.Handling
import MapScout.Proofs.Dispatch.Course
import MapScout.Proofs.Dispatch.Passage
import MapScout.Proofs.Dispatch.DeadProxies
import MapScout.Proofs.Dispatch.Verdicts
import MapScout.Proofs.Dispatch.Logins
import MapScout.Proofs.Dispatch.Rejections
import MapScout.Proofs.Pool.Progress
import MapScout.Proofs.Pool.History
import MapScout.Proofs.Tunnel.CallMoves
import MapScout.Proofs.Tunnel.Traffic
import MapScout.Proofs.Tunnel.Dialogue
import MapScout.Proofs.Stock.Remains
import MapScout.Proofs.Dispatch.Remains
import MapScout.Proofs.Tunnel.Run
import MapScout.Proofs.Tunnel.Remains
import MapScout.Proofs.Deployment.Sweeps
import MapScout.Proofs.Dispatch.Openings
import MapScout.Proofs.Dispatch.LiveProxies
import MapScout.Proofs.Tunnel.Effects
import MapScout.Proofs.Tunnel.Scenes
import MapScout.Proofs.Tunnel.Slots
import MapScout.Proofs.Tunnel.Waiting
import MapScout.Proofs.Tunnel.Deadlines
import MapScout.Proofs.Text.Utf8
import MapScout.Proofs.Base64
import MapScout.Proofs.Number.Decimal
import MapScout.Proofs.Json.Strings
import MapScout.Proofs.Json.Numbers
import MapScout.Proofs.Json.Values
import MapScout.Proofs.Json.Records
import MapScout.Proofs.Tunnel.Frames
import MapScout.Proofs.Dispatch.Landing
import MapScout.Proofs.Dispatch.Turns
import MapScout.Proofs.Dispatch.Spacing
import MapScout.Proofs.Dispatch.Rest
import MapScout.Proofs.Dispatch.Deadlines
import MapScout.Proofs.Stock.Acts
import MapScout.Proofs.Tunnel.Roster
import MapScout.Proofs.Tunnel.Reception
import MapScout.Proofs.Tunnel.Admissions
import MapScout.Proofs.Tunnel.Agents
import MapScout.Proofs.Number.Binary64
import MapScout.Proofs.Dispatch.Abandonment
import MapScout.Proofs.Dispatch.Bindings
import MapScout.Proofs.Dispatch.Hauls
import MapScout.Proofs.Json.Forms
import MapScout.Proofs.Json.RoundTrips
import MapScout.Proofs.Map.Sightings
import MapScout.Proofs.Web.CacheQueries
import MapScout.Proofs.Stock.Lending
import MapScout.Proofs.Gate.Forecast
import MapScout.Proofs.Gate.Run
import MapScout.Proofs.Gate.Attendance
import MapScout.Proofs.Gate.Turns
import MapScout.Proofs.Gate.Events
import MapScout.Proofs.Gate.Schedule
import MapScout.Proofs.Gate.Fairness
import MapScout.Proofs.Dispatch.Partings
import MapScout.Proofs.Dispatch.Disposal
import MapScout.Proofs.Dispatch.Timeouts
import MapScout.Proofs.Dispatch.Returns
import MapScout.Proofs.Dispatch.Throttle
import MapScout.Proofs.Dispatch.Tallies
import MapScout.Proofs.Dispatch.Reconciliation
import MapScout.Proofs.Dispatch.Balance
import MapScout.Proofs.Map.Payloads
import MapScout.Proofs.Agent.Attempts
import MapScout.Proofs.Agent.GivingUp
import MapScout.Proofs.Agent.Waits
import MapScout.Proofs.Number.Base36
import MapScout.Proofs.Map.Encounters
import MapScout.Proofs.Pool.Serving

import Rtpigate.Lib.Utf8
import Rtpigate.Lib.Lines
import Rtpigate.Lib.Machine
import Rtpigate.Lib.Broadcast
import Rtpigate.Lib.Expiring
import Rtpigate.Lib.Table
import Rtpigate.Lib.Slots
import Rtpigate.Lib.Latest
import Rtpigate.Lib.WriteBack
import Rtpigate.Lib.Carried
import Rtpigate.Lib.Rolling
import Rtpigate.Lib.Front
import Rtpigate.Lib.InFlight
import Rtpigate.Lib.Ordered
import Rtpigate.Lib.Backoff
import Rtpigate.Lib.Replica
import Rtpigate.Num
import Rtpigate.Exact
import Rtpigate.Config
import Rtpigate.Frame
import Rtpigate.Packet
import Rtpigate.Igate
import Rtpigate.Beacon
import Rtpigate.Beacon.Axis
import Rtpigate.Beacon.Precision
import Rtpigate.Beacon.Legal
import Rtpigate.Telemetry
import Rtpigate.Statistics
import Rtpigate.Store
import Rtpigate.Listener
import Rtpigate.Aprsis.Task
import Rtpigate.Aprsis.Steps
import Rtpigate.Aprsis.Gate
import Rtpigate.Aprsis.Accounting
import Rtpigate.Aprsis.Dedup
import Rtpigate.Aprsis.ReportLines
import Rtpigate.Aprsis.Report
import Rtpigate.System
import Rtpigate.GateSafety
import Rtpigate.History
import Rtpigate.Recorder
import Rtpigate.Feed
import Rtpigate.Heal
import Rtpigate.Aprsis.Stats
import Rtpigate.Buckets
import Rtpigate.Mirror
import Rtpigate.Station
import Rtpigate.PacketStore
import Rtpigate.Listener.Task
import Rtpigate.Listener.Parts
import Rtpigate.Listener.Retry
import Rtpigate.Listener.Stop
import Rtpigate.Listener.Process
import Rtpigate.Listener.PacketHistory
import Rtpigate.Listener.SatelliteLog
import Rtpigate.Listener.SatelliteRestart
import Rtpigate.Lifetimes
import Rtpigate.Watched
import Rtpigate.Watched.Cap
import Rtpigate.Aprsis.Reconnect
import Rtpigate.Aprsis.Movement
import Rtpigate.Gpsd
import Rtpigate.GpsBeacon
import Rtpigate.ConfigFile
import Rtpigate.Startup
import Rtpigate.Reload
import Rtpigate.Listener.Loop
import Rtpigate.Listener.Subscribe
import Rtpigate.Listener.Counters
import Rtpigate.Listener.Slicer
import Rtpigate.GatedLine
import Rtpigate.ThirdParty
import Rtpigate.Quadratic
import Rtpigate.ReportText
import Rtpigate.Aprsis.Readings
import Rtpigate.Page
import Rtpigate.Page.Agreement
import Rtpigate.Lib.Running
import Rtpigate.Passcode
import Rtpigate.Hops
import Rtpigate.Page.Display
import Rtpigate.Page.Objects
import Rtpigate.Listener.Tally
import Rtpigate.PacketVersions
import Rtpigate.Listener.StoredPackets
import Rtpigate.Listener.StationSummary
import Rtpigate.Lib.Framing
import Rtpigate.Lib.Relay
import Rtpigate.Lib.Seeded
import Rtpigate.Aprsis.Sequence
import Rtpigate.Aprsis.OwnLines
import Rtpigate.Aprsis.Wire
import Rtpigate.Sse
import Rtpigate.Page.Tabs
import Rtpigate.Page.TabRows
import Rtpigate.Page.TabSync
import Rtpigate.Page.Connection
import Rtpigate.Lib.Throttle
import Rtpigate.Gpsd.Status
import Rtpigate.Aprsis.Ledger
import Rtpigate.Page.Beacons
import Rtpigate.Lib.Ranking
import Rtpigate.Lib.Totals
import Rtpigate.Listener.LastHeard
import Rtpigate.Listener.Panel
import Rtpigate.Page.Stations
import Rtpigate.Lib.CatchUp
import Rtpigate.Page.Recent
import Rtpigate.GateOrder
import Rtpigate.HistoryBound
import Rtpigate.Page.TwistBar

import CastDelivery.Lib.Machine
import CastDelivery.Lib.Slot
import CastDelivery.Lib.Uri
import CastDelivery.Lib.Dict
import CastDelivery.Lib.Numeral
import CastDelivery.Lib.ConfigParser
import CastDelivery.Lib.ConfigWriter
import CastDelivery.Lib.Fallible
import CastDelivery.Lib.Decimal
import CastDelivery.Lib.PyStr
import CastDelivery.Lib.JsonText
import CastDelivery.Lib.JsonNumeral
import CastDelivery.Lib.JsonRoundTrip
import CastDelivery.Lib.Regex
import CastDelivery.Lib.Format
import CastDelivery.Basic
import CastDelivery.Health.Basic
import CastDelivery.Health.Ledger
import CastDelivery.Health.DeviceStep
import CastDelivery.Health.History
import CastDelivery.Health.Invariants
import CastDelivery.Health.Staleness
import CastDelivery.Health.Filing
import CastDelivery.Health.Timers
import CastDelivery.Health.ExactlyOnce
import CastDelivery.Health.Restored
import CastDelivery.Probe.Breaker
import CastDelivery.Repairs
import CastDelivery.Topology.Basic
import CastDelivery.Topology.Networks
import CastDelivery.Topology.Groups
import CastDelivery.Topology.Order
import CastDelivery.Hub.Basic
import CastDelivery.Hub.Run
import CastDelivery.Hub.Circuit
import CastDelivery.Hub.Isolation
import CastDelivery.Probe.Coordinator
import CastDelivery.DateTime
import CastDelivery.Lib.Reconcile
import CastDelivery.Issues.Basic
import CastDelivery.Lib.Streak
import CastDelivery.Hub.Alarms
import CastDelivery.Issues.Checks
import CastDelivery.Issues.Home
import CastDelivery.Lib.Json
import CastDelivery.Playback.PlayMedia
import CastDelivery.Playback.Override
import CastDelivery.Diagnostics
import CastDelivery.Disclosure
import CastDelivery.System.Basic
import CastDelivery.System.Moves
import CastDelivery.System.Run
import CastDelivery.System.Charging
import CastDelivery.System.OneFailure
import CastDelivery.System.Takeover
import CastDelivery.System.Turn
import CastDelivery.System.Alike
import CastDelivery.System.Tasks
import CastDelivery.System.Consecutive
import CastDelivery.System.LaunchSafety
import CastDelivery.System.BreakerLaw
import CastDelivery.System.Closing
import CastDelivery.System.OutOfBand
import CastDelivery.System.Unload
import CastDelivery.System.Quiescence
import CastDelivery.System.ProbeOutcome
import CastDelivery.Reload
import CastDelivery.Discovery.Basic
import CastDelivery.Discovery.Lifecycle
import CastDelivery.Discovery.FillOut
import CastDelivery.Device.Basic
import CastDelivery.Device.TearDown
import CastDelivery.Entity.Basic
import CastDelivery.Entity.Run
import CastDelivery.Entity.Raising
import CastDelivery.Entity.Responded
import CastDelivery.Entity.Accounted
import CastDelivery.Entity.RequestSource
import CastDelivery.Sensor
import CastDelivery.System.Readers
import CastDelivery.Urls.Yarl
import CastDelivery.Urls
import CastDelivery.Urls.Override
import CastDelivery.Urls.Stored
import CastDelivery.Urls.Source
import CastDelivery.Options.Basic
import CastDelivery.Options.Overrides
import CastDelivery.Options.Agreement
import CastDelivery.Options.Form
import CastDelivery.Playlist.Basic
import CastDelivery.Playlist.M3u
import CastDelivery.Playlist.Errors
import CastDelivery.Playlist.Pls
import CastDelivery.Release.Calver
import CastDelivery.Release.Basic
import CastDelivery.Release.Edits
import CastDelivery.Release.SetVersion
import CastDelivery.Release.VersionText
import CastDelivery.Release.NextCalver
import CastDelivery.Player.Basic
import CastDelivery.Player.Display
import CastDelivery.Player.Connection
import CastDelivery.Player.Orderly
import CastDelivery.HomeAssistantCast
import CastDelivery.Discovery.Propagation
import CastDelivery.Discovery.HealthSensors
import CastDelivery.Issues.Announcements
import CastDelivery.Release.Archive
import CastDelivery.Health.Untouched
import CastDelivery.Sensors.Board
import CastDelivery.Sensors.States

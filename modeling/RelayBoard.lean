import RelayBoard.Framework.Batch
import RelayBoard.Framework.BoundedQueue
import RelayBoard.Framework.BracketLoops
import RelayBoard.Framework.BracketWeight
import RelayBoard.Framework.Brackets
import RelayBoard.Framework.CSearch
import RelayBoard.Framework.CString
import RelayBoard.Framework.Chunk
import RelayBoard.Framework.Filled
import RelayBoard.Framework.FirstFit
import RelayBoard.Framework.Heap
import RelayBoard.Framework.Lines
import RelayBoard.Framework.Notify
import RelayBoard.Framework.Overwrite
import RelayBoard.Framework.Packing
import RelayBoard.Framework.Padded
import RelayBoard.Framework.Region
import RelayBoard.Framework.Rewriting
import RelayBoard.Framework.Streak
import RelayBoard.Framework.Template
import RelayBoard.Framework.Transition
import RelayBoard.Framework.Url
import RelayBoard.Framework.UrlForm
import RelayBoard.Platform.Esp
import RelayBoard.Platform.Gpio
import RelayBoard.Platform.Json
import RelayBoard.Platform.Nvs
import RelayBoard.Settings.Apply
import RelayBoard.Settings.Base
import RelayBoard.Settings.Keys
import RelayBoard.Settings.Ranges
import RelayBoard.Settings.Required
import RelayBoard.Relay.Board
import RelayBoard.Relay.Frame
import RelayBoard.Relay.Inputs
import RelayBoard.Relay.Memory
import RelayBoard.Relay.Pins
import RelayBoard.Relay.Unit
import RelayBoard.Web.Api
import RelayBoard.Web.CaCertPost
import RelayBoard.Web.FailedUpdate
import RelayBoard.Web.FirmwareCheck
import RelayBoard.Web.Form
import RelayBoard.Web.FormArrival
import RelayBoard.Web.FormRoundTrip
import RelayBoard.Web.Http
import RelayBoard.Web.IdentityChecks
import RelayBoard.Web.OneResponse
import RelayBoard.Web.OtaPage
import RelayBoard.Web.PinExclusivity
import RelayBoard.Web.Placeholders
import RelayBoard.Web.RelayRows
import RelayBoard.Web.RelaysPage
import RelayBoard.Web.RepeatedUpdate
import RelayBoard.Web.Reset
import RelayBoard.Web.SensorUpdate
import RelayBoard.Web.SettingBatch
import RelayBoard.Web.SettingRead
import RelayBoard.Web.SettingReadBack
import RelayBoard.Web.SettingUpdate
import RelayBoard.Web.SizedPlaceholder
import RelayBoard.Web.StaticFiles
import RelayBoard.Web.StaticPaths
import RelayBoard.Web.SubmitConfig
import RelayBoard.Web.TemplateLoops
import RelayBoard.Web.UpdateRelay
import RelayBoard.Web.UrlCoding
import RelayBoard.Web.UrlDecodeInPlace
import RelayBoard.Boot.Completeness
import RelayBoard.Boot.DeviceSettings
import RelayBoard.Boot.FirstFitBook
import RelayBoard.Boot.Gaps
import RelayBoard.Boot.Lookup
import RelayBoard.Boot.Preservation
import RelayBoard.Boot.Provisioning
import RelayBoard.Boot.Reconfiguration
import RelayBoard.Boot.Restart
import RelayBoard.Boot.Scan
import RelayBoard.Boot.SensorInputs
import RelayBoard.Boot.SetUp
import RelayBoard.Boot.Table
import RelayBoard.Boot.UnitBook
import RelayBoard.Boot.WellFormed
import RelayBoard.Device.Coherence
import RelayBoard.Device.Contact
import RelayBoard.Device.FinalEdge
import RelayBoard.Device.Operations
import RelayBoard.Device.RequiredFields
import RelayBoard.Device.SensorEvents
import RelayBoard.Device.SensorState
import RelayBoard.Device.Tasks
import RelayBoard.Device.TearDown
import RelayBoard.Mqtt.Client
import RelayBoard.Mqtt.CommandDelivery
import RelayBoard.Mqtt.Discovery
import RelayBoard.Mqtt.EntityDiscovery
import RelayBoard.Mqtt.EntityHeap
import RelayBoard.Mqtt.Freshness
import RelayBoard.Mqtt.HomeAssistantConfig
import RelayBoard.Mqtt.HomeAssistantHeap
import RelayBoard.Mqtt.LastCommand
import RelayBoard.Mqtt.Publication
import RelayBoard.Mqtt.PublicationInvariant
import RelayBoard.Mqtt.PublicationRuns
import RelayBoard.Mqtt.Queue
import RelayBoard.Mqtt.Splitter
import RelayBoard.Mqtt.SystemInfo
import RelayBoard.Mqtt.Topic
import RelayBoard.Mqtt.TopicBuffers
import RelayBoard.Mqtt.Turns
import RelayBoard.Mqtt.UnitData
import RelayBoard.Ota.MemoryGuard
import RelayBoard.Ota.StorageUpdate
import RelayBoard.Ota.StorageUrl
import RelayBoard.NvsLarge.ChunkKeys
import RelayBoard.NvsLarge.Overwrite
import RelayBoard.NvsLarge.RoundTrip
import RelayBoard.NvsLarge.StringLarge
import RelayBoard.Certificate.CaCertManager
import RelayBoard.Status.Memguard
import RelayBoard.Lifetime.FactoryReset
import RelayBoard.Lifetime.OtherNamespaces
import RelayBoard.Lifetime.Recovery
import RelayBoard.Lifetime.Tasks
import RelayBoard.NetLogging.Client
import RelayBoard.NetLogging.Delivery
import RelayBoard.NetLogging.Drain
import RelayBoard.NetLogging.Logger
import RelayBoard.NetLogging.Startup

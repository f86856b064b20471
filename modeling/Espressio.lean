import Espressio.ClientFrames
import Espressio.ClientDelivery
import Espressio.ClientNotices
import Espressio.EndpointReassembly
import Espressio.SinkRelease
import Espressio.EndpointSessions
import Espressio.CloseFrames
import Espressio.LateMessages
import Espressio.CloseReasons
import Espressio.HttpServerTasks
import Espressio.ResponseMessage
import Espressio.DnsAnswers
import Espressio.ResponseFraming
import Espressio.DnsServerLifecycle
import Espressio.DnsNameBuffer
import Espressio.RadioDelivery
import Espressio.RadioInstances
import Espressio.RadioFrames
import Espressio.WiFiNetworks
import Espressio.WiFiEvents
import Espressio.ReconnectDeadline
import Espressio.PreferencesStorage
import Espressio.CredentialLifetime
import Espressio.ResponseSplitting
import Espressio.HeadResponses
import Espressio.ReceiverLocks
import Espressio.InterruptHandlers
import Espressio.WiFiSnapshots
import Espressio.WiFiScans
import Espressio.RadioTimestamps
import Espressio.FileReaders
import Espressio.TickConversion
import Espressio.CloseReasonText
import Espressio.RequestBody
import Espressio.HeaderMap
import Espressio.MemoryStatistics
import Espressio.UdpDestinations
import Espressio.StreamExchange
import Espressio.ConnectPacing
import Espressio.WiFiQuiet
import Espressio.WiFiDriverCalls
import Espressio.SynchronizationProvider
import Espressio.QueueProvider
import Espressio.ArduinoGPIOProvider
import Espressio.ClockProvider
import Espressio.RequestHeaders
import Espressio.MqttTraffic
import Espressio.RadioDriver
import Espressio.FileOperations
import Espressio.StorageMounts

import CppRcp.Foundation.Octets
import CppRcp.Foundation.Table
import CppRcp.Foundation.Runs
import CppRcp.Foundation.ReflectedCrc
import CppRcp.Foundation.Least
import CppRcp.Wire.ErrorCode
import CppRcp.Wire.Acf
import CppRcp.Wire.Header
import CppRcp.Wire.Request
import CppRcp.Wire.E2e
import CppRcp.Wire.Checksum
import CppRcp.Wire.Protection
import CppRcp.Wire.Reserved
import CppRcp.Wire.Fragment
import CppRcp.Wire.RespQueue
import CppRcp.Wire.Eviction
import CppRcp.Wire.QueueRuns
import CppRcp.Admission.Conditions
import CppRcp.Admission.Store
import CppRcp.Admission.Endpoint
import CppRcp.Admission.Effects
import CppRcp.Admission.StoreRuns
import CppRcp.Admission.Selection
import CppRcp.Admission.ReadyRequests
import CppRcp.Streams.Config
import CppRcp.Streams.Guards
import CppRcp.Streams.SequenceRuns
import CppRcp.Peripherals.Common
import CppRcp.Peripherals.Endpoints
import CppRcp.Peripherals.Errors
import CppRcp.Mock.State
import CppRcp.Mock.Dispatch
import CppRcp.Mock.E2eDispatch
import CppRcp.Mock.Effects
import CppRcp.Mock.E2eEffects
import CppRcp.Mock.Frame
import CppRcp.Mock.Run
import CppRcp.Mock.FrameEffects
import CppRcp.Mock.Splitting
import CppRcp.Properties.FrameResults
import CppRcp.Properties.Transactions
import CppRcp.Properties.FragmentSequence
import CppRcp.Properties.ClearRequests
import CppRcp.Properties.StreamFaults
import CppRcp.Properties.ChainAbort
import CppRcp.Properties.ChainIndependence
import CppRcp.Mock.Reassembly
import CppRcp.Properties.JoinedFragments
import CppRcp.Properties.ResponseFragments
import CppRcp.Properties.Wrapping
import CppRcp.Properties.Unwrapping
import CppRcp.Properties.RoundTrip
import CppRcp.Properties.Bursts
import CppRcp.Foundation.Sweep
import CppRcp.Admission.Ledger
import CppRcp.Admission.Cancellation
import CppRcp.Properties.SafetyPurge
import CppRcp.Foundation.Patch
import CppRcp.Streams.StreamTable
import CppRcp.Properties.TableWrites
import CppRcp.Admission.Retention
import CppRcp.Mock.StoreEffects
import CppRcp.Mock.EndpointSteps
import CppRcp.Mock.Tagging
import CppRcp.Mock.ChainRecords
import CppRcp.Mock.ReadyMembers
import CppRcp.Mock.FrameRecords
import CppRcp.Mock.ChainLoop
import CppRcp.Properties.ClearedChains
import CppRcp.Foundation.RowBlock
import CppRcp.Streams.MappedTables
import CppRcp.Properties.RowWrites
import CppRcp.Admission.Lifecycle
import CppRcp.Properties.LedgerLifecycle
import CppRcp.Properties.Repetition
import CppRcp.Properties.HeldRequests
import CppRcp.Wire.Planning
import CppRcp.Wire.Reassembling
import CppRcp.Properties.PlannedSegments
import CppRcp.Properties.ReassembledMessages
import CppRcp.Wire.AcfMessages
import CppRcp.Properties.FrameWalks
import CppRcp.Mock.ResponseRouting
import CppRcp.Properties.RoutedResponses
import CppRcp.Properties.ChainedOrder
import CppRcp.Properties.WrittenBlocks
import CppRcp.Properties.Associations
import CppRcp.Peripherals.Wakeup
import CppRcp.Properties.WakeupWrites
import CppRcp.Properties.LifecycleGate
import CppRcp.Properties.StandardRequests
import CppRcp.Properties.Deferral
import CppRcp.Properties.WithheldFragments
import CppRcp.Peripherals.Messages
import CppRcp.Properties.MessageLengths
import CppRcp.Peripherals.FragmentMessages
import CppRcp.Properties.FragmentedResponses
import CppRcp.Wire.Avtp
import CppRcp.Wire.Frames
import CppRcp.Properties.FrameRoundTrips
import CppRcp.Wire.Padding
import CppRcp.Properties.PaddedWrites
import CppRcp.Properties.SegmentedWrites
import CppRcp.Properties.WriteArrivals
import CppRcp.Properties.CascadeReach
import CppRcp.Streams.GenericTable
import CppRcp.Properties.GenericWrites
import CppRcp.Properties.PresentationTimes
import CppRcp.Foundation.SlotTable
import CppRcp.Streams.WatchdogManager
import CppRcp.Properties.WatchdogMap
import CppRcp.Mock.WatchdogEffects
import CppRcp.Properties.WatchdogTiming
import CppRcp.Bringup.Lifecycle
import CppRcp.Properties.LifecycleRuns
import CppRcp.Bringup.Ep0
import CppRcp.Properties.Ep0Access
import CppRcp.Bringup.DiscoveryClaim
import CppRcp.Properties.DiscoveryLease
import CppRcp.Bringup.DiscoveryResponse
import CppRcp.Properties.DiscoveryRoundTrip
import CppRcp.Properties.RequestRoundTrips
import CppRcp.Properties.SequencerRuns
import CppRcp.Wire.Batching
import CppRcp.Peripherals.Registers
import CppRcp.Properties.RegisterWrites
import CppRcp.Peripherals.Setters
import CppRcp.Properties.AdcWrites
import CppRcp.Properties.ModeChecks
import CppRcp.Peripherals.Decoders
import CppRcp.Foundation.PackedWords
import CppRcp.Properties.CanRoundTrips
import CppRcp.Properties.MdioRoundTrips
import CppRcp.Wire.Ethernet
import CppRcp.Properties.PaddedFrames
import CppRcp.Host.Client
import CppRcp.Properties.PendingCalls
import CppRcp.Foundation.Pool
import CppRcp.Host.Redundancy
import CppRcp.Properties.Failover
import CppRcp.Host.Deadline
import CppRcp.Properties.LivenessReports
import CppRcp.Foundation.Fifo
import CppRcp.Peripherals.PendingBuffer
import CppRcp.Properties.PendingAverages
import CppRcp.Foundation.TrailingRuns
import CppRcp.Peripherals.Signals
import CppRcp.Properties.DebouncedPins
import CppRcp.Properties.UartQueues
import CppRcp.Foundation.Phases
import CppRcp.Properties.PulseTriggers
import CppRcp.Bringup.Power
import CppRcp.Properties.PowerModes
import CppRcp.Foundation.Readers
import CppRcp.Host.Record
import CppRcp.Properties.RecordFiles
import CppRcp.Bringup.Config
import CppRcp.Foundation.JsonText
import CppRcp.Properties.ManifestReading
import CppRcp.Properties.ManifestObjects
import CppRcp.Properties.ManifestStrings
import CppRcp.Properties.ManifestRoundTrip
import CppRcp.Foundation.Budget
import CppRcp.Host.RateLimit
import CppRcp.Properties.AdmissionWindows
import CppRcp.Foundation.Ownership
import CppRcp.Host.Loan
import CppRcp.Properties.LoanedBuffers
import CppRcp.Host.Shmem
import CppRcp.Properties.SharedSlots
import CppRcp.Properties.PartialLoads
import CppRcp.Properties.ManifestLaws
import CppRcp.Peripherals.Bitframe
import CppRcp.Properties.Bitframes
import CppRcp.Cli.Json
import CppRcp.Foundation.Base64
import CppRcp.Properties.Base64Runs
import CppRcp.Foundation.JsonGrammar
import CppRcp.Properties.HeaderRoundTrips
import CppRcp.Properties.JsonReading
import CppRcp.Properties.JsonValues
import CppRcp.Cli.Sink
import CppRcp.Properties.SinkLines
import CppRcp.Properties.PwmWrites
import CppRcp.Foundation.Behaviours
import CppRcp.Foundation.Waiting
import CppRcp.Properties.BoundedWaiting
import CppRcp.Properties.LifecycleSpec
import CppRcp.Properties.NamedResponses
import CppRcp.Host.Network
import CppRcp.Properties.NetworkMessages
import CppRcp.Properties.NetworkAgreement
import CppRcp.Properties.NetworkCalls

import Wificond.AttributeBounds
import Wificond.AttributeTree
import Wificond.SyncExchange
import Wificond.ReceiveBounds
import Wificond.TypedReads
import Wificond.SplitWiphyDump
import Wificond.ServerHandlers
import Wificond.ServerOwners
import Wificond.ServerIfaceMap
import Wificond.ServerBands
import Wificond.ServerCleanup
import Wificond.FrameTxStatus
import Wificond.StationQueries
import Wificond.RequestLengths
import Wificond.LeftoverPackets
import Wificond.NestedReceive
import Wificond.RetainedObjects
import Wificond.ScheduledScan
import Wificond.SingleScan
import Wificond.FamilyDiscovery
import Wificond.WiphyOutputs
import Wificond.ScanResults
import Wificond.BandFrequencies
import Wificond.ServerFailures
import Wificond.PnoIntervals
import Wificond.PnoFlag
import Wificond.PnoFrequencies
import Wificond.ServerAnnouncements
import Wificond.RegulatoryBroadcasts
import Wificond.HandlerRemoval
import Wificond.OneShotScans
import Wificond.EventRouting
import Wificond.PaddedDatagrams
import Wificond.Accumulation
import Wificond.BandContributions
import Wificond.BandComposition
import Wificond.SequenceNumbers
import Wificond.RegulatoryChanges
import Wificond.PnoProbes
import Wificond.WalkerAgreement
import Wificond.AccessLog
import Wificond.PacketReads
import Wificond.ControlResponses
import Wificond.Unwinding
import Wificond.WiphyAssignments
import Wificond.ClientMemory
import Wificond.MemoryIndependence
import Wificond.SocketAnswers
import Wificond.InterfaceDump
import Wificond.ReportedInterfaces
import Wificond.Acknowledgements
import Wificond.NodevAborts
import Wificond.SplitAgreement
import Wificond.ObjectNumbers
import Wificond.SoftApEvents
import Wificond.AnnouncementOrder
import Wificond.ScanDump
import Wificond.PolledSignals
import Wificond.FamilyStart
import Wificond.Subscriptions
import Wificond.ScanEvents
import Wificond.BroadcastDelivery
import Wificond.ClientStates
import Wificond.AssociationEvents
import Wificond.FrameStatusEvents
import Wificond.DeviceCapabilities

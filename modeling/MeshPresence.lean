import MeshPresence.TextOperations
import MeshPresence.FiniteMaps
import MeshPresence.FallibleSteps
import MeshPresence.GuardedRuns
import MeshPresence.OrderedPublication
import MeshPresence.ChangeJournal
import MeshPresence.AgentTypes
import MeshPresence.AgentConfig
import MeshPresence.AgentWire
import MeshPresence.AnnouncementInvariant
import MeshPresence.WireRoundTrip
import MeshPresence.SignatureVerification
import MeshPresence.SignaturePayload
import MeshPresence.AgentRegistry
import MeshPresence.AgentListener
import MeshPresence.RegistryJournal
import MeshPresence.RegistryQueries
import MeshPresence.ExactEviction
import MeshPresence.ListenerAdmission
import MeshPresence.ServiceRemoval
import MeshPresence.MeshRuntime
import MeshPresence.MeshEffects
import MeshPresence.LocalEntry
import MeshPresence.LocalPublication
import MeshPresence.ShutdownFinality
import MeshPresence.SigningWindow
import MeshPresence.ValidatedConfig
import MeshPresence.FirstOccurrences
import MeshPresence.KeyShadowing
import MeshPresence.AnnouncementMethods
import MeshPresence.CapabilityHistory
import MeshPresence.LocalLifetime
import MeshPresence.CampRecords
import MeshPresence.EventStream
import MeshPresence.CampWatch
import MeshPresence.ServiceRefresh
import MeshPresence.FailedUpdates
import MeshPresence.MeshStartup
import MeshPresence.DaemonRelease
import MeshPresence.MeshBuilder
import MeshPresence.CampDiscovery
import MeshPresence.VerifiedObservers
import MeshPresence.PeerGrammar
import MeshPresence.PeerCanonicity
import MeshPresence.ObservationTimes
import MeshPresence.FaithfulCapabilities
import MeshPresence.MetadataRules
import MeshPresence.SubstringSearch
import MeshPresence.AgentsGuidance
import MeshPresence.GuidanceRuns
import MeshPresence.CampQueries
import MeshPresence.Reorderings
import MeshPresence.QueryHistories
import MeshPresence.SeparatedLists
import MeshPresence.ServiceTypes
import MeshPresence.SqueezedRuns
import MeshPresence.AgentSlugs
import MeshPresence.RunTraces
import MeshPresence.NodeFamilies
import MeshPresence.CopyInvariants
import MeshPresence.ServiceTransport
import MeshPresence.MeshNetwork
import MeshPresence.PeerProvenance
import MeshPresence.MarkedLines
import MeshPresence.SignedFields
import MeshPresence.PeerAuthenticity
import MeshPresence.CurrentAnnouncement
import MeshPresence.PeerViews
import MeshPresence.PresenceViews
import MeshPresence.RegistryRefinement
import MeshPresence.GoodbyeRemovals
import MeshPresence.BroadcastChannels
import MeshPresence.EventChannel
import MeshPresence.BoundedStreams
import MeshPresence.FilePaths
import MeshPresence.WatchOutputs
import MeshPresence.StateFiles
import MeshPresence.WatchLines
import MeshPresence.BuilderCalls
import MeshPresence.CampConfigFiles
import MeshPresence.CampCommands
import MeshPresence.SharedConfigs
import MeshPresence.DroppedNodes
import MeshPresence.FairRuns
import MeshPresence.NodeProgress
import MeshPresence.SettledMeshes

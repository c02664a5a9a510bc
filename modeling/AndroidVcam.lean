import AndroidVcam.Lib.TextFile
import AndroidVcam.Lib.Wire
import AndroidVcam.Routing.RouteResolver
import AndroidVcam.Routing.ScopedCameraRouter
import AndroidVcam.Binder.TransactionClassifier
import AndroidVcam.Binder.ParcelObserver
import AndroidVcam.Binder.CameraIdRewriter
import AndroidVcam.Binder.AndroidFormat
import AndroidVcam.Router.OnTransact
import AndroidVcam.Router.Decision
import AndroidVcam.Router.InternalGuard
import AndroidVcam.Router.Attribution
import AndroidVcam.Router.Coherence
import AndroidVcam.Bootstrap.Launcher
import AndroidVcam.Routing.Consumers
import AndroidVcam.Lib.Publication
import AndroidVcam.Router.MapPublication
import AndroidVcam.Daemon.ControlDaemon
import AndroidVcam.Daemon.Protocol
import AndroidVcam.Daemon.MemorySafety
import AndroidVcam.Evidence.ProtocolEvidence
import AndroidVcam.Evidence.RouterStats
import AndroidVcam.Evidence.CapabilityEvaluator
import AndroidVcam.Evidence.StatsAgreement
import AndroidVcam.Evidence.Authorisation
import AndroidVcam.Lib.FileTree
import AndroidVcam.Lib.Shell
import AndroidVcam.Controller.Checks
import AndroidVcam.Controller.Routes
import AndroidVcam.Controller.RouteStore
import AndroidVcam.Controller.FramePublisher
import AndroidVcam.Controller.Providers
import AndroidVcam.Controller.RouteRemoval
import AndroidVcam.Controller.RouteFailures
import AndroidVcam.Lib.Race
import AndroidVcam.Controller.RouteRaces
import AndroidVcam.Controller.Footprint
import AndroidVcam.Controller.Confinement
import AndroidVcam.Controller.UserProviders
import AndroidVcam.Frame.FrameState
import AndroidVcam.Frame.Grammar
import AndroidVcam.Frame.Streamer
import AndroidVcam.Frame.Freshness
import AndroidVcam.Hal.Capture
import AndroidVcam.Hal.CaptureContract
import AndroidVcam.Lib.Scanf
import AndroidVcam.Hal.SourceViews
import AndroidVcam.Hal.StreamConfiguration
import AndroidVcam.Daemon.Transfer
import AndroidVcam.Manager.BackendClient
import AndroidVcam.Controller.Runners
import AndroidVcam.Controller.MediaImport
import AndroidVcam.Controller.MetaFile
import AndroidVcam.Controller.ProviderUpdate
import AndroidVcam.Controller.RuntimeConfig
import AndroidVcam.Lib.A64
import AndroidVcam.Runtime.PatchPlanner
import AndroidVcam.Lib.Dialogue
import AndroidVcam.Runtime.PatchTransaction
import AndroidVcam.Runtime.PatchMemory
import AndroidVcam.Runtime.PatchTrace
import AndroidVcam.Lib.Ranges
import AndroidVcam.Runtime.ThreadQuiescence
import AndroidVcam.Runtime.ParkLedger
import AndroidVcam.Runtime.QuiescenceSafety
import AndroidVcam.Runtime.QuiescenceRuns
import AndroidVcam.Runtime.SignalPark
import AndroidVcam.Runtime.ThreadEnumeration
import AndroidVcam.Lib.Custody
import AndroidVcam.Hal.OemProxy
import AndroidVcam.Hal.ProxyFailures
import AndroidVcam.Hal.ProxyCustody
import AndroidVcam.Evidence.EvidenceHistory
import AndroidVcam.Runtime.PlanShape
import AndroidVcam.Lib.A64Machine
import AndroidVcam.Runtime.HookSemantics
import AndroidVcam.Binder.RewriteExact
import AndroidVcam.Binder.MessageFormat
import AndroidVcam.Binder.StatusReply
import AndroidVcam.Binder.CaptureRequests
import AndroidVcam.Lib.WeakTable
import AndroidVcam.Router.ListenerRegistry
import AndroidVcam.Frame.Sampling
import AndroidVcam.Frame.Geometry
import AndroidVcam.Frame.Thumbnail
import AndroidVcam.Lib.Base64
import AndroidVcam.Manager.BackendFrame
import AndroidVcam.Frame.PublisherStream
import AndroidVcam.Lib.Hex
import AndroidVcam.Lib.Keyed
import AndroidVcam.Runtime.AbiRecipe
import AndroidVcam.Lib.Tokens
import AndroidVcam.Runtime.ProcMaps
import AndroidVcam.Runtime.StaticTrampoline
import AndroidVcam.Runtime.ActivationPreflight
import AndroidVcam.Runtime.BuildId
import AndroidVcam.Lib.Sha256
import AndroidVcam.Runtime.Sha256
import AndroidVcam.Hal.StaticMetadata
import AndroidVcam.Manager.HttpsDownloader
import AndroidVcam.Runtime.AbiGuard
import AndroidVcam.Runtime.HookStrategy

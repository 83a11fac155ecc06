import GhostMedia.Core.PeerId
import GhostMedia.Core.Sha256InPlace
import GhostMedia.Media.HeaderCodec
import GhostMedia.Media.ReplayRefinement
import GhostMedia.Control.JsonAcceptance
import GhostMedia.Control.StringDecoding
import GhostMedia.Control.Extraction
import GhostMedia.Media.BitmapShift
import GhostMedia.Control.ParserSafety
import GhostMedia.Control.ResultTexts
import GhostMedia.Session.StartSafety
import GhostMedia.Session.KeyFreshness
import GhostMedia.Session.Teardown
import GhostMedia.Session.Responses
import GhostMedia.Session.Admission
import GhostMedia.Session.Repetition
import GhostMedia.Session.RequestIds
import GhostMedia.Session.Metrics
import GhostMedia.Bridge.Segmentation
import GhostMedia.Bridge.ControlSession
import GhostMedia.Security.Continuity
import GhostMedia.Security.Certificate
import GhostMedia.Security.CertificateLife
import GhostMedia.Security.IdentityLife
import GhostMedia.Security.PinnedIdentity
import GhostMedia.Security.TrustMap
import GhostMedia.Runtime.TlsAuthorization
import GhostMedia.Media.EpochWindow
import GhostMedia.Interop.MediaRoundTrip
import GhostMedia.Interop.AudioLoop
import GhostMedia.Interop.SwiftMessage
import GhostMedia.Foundation.Dialogue
import GhostMedia.Session.ErrorReplies
import GhostMedia.Session.CloseAgain
import GhostMedia.Interop.RequestBuilders
import GhostMedia.Interop.ControlReceivers
import GhostMedia.Interop.ProbeRun
import GhostMedia.Interop.HarnessRun
import GhostMedia.Interop.PlaintextListener
import GhostMedia.Interop.Phase3Texts
import GhostMedia.Foundation.Turns
import GhostMedia.Interop.Phase3Setup
import GhostMedia.Interop.ProbeScript
import GhostMedia.Interop.HarnessScript
import GhostMedia.Interop.Phase3Network
import GhostMedia.Interop.Phase3Delivery
import GhostMedia.Interop.Phase3Safety
import GhostMedia.Interop.ProbeConduct
import GhostMedia.Interop.HarnessFailures
import GhostMedia.Interop.HarnessLifecycle
import GhostMedia.Interop.HarnessConduct
import GhostMedia.Foundation.Monitors
import GhostMedia.Runtime.SocketProvider
import GhostMedia.Runtime.SocketSafety
import GhostMedia.Runtime.SocketRuns
import GhostMedia.Runtime.SocketConnections
import GhostMedia.Foundation.Simulation
import GhostMedia.Session.Protocol
import GhostMedia.Session.ProtocolRefinement

import WTerm.Lib.Transition
import WTerm.Lib.Window
import WTerm.Lib.Watermark
import WTerm.Lib.Tally
import WTerm.Lib.OrderedDict
import WTerm.Lib.Recency
import WTerm.Lib.Shell
import WTerm.Python.Text
import WTerm.Python.Lines
import WTerm.Python.Json
import WTerm.Python.JsonScan
import WTerm.Python.JsonBytes
import WTerm.Python.Url
import WTerm.Python.Shlex
import WTerm.Python.Utf8
import WTerm.Config.Model
import WTerm.Config.Load
import WTerm.Config.Accepted
import WTerm.Config.Safe
import WTerm.Web.Origin
import WTerm.Session.Basic
import WTerm.Session.Outbound
import WTerm.Session.Lifecycle
import WTerm.Session.Protocol
import WTerm.Session.Step
import WTerm.Session.Input
import WTerm.Session.Stream
import WTerm.Session.StreamSteps
import WTerm.Session.Backpressure
import WTerm.Session.BackpressureSteps
import WTerm.Session.Accounting
import WTerm.Control.Machine
import WTerm.Control.Core
import WTerm.Control.Clients
import WTerm.Control.Timers
import WTerm.Manager.World
import WTerm.Manager.System
import WTerm.Manager.Refinement
import WTerm.Manager.Invariants
import WTerm.Manager.Expiry
import WTerm.Manager.OneProcess
import WTerm.Manager.Streams
import WTerm.Manager.Attached
import WTerm.Manager.Flow
import WTerm.Manager.Termination
import WTerm.Auth.Login
import WTerm.Auth.Backoff
import WTerm.Auth.Tokens
import WTerm.Auth.TokenStore
import WTerm.Auth.LoginRequest
import WTerm.Auth.Revocation
import WTerm.Auth.Logout
import WTerm.Process.PidFile
import WTerm.Status.Hub
import WTerm.Status.HubSteps
import WTerm.Status.CodexScan
import WTerm.Status.Failure
import WTerm.Status.FailureFlags
import WTerm.Web.Routes
import WTerm.Web.Unauthenticated
import WTerm.Web.Path
import WTerm.Web.OriginList
import WTerm.Manager.Command
import WTerm.Manager.Spawns
import WTerm.Manager.Frames
import WTerm.Client.Hash
import WTerm.Client.Restore
import WTerm.Client.Pane
import WTerm.Client.Page
import WTerm.Client.PageSteps
import WTerm.Client.Tab
import WTerm.Client.Sockets
import WTerm.Client.Connections
import WTerm.Client.Reconnect
import WTerm.Audit.Record
import WTerm.Audit.Throttle
import WTerm.Client.View
import WTerm.Client.ViewSteps
import WTerm.Client.Shown
import WTerm.Client.ShownSteps
import WTerm.Client.ShownRuns
import WTerm.Client.Terminal
import WTerm.Client.TerminalSteps
import WTerm.Client.StatusChannel
import WTerm.Client.Sidebar
import WTerm.Client.SidebarSteps
import WTerm.Web.JsonWrite
import WTerm.Client.Message
import WTerm.Manager.Inputs
import WTerm.Client.Typing
import WTerm.Client.TypingSteps
import WTerm.Lib.TimedCache
import WTerm.Status.CodexCache
import WTerm.Manager.Shutdown
import WTerm.Manager.ShutdownRuns
import WTerm.Manager.ShutdownTime
import WTerm.Web.JsonFind
import WTerm.Status.RemoteHistory
import WTerm.Status.HistoryCheck

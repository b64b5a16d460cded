import Rzmq.Security.Curve.Replay
import Rzmq.Socket.Req.Correlation
import Rzmq.Socket.Req.Reply
import Rzmq.Socket.Req.Alternation
import Rzmq.Socket.Pull.Delivery
import Rzmq.Uring.Secured
import Rzmq.Socket.Router.Identity
import Rzmq.Socket.Receivers.Account
import Rzmq.Socket.Rep.Recv
import Rzmq.Socket.Rep.Reply
import Rzmq.Socket.Envelope
import Rzmq.Session.NullLink
import Rzmq.Security.NoiseClient
import Rzmq.Session.PeerIdentity
import Rzmq.Transport.TcpListener
import Rzmq.Transport.Inproc
import Rzmq.Uring.Reuse
import Rzmq.Uring.RoutingReuse
import Rzmq.Uring.Delivery
import Rzmq.Security.Curve.Crash
import Rzmq.Session.ReadLimit
import Rzmq.Socket.Sub.Filter
import Rzmq.Runtime.WaitGroup
import Rzmq.Socket.Balancer
import Rzmq.Core.Phases
import Rzmq.Socket.Dealer.Backlog
import Rzmq.Socket.PeerSets
import Rzmq.Socket.Permits
import Rzmq.Socket.Dealer.Transactions
import Rzmq.Session.Phases
import Rzmq.Transport.TcpConnecter
import Rzmq.Transport.InprocRegistry
import Rzmq.Uring.Heartbeat
import Rzmq.Session.Throttle

import Rgrpc.Library.Machine
import Rgrpc.Library.Arena
import Rgrpc.Library.Potential
import Rgrpc.Library.Registry
import Rgrpc.Library.Traverse
import Rgrpc.Library.Channel
import Rgrpc.Common
import Rgrpc.Poll
import Rgrpc.Inbox
import Rgrpc.Server.Call
import Rgrpc.Server.Server
import Rgrpc.Server.Inversion
import Rgrpc.Server.Ledger
import Rgrpc.Server.Phase
import Rgrpc.Server.Runs
import Rgrpc.Server.Discipline
import Rgrpc.Server.Output
import Rgrpc.Server.Capacity
import Rgrpc.Server.Handover
import Rgrpc.Server.Flow
import Rgrpc.Server.Load
import Rgrpc.Server.Feed
import Rgrpc.Server.Grammar
import Rgrpc.Server.Events
import Rgrpc.Server.Abandoned
import Rgrpc.Server.Learned
import Rgrpc.Server.Peer
import Rgrpc.Server.Atomic
import Rgrpc.Server.Termination
import Rgrpc.Server.Stranded
import Rgrpc.Server.Waiting
import Rgrpc.Server.Context
import Rgrpc.Server.Ending
import Rgrpc.Server.Closing
import Rgrpc.Server.Credit
import Rgrpc.Server.Rest
import Rgrpc.Server.Progress
import Rgrpc.Client.Stream
import Rgrpc.Client.Client
import Rgrpc.Client.Ledger
import Rgrpc.Client.Phase
import Rgrpc.Client.Inversion
import Rgrpc.Client.Runs
import Rgrpc.Client.Discipline
import Rgrpc.Client.Inbound
import Rgrpc.Client.Decorate
import Rgrpc.Client.Flow
import Rgrpc.Client.Output
import Rgrpc.Client.Ending
import Rgrpc.Client.Feed
import Rgrpc.Client.Events
import Rgrpc.Client.Onward
import Rgrpc.Client.Waiting
import Rgrpc.Client.HalfClose
import Rgrpc.Client.Tally
import Rgrpc.Lifetime
import Rgrpc.Delivery
import Rgrpc.EndToEnd
import Rgrpc.Outcome
import Rgrpc.Client.Window
import Rgrpc.Client.Buffers
import Rgrpc.Client.Credit
import Rgrpc.Client.Rest
import Rgrpc.Client.Progress
import Rgrpc.Client.Closing
import Rgrpc.Polling
import Rgrpc.Fairness
import Rgrpc.Client.Names
import Rgrpc.Client.Turns
import Rgrpc.Server.Turns
import Rgrpc.Server.Answers
import Rgrpc.Network
import Rgrpc.Shadow
import Rgrpc.Projection
import Rgrpc.Conversation
import Rgrpc.Completion
import Rgrpc.Client.Session
import Rgrpc.Client.Typed
import Rgrpc.Client.Pending
import Rgrpc.Wakeups
import Rgrpc.Deadline
import Rgrpc.Bounds

/-
This file says what R at one end of the network knows of R at the other. What
polls take of an id is compared with what was sent with the id of the call at
the other end, through the tables, the queues and the wires in between. A poll
returns the batch it took, unless the batch cannot be converted to R values; then
it raises an error and the batch is lost.

The ids of the two ends are unrelated. Each end gives its own in the order of its
starts, and the network decides which calls meet.
-/

import Rgrpc.Client.Feed
import Rgrpc.Projection
import Rgrpc.Server.Answers
import Rgrpc.Server.Feed
import Mathlib.Data.List.Flatten

namespace Rgrpc

open Library

/-! ### What R gave and what R was given -/

namespace Client

/-- Whether an observation is a poll that raised: the batch it took is lost. -/
def ClientObs.loses : ClientObs → Bool
  | .polled _ (.error _) => true
  | _ => false

/-- The message an event hands to R: that of a `stream_msg`, and the response of a `unary` event
with an OK status. -/
def ClEvent.handed (event : ClEvent) : Option (Option Bytes) :=
  if event.kind = .smsg ∨ event.kind = .unary ∧ event.status = 0 then some event.payload else none

/-- Whether an operation broke a call. -/
def Rpc.broken (log : List ClientObs) : Rpc → Bool
  | .unary _ => false
  | .stream address => broke (streamLog address log)

end Client

namespace Server

/-- Whether an observation is a poll that raised: the batch it took is lost. -/
def ServerObs.loses : ServerObs → Bool
  | .polled _ (.error _) => true
  | _ => false

end Server

namespace Client

section Events

end Events

end Client

/-! ### What R knows -/

end Rgrpc

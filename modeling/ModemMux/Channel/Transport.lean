import ModemMux.Bytes
import ModemMux.Channel.Error

/-!
# The channel layer below the multiplexer

A transport opens a channel for a tag, closes it and takes payloads for it. Its answers may depend
on all that went before, so each request takes the transport's state and gives the next one.
-/

namespace ModemMux

/-- The answer to a payload that is not refused. -/
inductive Submission where
  /-- The channel has taken the payload. -/
  | accepted
  /-- The channel is full and hands the payload back. -/
  | retry (payload : Bytes)
  deriving DecidableEq, Repr

/-- A request of the channel layer to stop or to restart a session. -/
structure Signal where
  session : SessionId
  /-- Whether the session is to stop. -/
  engage : Bool
  deriving DecidableEq, Repr

/-- A channel layer whose state is part of `ω`. -/
class Transport (ω : Type) where
  /-- Binds a channel to a tag. -/
  openChannel : Tag → ω → Except ChannelError ChannelId × ω
  /-- Releases the channel that was bound to a tag. -/
  closeChannel : Tag → ChannelId → ω → Except ChannelError Unit × ω
  /-- Queues a payload; the signals that this gives rise to come with the answer. -/
  submit : Tag → ChannelId → Bytes → ω → Except ChannelError Submission × List Signal × ω

end ModemMux

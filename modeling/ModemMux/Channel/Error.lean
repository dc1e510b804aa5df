import ModemMux.Channel.Id
import ModemMux.Tag

/-!
# What the modem's channels refuse
-/

namespace ModemMux

inductive ChannelError where
  /-- No channel is free. -/
  | exhausted (tag : Tag)
  /-- The modem does not grant the request. -/
  | refused (tag : Tag) (reason : String)
  /-- The channel was never opened, or is closed again. -/
  | notOpen (channel : ChannelId)
  /-- The channel was opened for another tag. -/
  | tagMismatch (channel : ChannelId) (tag bound : Tag)
  /-- The transfer failed. -/
  | io (reason : String)
  deriving DecidableEq, Repr

def ChannelError.message : ChannelError → String
  | .exhausted tag => s!"no free channel for tag {tag}"
  | .refused tag reason => s!"channel request refused for tag {tag}: {reason}"
  | .notOpen channel => s!"channel {channel.display} is not open"
  | .tagMismatch channel tag bound =>
    s!"channel {channel.display} is bound to tag {bound}, not {tag}"
  | .io reason => s!"channel I/O error: {reason}"

end ModemMux

/-!
# What can go wrong with a frame
-/

namespace ModemMux

/-- Why a frame, or an address in its header, could not be handled. -/
inductive FrameError where
  /-- The frame is shorter than the header to be removed or overwritten. -/
  | headerTooShort (len need : Nat)
  /-- There is no memory for a buffer of this size. -/
  | outOfMemory (size : Nat)
  /-- The text is no hardware address. -/
  | invalidMac (text : String)
  deriving DecidableEq, Repr

def FrameError.message : FrameError → String
  | .headerTooShort len need => s!"frame too short for link header ({len} bytes, need {need})"
  | .outOfMemory size => s!"failed to allocate {size} byte frame buffer"
  | .invalidMac text => s!"invalid MAC address '{text}'"

end ModemMux

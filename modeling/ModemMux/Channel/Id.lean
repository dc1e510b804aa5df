/-!
# Channel ids

The modem names an open channel by a number. Negative numbers name no channel.
-/

namespace ModemMux

/-- The modem's name for a channel. -/
structure ChannelId where
  raw : Int
  deriving DecidableEq, Repr, Inhabited

namespace ChannelId

/-- The id of a session that has lost its channel. -/
def invalid : ChannelId := ⟨-1⟩

/-- The number of ids that can name a channel: they are thirty-two bit numbers with a sign. -/
def idLimit : Nat := UInt32.size / 2

def ofNat (n : Nat) : ChannelId := ⟨n⟩

/-- Whether the id can name a channel. -/
def isValid (c : ChannelId) : Bool := 0 ≤ c.raw

@[simp] theorem isValid_ofNat (n : Nat) : (ofNat n).isValid = true := by
  simp [isValid, ofNat]

theorem ofNat_inj {m n : Nat} : ofNat m = ofNat n ↔ m = n := by
  simp only [ofNat, ChannelId.mk.injEq]
  omega

/-- The number alone. -/
def display (c : ChannelId) : String := toString c.raw

def describe (c : ChannelId) : String :=
  if c.isValid then s!"ChannelId({c.display})" else "ChannelId(invalid)"

end ChannelId

end ModemMux

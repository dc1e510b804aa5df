import ModemMux.Device

/-!
# From the modem to the host

A downlink buffer starts with room for a header. The device writes its own address there, that of
its peer and the type that the payload's first bits call for, counts the packet and hands the frame
to the host. Neither a missing session nor a full host stops the frame.
-/

namespace ModemMux

/-- The class under which a downlink payload is announced: control payloads are never announced
as IP. -/
def downlinkClass (control : Bool) (payload : Bytes) : PayloadClass :=
  if control then .other else .sniff payload

namespace Device

variable {ω : Type} [HostStack ω]

/-- Hands a downlink buffer to the host, as a frame of the session with an id. -/
def receive (id : SessionId) (buffer : Bytes) (control : Bool) (d : Device ω) :
    Except MuxError Unit × Device ω :=
  if buffer.length < Frame.plainHeader then (.error (.malformedFrame buffer.length), d)
  else match (Tag.ofSession? id).filter (·.classify != .invalid) with
    | none => (.error (.invalidSessionId id), d)
    | some tag =>
      let payload := buffer.drop Frame.plainHeader
      let etherType := (downlinkClass control payload).etherType
      match Frame.writeHeader d.mac d.mac.peer etherType buffer with
      | .error fault => (.error (.headerError fault), d)
      | .ok data =>
        let registry := (d.registry.count tag (UInt64.ofNat payload.length) .downlink).2
        let peers := (HostStack.deliver ⟨some tag, data⟩ d.peers).2
        (.ok (), { d with registry, peers })

end Device

end ModemMux

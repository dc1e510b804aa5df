import ModemMux.Proofs.Device.Life
import ModemMux.Proofs.Device.Reception

/-!
# Frames that a host keeps

A collector takes frames until it has as many as its limit allows, and gives them away all at once.
`Hosted.receipts` reads off a run which frames a device has built from downlink buffers and what the
collector made of each; `Hosted.taken` reads off what was taken from it each time. Nothing else
concerns the frames, whatever becomes of the transport and of the sessions
(`Hosted.frames_advance`). So what was taken and what is still there are together the frames that
were accepted, in order: `Hosted.taken_run`.
-/

namespace ModemMux

/-! ## The collector -/

namespace Collector

variable {c : Collector} {frame : Frame}

/-- A host that collects is full if it has a limit, and has reached it. -/
theorem isFull_iff : c.isFull ↔ ∃ limit, c.limit = some limit ∧ limit ≤ c.pending := by
  unfold isFull
  cases c.limit <;> simp

/-- A collector drops a frame if it has a limit and as many frames already. -/
theorem deliver_eq_dropped_iff : (c.deliver frame).1 = .dropped ↔
    ∃ limit, c.limit = some limit ∧ limit ≤ c.pending := by
  rw [← isFull_iff, deliver]
  split
  next hfull => simp [hfull]
  next hroom => simp [hroom]

/-- It keeps the frames that it accepts, behind the others. -/
theorem frames_deliver : (c.deliver frame).2.frames =
    c.frames ++ if (c.deliver frame).1 = .accepted then [frame] else [] := by
  unfold deliver
  split <;> simp

@[simp] theorem limit_deliver : (c.deliver frame).2.limit = c.limit := by
  unfold deliver
  split <;> rfl

/-- Whether a collector has no more frames than its limit allows. -/
def IsWithin (c : Collector) : Prop := ∀ limit, c.limit = some limit → c.pending ≤ limit

theorem isWithin_of_frames_eq_nil (h : c.frames = []) : c.IsWithin := by
  intro limit _
  rw [pending, h]
  exact Nat.zero_le limit

/-- A frame that is delivered never takes the host above its limit. -/
theorem IsWithin.deliver (h : c.IsWithin) (frame : Frame) : (c.deliver frame).2.IsWithin := by
  unfold Collector.deliver
  split
  next => exact h
  next hroom =>
    intro limit hlimit
    have hlt : c.pending < limit := by
      by_contra hle
      exact hroom (isFull_iff.2 ⟨limit, hlimit, Nat.not_lt.1 hle⟩)
    rw [pending, List.length_append]
    exact hlt

end Collector

/-! ## Any transport and a collector -/

/-- A transport below and a host that keeps frames above. -/
structure Hosted (τ : Type) where
  transport : τ
  host : Collector

namespace Hosted

variable {τ : Type}

instance [Transport τ] : Transport (Hosted τ) where
  openChannel tag w :=
    match Transport.openChannel tag w.transport with
    | (answer, transport) => (answer, { w with transport })
  closeChannel tag channel w :=
    match Transport.closeChannel tag channel w.transport with
    | (answer, transport) => (answer, { w with transport })
  submit tag channel payload w :=
    match Transport.submit tag channel payload w.transport with
    | (answer, signals, transport) => (answer, signals, { w with transport })

instance : HostStack (Hosted τ) where
  attach info w :=
    match w.host.attach info with
    | (answer, host) => (answer, { w with host })
  detach w := { w with host := w.host.detach }
  deliver frame w :=
    match w.host.deliver frame with
    | (verdict, host) => (verdict, { w with host })

/-- The transport has no part in what the host has collected. -/
theorem spares_frames [Transport τ] :
    Transport.Spares fun w : Hosted τ ↦ (w.host.frames, w.host.limit) :=
  ⟨fun _ _ ↦ rfl, fun _ _ _ ↦ rfl, fun _ _ _ _ ↦ rfl⟩

end Hosted

namespace Device

/-- The step of a device under a collector, which is none of the step's concern. -/
def Step.hosted {τ : Type} : Step τ → Step (Hosted τ)
  | .operate operation => .operate operation
  | .count tag bytes direction => .count tag bytes direction
  | .signal request => .signal request
  | .changePeers change => .changePeers fun w ↦ { w with transport := change w.transport }
  | .deinit => .deinit
  | .drop => .drop

/-- The host has no say in whether a downlink buffer is accepted. -/
theorem receive_eq_ok_iff {ω : Type} [HostStack ω] {d : Device ω} {id : SessionId} {buffer : Bytes}
    {control : Bool} : (d.receive id buffer control).1 = .ok () ↔
      Frame.plainHeader ≤ buffer.length ∧ Tag.Names id := by
  by_cases hlen : Frame.plainHeader ≤ buffer.length
  · by_cases hnamed : Tag.Names id
    · have hid := Tag.ofSession?_of_names hnamed
      rw [receive_eq_ok control hlen hid ((Tag.classify_ne_invalid_iff hid).2 hnamed)]
      simp [hlen, hnamed]
    · rw [receive_of_not_names hlen hnamed]
      simp [hnamed]
  · rw [receive_of_short (Nat.not_le.1 hlen)]
    simp [hlen]

end Device

namespace Hosted

/-- What can happen to a device under a collector. -/
inductive Action (τ : Type) where
  | device (step : Device.Step τ)
  | takeFrames
  /-- Lets the collector take no device any more, or again. -/
  | rejectAttach (on : Bool)
  | attach (info : DeviceInfo)
  | detach

/-- A frame that was built from a downlink buffer, and what the host made of it. -/
structure Receipt where
  frame : Frame
  verdict : Delivery
  deriving DecidableEq, Repr

def accepted (receipts : List Receipt) : List Frame :=
  (receipts.filter (·.verdict == .accepted)).map (·.frame)

namespace Action

variable {τ : Type}

def toStep : Action τ → Device.Step (Hosted τ)
  | .device step => step.hosted
  | .takeFrames => .changePeers fun w ↦ { w with host := w.host.takeFrames.2 }
  | .rejectAttach on => .changePeers fun w ↦ { w with host := { w.host with rejectsAttach := on } }
  | .attach info => .changePeers fun w ↦ { w with host := (w.host.attach info).2 }
  | .detach => .changePeers fun w ↦ { w with host := w.host.detach }

/-- The frame of a downlink buffer that the device accepts, and what the host makes of it. -/
def receipts (action : Action τ) (d : Device (Hosted τ)) : List Receipt :=
  match action with
  | .device (.operate (.receive id buffer control)) =>
    if (d.receive id buffer control).1.toBool then
      let frame := d.inbound (.ofNat (id.toNat + 1)) buffer control
      [⟨frame, (d.peers.host.deliver frame).1⟩]
    else []
  | _ => []

def taken (action : Action τ) (d : Device (Hosted τ)) : List (List Frame) :=
  match action with
  | .takeFrames => [d.peers.host.takeFrames.1]
  | _ => []

end Action

variable {τ : Type} [Transport τ]

/-- The frames that a device builds in a run, in order, and what the host makes of each. -/
def receipts : List (Action τ) → Device (Hosted τ) → List Receipt
  | [], _ => []
  | action :: actions, d => action.receipts d ++ receipts actions (d.advance action.toStep)

/-- The frames that are taken in a run, each time they are. -/
def taken : List (Action τ) → Device (Hosted τ) → List (List Frame)
  | [], _ => []
  | action :: actions, d => action.taken d ++ taken actions (d.advance action.toStep)

variable {d : Device (Hosted τ)}

/-! ## One action -/

/-- Nothing that happens to a device concerns the frames its host keeps, but what it receives. -/
theorem frames_advance {step : Device.Step τ}
    (hstep : ∀ id buffer control, step ≠ .operate (.receive id buffer control)) :
    (d.advance step.hosted).peers.host.frames = d.peers.host.frames ∧
      (d.advance step.hosted).peers.host.limit = d.peers.host.limit := by
  have hshutdown : (d.shutdown.peers.host.frames, d.shutdown.peers.host.limit) =
      (d.peers.host.frames, d.peers.host.limit) := by
    unfold Device.shutdown
    split
    · exact spares_frames.removeEach d.registry.tags d.registry (HostStack.detach d.peers)
    · rfl
  rw [← Prod.mk.injEq]
  cases step with
  | operate operation =>
    apply Device.part_operate spares_frames
    rintro id buffer control rfl
    exact hstep id buffer control rfl
  | count | signal | changePeers => rfl
  | deinit | drop =>
    rw [Device.advance_of_isEnd rfl]
    exact hshutdown

omit [Transport τ] in
/-- A downlink buffer that is accepted reaches the host as one frame. -/
theorem host_receive (id : SessionId) (buffer : Bytes) (control : Bool) (d : Device (Hosted τ)) :
    (d.receive id buffer control).2.peers.host =
      if (d.receive id buffer control).1.toBool then
        (d.peers.host.deliver (d.inbound (.ofNat (id.toNat + 1)) buffer control)).2
      else d.peers.host := by
  have hreceives := Device.receives_receive id buffer control d
  generalize d.receive id buffer control = outcome at hreceives
  cases hreceives with
  | refused => rfl
  | @received tag _ hid =>
    rw [Tag.eq_of_ofSession? hid]
    rfl

/-- What can become of a collector: what is taken from it, what it is handed with its verdicts, and
the collector afterwards. -/
inductive Handles (c : Collector) : List (List Frame) → List Receipt → Collector → Prop
  | still {c' : Collector} (hframes : c'.frames = c.frames) (hlimit : c'.limit = c.limit) :
      Handles c [] [] c'
  | delivered (frame : Frame) :
      Handles c [] [⟨frame, (c.deliver frame).1⟩] (c.deliver frame).2
  | emptied : Handles c [c.frames] [] c.takeFrames.2

/-- What one action does to the frames that the host holds. -/
theorem handles_advance (action : Action τ) (d : Device (Hosted τ)) :
    Handles d.peers.host (action.taken d) (action.receipts d)
      (d.advance action.toStep).peers.host := by
  cases action with
  | device step =>
    by_cases hstep : ∃ id buffer control, step = .operate (.receive id buffer control)
    · obtain ⟨id, buffer, control, rfl⟩ := hstep
      change Handles d.peers.host [] _ (d.receive id buffer control).2.peers.host
      rw [host_receive]
      simp only [Action.receipts]
      split
      · exact .delivered _
      · exact .still rfl rfl
    · have hreceipts : (Action.device step).receipts d = [] := by
        unfold Action.receipts
        split
        next id buffer control heq =>
          cases heq
          exact absurd ⟨id, buffer, control, rfl⟩ hstep
        next => rfl
      have hother : ∀ id buffer control, step ≠ .operate (.receive id buffer control) := by
        rintro id buffer control rfl
        exact hstep ⟨id, buffer, control, rfl⟩
      obtain ⟨hframes, hlimit⟩ := frames_advance (d := d) hother
      rw [hreceipts]
      exact .still hframes hlimit
  | takeFrames => exact .emptied
  | attach info =>
    change Handles d.peers.host [] [] (d.peers.host.attach info).2
    unfold Collector.attach
    split <;> exact .still rfl rfl
  | rejectAttach | detach => exact .still rfl rfl

namespace Handles

variable {c c' : Collector} {taken : List (List Frame)} {receipts : List Receipt}

/-- What is taken and what is left are together what was there and what was accepted. -/
theorem taken_append_frames (h : Handles c taken receipts c') :
    taken.flatten ++ c'.frames = c.frames ++ accepted receipts := by
  cases h with
  | still hframes _ =>
    rw [hframes]
    exact (List.append_nil _).symm
  | delivered frame =>
    rw [Collector.frames_deliver]
    cases (c.deliver frame).1 <;> rfl
  | emptied => rw [List.flatten_singleton]; rfl

/-- The limit is a setting, and nothing that is done changes it. -/
theorem limit_eq (h : Handles c taken receipts c') : c'.limit = c.limit := by
  cases h with
  | still _ hlimit => exact hlimit
  | delivered => exact Collector.limit_deliver
  | emptied => rfl

/-- The limit is kept, whatever is done. -/
theorem isWithin (h : Handles c taken receipts c') (hc : c.IsWithin) : c'.IsWithin := by
  cases h with
  | still hframes hlimit =>
    intro limit hsome
    rw [Collector.pending, hframes]
    exact hc limit (hlimit.symm.trans hsome)
  | delivered frame => exact hc.deliver frame
  | emptied => exact Collector.isWithin_of_frames_eq_nil rfl

end Handles

/-! ## Runs -/

/-- What is accepted of two stretches of receipts is accepted of each in turn. -/
theorem accepted_append (receipts later : List Receipt) :
    accepted (receipts ++ later) = accepted receipts ++ accepted later := by
  simp [accepted]

/-- Nothing that was accepted is lost: it was taken, or it is still there, and in order. -/
theorem taken_append_frames_run (actions : List (Action τ)) (d : Device (Hosted τ)) :
    (taken actions d).flatten ++ (d.run (actions.map Action.toStep)).peers.host.frames =
      d.peers.host.frames ++ accepted (receipts actions d) := by
  induction actions generalizing d with
  | nil => exact (List.append_nil _).symm
  | cons action actions ih =>
    have hfirst := (handles_advance action d).taken_append_frames
    have hrest := ih (d.advance action.toStep)
    calc ((action.taken d) ++ taken actions (d.advance action.toStep)).flatten ++
          ((d.advance action.toStep).run (actions.map Action.toStep)).peers.host.frames
        = (action.taken d).flatten ++ ((d.advance action.toStep).peers.host.frames ++
            accepted (receipts actions (d.advance action.toStep))) := by
          rw [← hrest, List.flatten_append, List.append_assoc]
      _ = d.peers.host.frames ++
            accepted (action.receipts d ++ receipts actions (d.advance action.toStep)) := by
          rw [← List.append_assoc, hfirst, accepted_append, List.append_assoc]

theorem limit_run (actions : List (Action τ)) (d : Device (Hosted τ)) :
    (d.run (actions.map Action.toStep)).peers.host.limit = d.peers.host.limit := by
  induction actions generalizing d with
  | nil => rfl
  | cons action actions ih => exact (ih _).trans (handles_advance action d).limit_eq

theorem isWithin_run (h : d.peers.host.IsWithin) (actions : List (Action τ)) :
    (d.run (actions.map Action.toStep)).peers.host.IsWithin := by
  induction actions generalizing d with
  | nil => exact h
  | cons action actions ih => exact ih ((handles_advance action d).isWithin h)

omit [Transport τ] in
/-- The set-up of a device leaves alone what the host keeps. -/
theorem frames_of_init {config : Config} {spare : Mac} {transport : τ} {host : Collector}
    (h : Device.init config spare ⟨transport, host⟩ = .ok d) :
    d.peers.host.frames = host.frames ∧ d.peers.host.limit = host.limit := by
  have hinits := Device.inits_init config spare (⟨transport, host⟩ : Hosted τ)
  rw [h] at hinits
  cases hinits with
  | @attached mac _ _ _ hattach =>
    have hhost := congrArg (·.2.host) hattach
    simp only [HostStack.attach] at hhost
    rw [← hhost, Collector.attach]
    split <;> exact ⟨rfl, rfl⟩

/-- The life of the frames that a device builds for a host with a limit or none, over any transport
and in any run. What was taken from the host each time and what it still has are together the
accepted ones among the frames that were built from downlink buffers, in order. The host never has
more frames than its limit allows. A downlink buffer is accepted or refused without regard to the
host; the frame of one that is accepted is dropped if the host has a limit and as many frames
already, and is the host's last frame if not. Either way the packet is counted for the live session
with its tag and for the root device. -/
theorem taken_run {config : Config} {spare : Mac} {transport : τ} {host : Collector}
    {device : Device (Hosted τ)}
    (hinit : Device.init config spare ⟨transport, host⟩ = .ok device) (hempty : host.frames = [])
    (actions : List (Action τ)) :
    let d := device.run (actions.map Action.toStep)
    (taken actions device).flatten ++ d.peers.host.frames = accepted (receipts actions device) ∧
    (∀ limit, host.limit = some limit → d.peers.host.pending ≤ limit) ∧
    ∀ id buffer control,
      let outcome := d.receive id buffer control
      let tag : Tag := .ofNat (id.toNat + 1)
      let frame := d.inbound tag buffer control
      let verdict := (d.peers.host.deliver frame).1
      let packet (c : Counters) : Counters := { c with
        rxPackets := c.rxPackets + 1, rxBytes := c.rxBytes + .ofNat (buffer.length - 14) }
      (outcome.1 = .ok () ↔ 14 ≤ buffer.length ∧
        (id.toNat + 1 ≤ 255 ∨ 257 ≤ id.toNat + 1 ∧ id.toNat + 1 ≤ 511)) ∧
      (outcome.1 = .ok () →
        (verdict = .dropped ↔ ∃ limit, host.limit = some limit ∧ limit ≤ d.peers.host.pending) ∧
        outcome.2.peers.host.frames =
          d.peers.host.frames ++ (if verdict = .accepted then [frame] else []) ∧
        outcome.2.registry = if tag ∈ d.registry.tags then
          { d.registry with
            sessions := d.registry.sessions.map fun s ↦
              if s.tag = tag then { s with counters := packet s.counters } else s
            totals := packet d.registry.totals }
        else d.registry) := by
  intro d
  obtain ⟨hframes, hsame⟩ := frames_of_init hinit
  have hlimit : d.peers.host.limit = host.limit := (limit_run actions device).trans hsame
  refine ⟨?_, ?_, ?_⟩
  · have hall := taken_append_frames_run actions device
    rwa [hframes, hempty, List.nil_append] at hall
  · intro limit hsome
    have hwithin : d.peers.host.IsWithin := by
      apply isWithin_run
      exact Collector.isWithin_of_frames_eq_nil (hframes.trans hempty)
    exact hwithin limit (hlimit.trans hsome)
  · intro id buffer control outcome tag frame verdict packet
    refine ⟨Device.receive_eq_ok_iff, ?_⟩
    intro hok
    obtain ⟨hlen, hnamed⟩ := Device.receive_eq_ok_iff.1 hok
    have hid : Tag.ofSession? id = some tag := Tag.ofSession?_of_names hnamed
    have houtcome : outcome = _ := Device.receive_eq_ok control hlen hid
      ((Tag.classify_ne_invalid_iff hid).2 hnamed)
    refine ⟨?_, ?_, ?_⟩
    · rw [← hlimit]
      exact Collector.deliver_eq_dropped_iff
    · rw [houtcome]
      exact Collector.frames_deliver
    · rw [houtcome]
      exact Registry.count_downlink tag _ d.registry

/-- Packets for the first session: two come before the host is emptied and two after it, the last
one when the session is gone. -/
def twoByTwo : List (Action Loopback) :=
  let packet (content : UInt8) : Bytes := List.replicate 14 0 ++ [0x45, content]
  [.device (.operate (.addSession 1)), .device (.operate (.receive 0 (packet 1) false)),
    .device (.operate (.receive 0 (packet 2) false)), .takeFrames,
    .device (.operate (.receive 0 (packet 3) false)),
    .device (.operate (.removeSession 1)), .device (.operate (.receive 0 (packet 4) false))]

/-- A host with room for one frame drops the second one of each two. Three packets are counted, as
the session is gone when the fourth one comes. -/
theorem taken_twoByTwo : ∃ device : Device (Hosted Loopback),
    Device.init {} .zero ⟨{}, { limit := some 1 }⟩ = .ok device ∧
    let d := device.run (twoByTwo.map Action.toStep)
    let frame (content : UInt8) : Frame :=
      .ethernet 1 .zero ⟨0, 0, 0, 0, 0, 1⟩ EtherType.ipv4 [0x45, content]
    receipts twoByTwo device = [⟨frame 1, .accepted⟩, ⟨frame 2, .dropped⟩, ⟨frame 3, .accepted⟩,
      ⟨frame 4, .dropped⟩] ∧
    taken twoByTwo device = [[frame 1]] ∧ d.peers.host.frames = [frame 3] ∧
    d.peers.host.pending ≤ 1 ∧ d.registry.totals = ⟨0, 0, 3, 6⟩ ∧
    (d.receive 0 (List.replicate 14 0) false).1 = .ok () := by
  have hinit : Device.init {} .zero (⟨{}, { limit := some 1 }⟩ : Hosted Loopback) = .ok _ := rfl
  refine ⟨_, hinit, ?_⟩
  intro d frame
  obtain ⟨hframes, hlimit, hreceive⟩ := taken_run hinit rfl twoByTwo
  refine ⟨rfl, rfl, ?_, hlimit 1 rfl, rfl, ?_⟩
  · have hframes : [frame 1] ++ d.peers.host.frames = [frame 1] ++ [frame 3] := hframes
    exact List.append_cancel_left hframes
  · exact (hreceive 0 (List.replicate 14 0) false).1.2 (by decide)

end Hosted

end ModemMux

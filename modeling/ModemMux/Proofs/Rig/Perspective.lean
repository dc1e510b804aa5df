import ModemMux.Proofs.Device.Inbound
import ModemMux.Proofs.Registry.Perspective
import ModemMux.Proofs.Rig.Backpressure

/-!
# A rig as one session sees it

`rig.seenBy a` is what the session of tag `a` can see of a rig. Of the modem it sees its own channel
as it is, and of each other channel the id, the tag and the depth; of the host it sees nothing, so
the view is a rig over a host that is `Unseen`. What is asked for the session can be asked of the
view: `Device.operate_seenBy` says that the answer and the signals are the same, and that the view
of what the device becomes is the same. What is asked for others does not show in the view.
-/

namespace ModemMux

/-! ## The modem -/

namespace OpenChannel

variable {a : Tag} {c : OpenChannel}

/-- A channel as the session of tag `a` sees it. -/
def seenBy (a : Tag) (c : OpenChannel) : OpenChannel := if c.tag = a then c else c.flush

/-- A session sees all of its own channel. -/
theorem seenBy_of_eq (h : c.tag = a) : c.seenBy a = c := if_pos h

/-- A session sees the channel of another one as if it were empty. -/
theorem seenBy_of_ne (h : c.tag ≠ a) : c.seenBy a = c.flush := if_neg h

@[simp] theorem id_seenBy : (c.seenBy a).id = c.id := by
  unfold seenBy
  split <;> rfl

@[simp] theorem tag_seenBy : (c.seenBy a).tag = c.tag := by
  unfold seenBy
  split <;> rfl

@[simp] theorem seenBy_seenBy : (c.seenBy a).seenBy a = c.seenBy a := by
  unfold seenBy
  split <;> simp_all [flush]

@[simp] theorem seenBy_blank (id : ChannelId) (tag : Tag) (depth : Nat) :
    (blank id tag depth).seenBy a = blank id tag depth := by
  unfold seenBy
  split <;> rfl

/-- Traffic on a channel does not show to other sessions. -/
theorem Keeps.seenBy_of_ne {f : OpenChannel → OpenChannel} (hf : Keeps f) (h : c.tag ≠ a) :
    (f c).seenBy a = c.flush := by
  rw [OpenChannel.seenBy_of_ne ((hf.tag c).symm ▸ h), flush, flush, hf.id, hf.tag, hf.depth]

end OpenChannel

namespace Loopback

variable {a tag : Tag} {l : Loopback} {id : ChannelId} {c : OpenChannel} {payload : Bytes}

def seenBy (a : Tag) (l : Loopback) : Loopback :=
  { l with channels := l.channels.map (·.seenBy a) }

@[simp] theorem seenBy_seenBy : (l.seenBy a).seenBy a = l.seenBy a := by
  simp [seenBy, Function.comp_def]

theorem channel?_seenBy : (l.seenBy a).channel? id = (l.channel? id).map (·.seenBy a) := by
  simp only [channel?, seenBy, List.find?_map, Function.comp_def, OpenChannel.id_seenBy]

@[simp] theorem isOpen_seenBy : (l.seenBy a).isOpen id = l.isOpen id := by
  simp [isOpen, channel?_seenBy]

@[simp] theorem freeId?_seenBy : (l.seenBy a).freeId? = l.freeId? := by
  have hlength : (l.seenBy a).channels.length = l.channels.length := List.length_map _
  simp only [freeId?, isOpen_seenBy, hlength]
  rfl

theorem insertById_map {f : OpenChannel → OpenChannel} (hf : ∀ c, (f c).id = c.id)
    (cs : List OpenChannel) : insertById (f c) (cs.map f) = (insertById c cs).map f := by
  induction cs with
  | nil => rfl
  | cons d cs ih =>
    simp only [List.map_cons, insertById, hf]
    split
    · rfl
    · rw [ih, List.map_cons]

/-- Which channel is opened does not depend on what waits in the others. -/
theorem openChannel_seenBy : (l.seenBy a).openChannel tag =
    ((l.openChannel tag).1, (l.openChannel tag).2.seenBy a) := by
  unfold openChannel
  rw [freeId?_seenBy]
  split
  next hrefuse => rw [if_pos (show l.refusesOpens from hrefuse)]
  next hrefuse =>
    rw [if_neg (show ¬l.refusesOpens from hrefuse)]
    split
    · rfl
    next id _ =>
      have hinsert := insertById_map (c := .blank id tag (l.depthFor tag))
        (fun _ ↦ OpenChannel.id_seenBy (a := a)) l.channels
      rw [OpenChannel.seenBy_blank] at hinsert
      simp only [seenBy, Prod.mk.injEq, true_and, mk.injEq, and_true]
      exact hinsert

/-- Whether a channel is closed does not depend on what waits in it. -/
theorem closeChannel_seenBy : (l.seenBy a).closeChannel tag id =
    ((l.closeChannel tag id).1, (l.closeChannel tag id).2.seenBy a) := by
  unfold closeChannel
  rw [channel?_seenBy]
  cases l.channel? id with
  | none => rfl
  | some c =>
    simp only [Option.map_some, OpenChannel.tag_seenBy]
    split
    · simp [seenBy, List.filter_map, Function.comp_def]
    · rfl

/-- A change of a channel can be carried out on the view. -/
theorem seenBy_modify {f : OpenChannel → OpenChannel} (hf : OpenChannel.Keeps f) :
    ((l.seenBy a).modify id f).seenBy a = (l.modify id f).seenBy a := by
  simp only [modify, seenBy, List.map_map, mk.injEq, true_and, and_true]
  refine List.map_congr_left fun c _ ↦ ?_
  simp only [Function.comp_apply, OpenChannel.id_seenBy]
  split
  · by_cases htag : c.tag = a
    · rw [OpenChannel.seenBy_of_eq htag]
    · rw [OpenChannel.seenBy_of_ne htag, hf.seenBy_of_ne (c := c.flush) htag,
        hf.seenBy_of_ne htag]
      rfl
  · exact OpenChannel.seenBy_seenBy

/-- A change of a channel that is another session's does not show. -/
theorem Sound.seenBy_modify_of_ne (h : l.Sound) (hc : l.channel? id = some c) (hne : c.tag ≠ a)
    {f : OpenChannel → OpenChannel} (hf : OpenChannel.Keeps f) :
    (l.modify id f).seenBy a = l.seenBy a := by
  simp only [Loopback.modify, seenBy, List.map_map, mk.injEq, true_and, and_true]
  refine List.map_congr_left fun d hd ↦ ?_
  by_cases hid : d.id = id
  · obtain rfl := h.eq_of_id_eq hd (mem_of_channel? hc) (hid.trans (id_of_channel? hc).symm)
    simp only [Function.comp_apply, hid, beq_self_eq_true, if_true]
    rw [hf.seenBy_of_ne hne, OpenChannel.seenBy_of_ne hne]
  · simp [hid]

theorem submit_seenBy (id : ChannelId) (payload : Bytes) (l : Loopback) :
    ((l.seenBy a).submit a id payload).1 = (l.submit a id payload).1 ∧
    ((l.seenBy a).submit a id payload).2.1 = (l.submit a id payload).2.1 ∧
    ((l.seenBy a).submit a id payload).2.2.seenBy a = (l.submit a id payload).2.2.seenBy a := by
  have hfails : (l.seenBy a).failsTransmits = l.failsTransmits := rfl
  unfold submit
  rw [hfails, channel?_seenBy]
  split
  · exact ⟨rfl, rfl, seenBy_seenBy⟩
  · cases l.channel? id with
    | none => exact ⟨rfl, rfl, seenBy_seenBy⟩
    | some c =>
      simp only [Option.map_some, OpenChannel.tag_seenBy]
      split
      · exact ⟨rfl, rfl, seenBy_seenBy⟩
      next htag =>
        -- the channel is the session's own, which it sees as it is
        rw [OpenChannel.seenBy_of_eq (by simpa using htag)]
        split
        · exact ⟨rfl, rfl, seenBy_seenBy⟩
        · exact ⟨rfl, rfl, seenBy_modify (OpenChannel.keeps_push payload)⟩

/-- A session does not see the payloads that another one submits. -/
theorem Sound.seenBy_submit_of_ne (h : l.Sound) (hne : tag ≠ a) :
    (l.submit tag id payload).2.2.seenBy a = l.seenBy a := by
  have hsubmits := submits_submit l tag id payload
  generalize l.submit tag id payload = outcome at hsubmits
  cases hsubmits with
  | accepted _ hc htag => exact h.seenBy_modify_of_ne hc (htag ▸ hne) (OpenChannel.keeps_push _)
  | _ => rfl

/-- The signals that a payload gives rise to are for its own session. -/
theorem Submits.ofSession?_ne {outcome : Except ChannelError Submission × List Signal × Loopback}
    (h : Submits l tag id payload outcome) (hne : tag ≠ a) :
    ∀ signal ∈ outcome.2.1, Tag.ofSession? signal.session ≠ some a := by
  intro signal hsignal
  cases h with
  | accepted =>
    simp only at hsignal
    split at hsignal
    · exact Signal.ofSession?_ne hne signal hsignal
    · cases hsignal
  | _ => cases hsignal

theorem drain_seenBy (hc : l.channel? id = some c) (htag : c.tag = a) :
    ((l.seenBy a).drain id).1 = (l.drain id).1 ∧
    ((l.seenBy a).drain id).2.1 = (l.drain id).2.1 ∧
    ((l.seenBy a).drain id).2.2.seenBy a = (l.drain id).2.2.seenBy a := by
  have hc' : (l.seenBy a).channel? id = some c := by
    rw [channel?_seenBy, hc, Option.map_some, OpenChannel.seenBy_of_eq htag]
  rw [drain_eq hc, drain_eq hc']
  exact ⟨rfl, rfl, seenBy_modify OpenChannel.keeps_flush⟩

/-- A session does not see the channels of other ones drained. -/
theorem Sound.seenBy_drain_of_ne (h : l.Sound) (hc : l.channel? id = some c) (hne : c.tag ≠ a) :
    (l.drain id).2.2.seenBy a = l.seenBy a := by
  rw [drain_eq hc]
  exact h.seenBy_modify_of_ne hc hne OpenChannel.keeps_flush

/-- The signals of a drain are for the session that has the channel. -/
theorem ofSession?_ne_drain (hc : l.channel? id = some c) (hne : c.tag ≠ a) :
    ∀ signal ∈ (l.drain id).2.1, Tag.ofSession? signal.session ≠ some a := by
  rw [drain_eq hc, OpenChannel.signals]
  intro signal hsignal
  split at hsignal
  · cases hsignal
  · exact Signal.ofSession?_ne hne signal hsignal

end Loopback

/-! ## The testbed -/

/-- A host of which nothing is known: it takes all that it gets. -/
structure Unseen where

instance : HostStack Unseen where
  attach _ host := (.ok (), host)
  detach host := host
  deliver _ host := (.accepted, host)

variable {η : Type} {a tag : Tag} {r : Registry} {t : Testbed η}

namespace Testbed

def seenBy (a : Tag) (t : Testbed η) : Testbed Unseen := ⟨t.modem.seenBy a, ⟨⟩⟩

@[simp] theorem modem_seenBy : (t.seenBy a).modem = t.modem.seenBy a := rfl

@[simp] theorem seenBy_seenBy : (t.seenBy a).seenBy a = t.seenBy a := by
  simp [seenBy]

theorem openChannel_seenBy : Transport.openChannel tag (t.seenBy a) =
    ((Transport.openChannel tag t).1, (Transport.openChannel tag t).2.seenBy a) := by
  simp only [Transport.openChannel, modem_seenBy, Loopback.openChannel_seenBy]
  rfl

theorem closeChannel_seenBy (channel : ChannelId) :
    Transport.closeChannel tag channel (t.seenBy a) =
      ((Transport.closeChannel tag channel t).1,
        (Transport.closeChannel tag channel t).2.seenBy a) := by
  simp only [Transport.closeChannel, modem_seenBy, Loopback.closeChannel_seenBy]
  rfl

theorem submit_seenBy (channel : ChannelId) (payload : Bytes) :
    (Transport.submit a channel payload (t.seenBy a)).1 =
      (Transport.submit a channel payload t).1 ∧
    (Transport.submit a channel payload (t.seenBy a)).2.1 =
      (Transport.submit a channel payload t).2.1 ∧
    (Transport.submit a channel payload (t.seenBy a)).2.2.seenBy a =
      (Transport.submit a channel payload t).2.2.seenBy a := by
  obtain ⟨hanswer, hsignals, hmodem⟩ :=
    Loopback.submit_seenBy (a := a) channel payload t.modem
  exact ⟨hanswer, hsignals, congrArg (Testbed.mk · Unseen.mk) hmodem⟩

theorem seenBy_submit_of_ne (h : t.modem.Sound) (hne : tag ≠ a) (channel : ChannelId)
    (payload : Bytes) : (Transport.submit tag channel payload t).2.2.seenBy a = t.seenBy a :=
  congrArg (Testbed.mk · Unseen.mk) (h.seenBy_submit_of_ne hne)

/-- What the host gets does not show. -/
@[simp] theorem seenBy_deliver [HostStack η] (frame : Frame) :
    (HostStack.deliver frame t).2.seenBy a = t.seenBy a := rfl

end Testbed

/-! ## Sessions that come and go -/

namespace Registry

theorem add_seenBy (tag : Tag) (r : Registry) (t : Testbed η) :
    (r.seenBy a).add tag (t.seenBy a) =
      ((r.add tag t).1, (r.add tag t).2.1.seenBy a, (r.add tag t).2.2.seenBy a) := by
  unfold add
  simp only [find?_seenBy, Option.isSome_map, capacity_seenBy, length_seenBy,
    Testbed.openChannel_seenBy]
  split
  · rfl
  · split
    · rfl
    · split
      · rfl
      · rcases Transport.openChannel tag t with ⟨_ | channel, t'⟩
        · rfl
        · simp only [accept_seenBy]

theorem remove_seenBy (tag : Tag) (r : Registry) (t : Testbed η) :
    (r.seenBy a).remove tag (t.seenBy a) =
      ((r.remove tag t).1, (r.remove tag t).2.1.seenBy a, (r.remove tag t).2.2.seenBy a) := by
  unfold remove
  rw [find?_seenBy]
  cases r.find? tag with
  | none => rfl
  | some s =>
    simp only [Option.map_some, Session.channel_seenBy, Testbed.closeChannel_seenBy]
    split
    · rfl
    · rcases Transport.closeChannel tag s.channel t with ⟨_ | _, t'⟩
      · rfl
      · simp only [retire_seenBy]

theorem removeEach_seenBy (tags : List Tag) (r : Registry) (t : Testbed η) :
    removeEach tags (r.seenBy a) (t.seenBy a) =
      ((removeEach tags r t).1, (removeEach tags r t).2.1.seenBy a,
        (removeEach tags r t).2.2.seenBy a) := by
  induction tags generalizing r t with
  | nil => rfl
  | cons tag tags ih => simp only [removeEach, remove_seenBy, ih]

end Registry

/-! ## The device -/

namespace Device

variable {d : Device (Testbed η)}

def seenBy (a : Tag) (d : Device (Testbed η)) : Device (Testbed Unseen) :=
  { d with registry := d.registry.seenBy a, peers := d.peers.seenBy a }

@[simp] theorem registry_seenBy : (d.seenBy a).registry = d.registry.seenBy a := rfl
@[simp] theorem peers_seenBy : (d.seenBy a).peers = d.peers.seenBy a := rfl
@[simp] theorem name_seenBy : (d.seenBy a).name = d.name := rfl
@[simp] theorem mac_seenBy : (d.seenBy a).mac = d.mac := rfl
@[simp] theorem up_seenBy : (d.seenBy a).up = d.up := rfl

@[simp] theorem seenBy_seenBy : (d.seenBy a).seenBy a = d.seenBy a := by
  simp [seenBy]

/-- Whether an operation is one that the session of tag `a` depends on: traffic of its own, or
administration. -/
def Operation.concerns (a : Tag) : Operation → Bool
  | .transmit _ frame => frame.tag? == some a
  | .receive id _ _ | .setFlowControl id _ | .updateStats id _ _ => Tag.ofSession? id == some a
  | .addSession _ | .removeSession _ | .removeSessions => true
  | .changeMtu _ | .setMac _ | .openUp | .stop => true

/-- The outcome of an operation as the session of tag `a` sees it. -/
def outlook (a : Tag) {α : Type} (outcome : α × List Signal × Device (Testbed η)) :
    α × List Signal × Device (Testbed Unseen) :=
  (outcome.1, outcome.2.1, outcome.2.2.seenBy a)

theorem transmit_seenBy {frame : Frame} (htag : frame.tag? = some a) (memory : Memory)
    (d : Device (Testbed η)) :
    outlook a ((d.seenBy a).transmit memory frame) = outlook a (d.transmit memory frame) := by
  have hroutes := Registry.routes_route memory frame d.registry
  unfold transmit
  rw [registry_seenBy, Registry.route_seenBy htag]
  generalize d.registry.route memory frame = outcome at hroutes
  cases hroutes with
  | nowhere | short | unknown | mismatch | outOfMemory =>
    simp only [outlook, seenBy_seenBy]
  | @routed tag cut channel htag' =>
    obtain rfl : a = tag := Option.some.inj (htag.symm.trans htag')
    obtain ⟨hanswer, hsignals, hpeers⟩ :=
      Testbed.submit_seenBy (t := d.peers) (a := a) channel cut.payload
    simp only [outlook, peers_seenBy, hanswer, hsignals]
    simp only [seenBy, hpeers, Registry.seenBy_seenBy]

theorem receive_seenBy [HostStack η] {id : SessionId} (hid : Tag.ofSession? id = some a)
    (buffer : Bytes) (control : Bool) (d : Device (Testbed η)) :
    ((d.seenBy a).receive id buffer control).1 = (d.receive id buffer control).1 ∧
    ((d.seenBy a).receive id buffer control).2.seenBy a =
      (d.receive id buffer control).2.seenBy a := by
  unfold receive
  rw [hid, mac_seenBy]
  split
  · exact ⟨rfl, seenBy_seenBy⟩
  · split
    · exact ⟨rfl, seenBy_seenBy⟩
    next tag htag =>
      obtain rfl := Option.some.inj (Option.eq_some_of_filter_eq_some htag)
      simp only
      split
      · exact ⟨rfl, seenBy_seenBy⟩
      · refine ⟨rfl, ?_⟩
        simp only [seenBy, (Registry.count_seenBy _ _).2, Testbed.seenBy_deliver,
          Testbed.seenBy_seenBy]

theorem setFlowControl_seenBy {id : SessionId} (hid : Tag.ofSession? id = some a) (engage : Bool)
    (d : Device (Testbed η)) : (d.seenBy a).setFlowControl id engage =
      ((d.setFlowControl id engage).1, (d.setFlowControl id engage).2.seenBy a) := by
  have hheed : (d.registry.seenBy a).heed ⟨id, engage⟩ =
      ((d.registry.heed ⟨id, engage⟩).1, (d.registry.heed ⟨id, engage⟩).2.seenBy a) :=
    Registry.heed_seenBy hid
  simp only [setFlowControl, registry_seenBy, hheed]
  rfl

theorem updateStats_seenBy {id : SessionId} (hid : Tag.ofSession? id = some a) (bytes : UInt64)
    (direction : Direction) (d : Device (Testbed η)) :
    ((d.seenBy a).updateStats id bytes direction).1 = (d.updateStats id bytes direction).1 ∧
    ((d.seenBy a).updateStats id bytes direction).2.seenBy a =
      (d.updateStats id bytes direction).2.seenBy a := by
  obtain ⟨hanswer, hregistry⟩ := Registry.count_seenBy (a := a) (r := d.registry) bytes direction
  unfold updateStats
  simp only [hid, registry_seenBy, hanswer]
  refine ⟨trivial, ?_⟩
  simp only [seenBy, hregistry, Testbed.seenBy_seenBy]

theorem changeMtu_seenBy (mtu : Nat) (d : Device (Testbed η)) :
    (d.seenBy a).changeMtu mtu = ((d.changeMtu mtu).1, (d.changeMtu mtu).2.seenBy a) := by
  unfold changeMtu
  split <;> rfl

theorem setMac_seenBy (mac : Mac) (d : Device (Testbed η)) :
    (d.seenBy a).setMac mac = ((d.setMac mac).1, (d.setMac mac).2.seenBy a) := by
  unfold setMac
  rw [up_seenBy, name_seenBy]
  split
  · rfl
  · split <;> rfl

theorem openUp_seenBy (d : Device (Testbed η)) :
    (d.seenBy a).openUp = (d.openUp.1, d.openUp.2.seenBy a) := by
  unfold openUp
  rw [mac_seenBy]
  split <;> rfl

/-- What concerns the session can be asked of the view. -/
theorem operate_seenBy [HostStack η] {operation : Operation} (h : operation.concerns a)
    (d : Device (Testbed η)) :
    outlook a ((d.seenBy a).operate operation) = outlook a (d.operate operation) := by
  cases operation with
  | addSession tag =>
    simp only [operate, addSession, outlook, registry_seenBy, peers_seenBy, Registry.add_seenBy]
    simp [seenBy]
  | removeSession tag =>
    simp only [operate, removeSession, outlook, registry_seenBy, peers_seenBy,
      Registry.remove_seenBy]
    simp [seenBy]
  | removeSessions =>
    simp only [operate, removeSessions, outlook, registry_seenBy, peers_seenBy,
      Registry.removeAll, Registry.tags_seenBy, Registry.removeEach_seenBy]
    simp [seenBy]
  | transmit memory frame =>
    have htransmit := transmit_seenBy (by simpa [Operation.concerns] using h) memory d
    simp only [outlook, Prod.mk.injEq] at htransmit
    simp only [operate, outlook, htransmit]
  | receive id buffer control =>
    have hreceive := receive_seenBy (by simpa [Operation.concerns] using h) buffer control d
    simp only [operate, outlook, hreceive]
  | setFlowControl id engage =>
    have hflow := setFlowControl_seenBy (by simpa [Operation.concerns] using h) engage d
    simp only [operate, outlook, hflow, seenBy_seenBy]
  | updateStats id bytes direction =>
    have hstats := updateStats_seenBy (by simpa [Operation.concerns] using h) bytes direction d
    simp only [operate, outlook, hstats]
  | changeMtu mtu => simp only [operate, outlook, changeMtu_seenBy, seenBy_seenBy]
  | setMac mac => simp only [operate, outlook, setMac_seenBy, seenBy_seenBy]
  | openUp => simp only [operate, outlook, openUp_seenBy, seenBy_seenBy]
  | stop => simp [operate, outlook, stop, seenBy]

/-- What does not concern the session does not show, and the signals that it gives rise to are for
others. -/
theorem seenBy_operate_of_not_concerns [HostStack η] {operation : Operation}
    (h : operation.concerns a = false) (hstore : d.peers.modem.Sound) :
    (d.operate operation).2.2.seenBy a = d.seenBy a ∧
    ∀ signal ∈ (d.operate operation).2.1, Tag.ofSession? signal.session ≠ some a := by
  cases operation with
  | transmit memory frame =>
    have hne : frame.tag? ≠ some a := by simpa [Operation.concerns] using h
    have htransmits := transmits_transmit memory frame d
    simp only [operate]
    generalize d.transmit memory frame = outcome at htransmits
    cases htransmits with
    | discarded | refused => exact ⟨rfl, by simp⟩
    | @submitted tag cut channel answer signals peers htag _ _ _ _ hsubmit =>
      have hother : tag ≠ a := fun heq ↦ hne (heq ▸ htag)
      constructor
      · have hpeers := Testbed.seenBy_submit_of_ne hstore hother channel cut.payload
        rw [hsubmit] at hpeers
        simp only [seenBy, hpeers]
      · exact (Testbed.submits hsubmit).ofSession?_ne hother
  | receive id buffer control =>
    have hne : Tag.ofSession? id ≠ some a := by simpa [Operation.concerns] using h
    refine ⟨?_, by simp [operate]⟩
    have hreceives := receives_receive id buffer control d
    simp only [operate]
    generalize d.receive id buffer control = outcome at hreceives
    cases hreceives with
    | refused => rfl
    | @received tag _ hid =>
      have hother : tag ≠ a := fun heq ↦ hne (heq ▸ hid)
      simp only [seenBy, Testbed.seenBy_deliver, Registry.seenBy_count_of_ne hother]
  | setFlowControl id engage =>
    have hne : Tag.ofSession? id ≠ some a := by simpa [Operation.concerns] using h
    refine ⟨?_, by simp [operate]⟩
    have hheed : (d.registry.heed ⟨id, engage⟩).2.seenBy a = d.registry.seenBy a :=
      Registry.seenBy_heed_of_ne hne
    simp only [operate, setFlowControl, seenBy, hheed]
  | updateStats id bytes direction =>
    have hne : Tag.ofSession? id ≠ some a := by simpa [Operation.concerns] using h
    refine ⟨?_, by simp [operate]⟩
    simp only [operate, updateStats]
    split
    · rfl
    next tag hid =>
      have hother : tag ≠ a := fun heq ↦ hne (heq ▸ hid)
      simp only [seenBy, Registry.seenBy_count_of_ne hother]
  | _ => cases h

end Device

end ModemMux

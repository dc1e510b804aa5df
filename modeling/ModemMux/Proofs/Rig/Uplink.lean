import Mathlib.Data.List.DropRight
import ModemMux.Proofs.Rig.Links

/-!
# The way of payloads to the modem

Which payloads wait on a channel can be told from the events of a run alone: those of the frames
that were sent for the channel's tag since it was last opened or drained (`awaited`). The events do
not say on which channel a frame went; the tag tells it, for under the link between sessions and
channels no two open channels have the same tag. The link allows for channels that were closed
behind the device's back, whose ids may come back under another tag while the old session still
names them. So `Rig.drain_eq_awaited` holds of every run.
-/

namespace ModemMux.Rig

variable {η : Type}

/-! ## What the events tell -/

namespace Event

/-- The tag for which an event has opened a channel. -/
def opened? (channel : ChannelId) : Event η → Option Tag
  | (.device (.addSession tag), .device (.channel (.ok opened))) =>
    if opened = channel then some tag else none
  | _ => none

/-- Whether an event has drained a channel. -/
def drains (channel : ChannelId) : Event η → Bool
  | (.drain drained, _) => drained = channel
  | _ => false

/-- The payload that an event has sent for a tag. Only a frame that was taken counts. -/
def sent? (tag : Tag) : Event η → Option Bytes
  | (.device (.transmit _ frame), .device (.status (.ok .sent))) =>
    if frame.tag? = some tag then some frame.payload else none
  | _ => none

/-- Whether a channel has nothing in its queue after an event, whatever was there before. -/
def renews (channel : ChannelId) (event : Event η) : Bool :=
  (event.opened? channel).isSome || event.drains channel

/-- Whether an event opens, drains and sends nothing. -/
def isSilent : Event η → Bool
  | (.device (.addSession _), .device (.channel (.ok _))) => false
  | (.device (.transmit _ _), .device (.status (.ok .sent))) => false
  | (.drain _, _) => false
  | _ => true

variable {event : Event η} {tag : Tag} {channel opened : ChannelId}

@[simp] theorem opened?_addSession : Event.opened? channel
    ((.device (.addSession tag), .device (.channel (.ok opened))) : Event η) =
      if opened = channel then some tag else none := rfl

theorem opened?_of_isSilent (h : event.isSilent) : event.opened? channel = none := by
  unfold opened?
  split
  · cases h
  · rfl

theorem renews_of_isSilent (h : event.isSilent) : event.renews channel = false := by
  rw [renews, opened?_of_isSilent h, Option.isSome_none, Bool.false_or]
  unfold drains
  split
  · cases h
  · rfl

theorem sent?_of_isSilent (h : event.isSilent) : event.sent? tag = none := by
  unfold sent?
  split
  · cases h
  · rfl

end Event

/-- The tag for which a channel was last opened. -/
def lastOpened (channel : ChannelId) (history : List (Event η)) : Option Tag :=
  (history.filterMap (Event.opened? channel)).getLast?

/-- The payloads that were sent for a tag since a channel was last opened or drained. -/
def awaited (tag : Tag) (channel : ChannelId) (history : List (Event η)) : List Bytes :=
  (history.rtakeWhile (!Event.renews channel ·)).filterMap (Event.sent? tag)

variable {history : List (Event η)} {event : Event η} {tag : Tag} {channel : ChannelId}

/-- The last opening is the one that just happened, or else the one before. -/
theorem lastOpened_concat : lastOpened channel (history ++ [event]) =
    (event.opened? channel).or (lastOpened channel history) := by
  rw [lastOpened, List.filterMap_append, List.getLast?_append]
  cases h : event.opened? channel <;> simp [lastOpened, h]

/-- Nothing is awaited of a channel that was just opened or drained. -/
theorem awaited_concat_of_renews (h : event.renews channel) :
    awaited tag channel (history ++ [event]) = [] := by
  rw [awaited, List.rtakeWhile_concat_neg _ _ _ (by simp [h]), List.filterMap_nil]

/-- What was just sent is awaited behind all else. -/
theorem awaited_concat (h : event.renews channel = false) :
    awaited tag channel (history ++ [event]) =
      awaited tag channel history ++ (event.sent? tag).toList := by
  rw [awaited, List.rtakeWhile_concat_pos _ _ _ (by simp [h]), List.filterMap_append, awaited]
  cases hsent : event.sent? tag <;> simp [hsent]

/-! ## The invariant -/

/-- Tag and queue of each open channel are what the events tell. -/
def Traced (history : List (Event η)) (l : Loopback) : Prop :=
  ∀ c ∈ l.channels, lastOpened c.id history = some c.tag ∧ c.queue = awaited c.tag c.id history

namespace Traced

variable {l l' : Loopback}

/-- At an event that opens, drains and sends nothing channels may go. -/
theorem silent (h : Traced history l) (hsub : l'.channels ⊆ l.channels)
    (hsilent : event.isSilent) : Traced (history ++ [event]) l' := by
  intro c hc
  obtain ⟨hopened, hqueue⟩ := h c (hsub hc)
  rw [lastOpened_concat, awaited_concat (Event.renews_of_isSilent hsilent),
    Event.opened?_of_isSilent hsilent, Event.sent?_of_isSilent hsilent]
  exact ⟨hopened, by simpa using hqueue⟩

variable {d : Device (Testbed η)} {lost : List (Tag × ChannelId)}

/-- A new channel was opened for the new session's tag, and nothing was sent on it yet. -/
theorem addSession (h : Traced history d.peers.modem) (tag : Tag) :
    Traced (history ++ [(.device (.addSession tag), .device (.channel (d.addSession tag).1))])
      (d.addSession tag).2.peers.modem := by
  have hadds := Testbed.adds_add tag d.registry d.peers
  simp only [Device.addSession]
  generalize d.registry.add tag d.peers = outcome at hadds
  cases hadds with
  | rejected hmodem => exact h.silent (hmodem ▸ List.Subset.refl _) rfl
  | @added channel _ hopens =>
    intro c hc
    rcases hopens.mem_channels_iff.1 hc with rfl | hc
    · have hrenews : Event.renews channel
          ((.device (.addSession tag), .device (.channel (.ok channel))) : Event η) := by
        simp [Event.renews]
      rw [OpenChannel.blank, lastOpened_concat, awaited_concat_of_renews hrenews,
        Event.opened?_addSession, if_pos rfl]
      exact ⟨rfl, rfl⟩
    · have hne : channel ≠ c.id := (hopens.id_ne hc).symm
      have hrenews : Event.renews c.id
          ((.device (.addSession tag), .device (.channel (.ok channel))) : Event η) = false := by
        simp [Event.renews, hne, Event.drains]
      obtain ⟨hopened, hqueue⟩ := h c hc
      rw [lastOpened_concat, awaited_concat hrenews, Event.opened?_addSession, if_neg hne]
      exact ⟨hopened, by simpa [Event.sent?] using hqueue⟩

/-- A payload that is taken is the last one of the one channel that is open for its tag. -/
theorem submit {r : Registry} (h : Traced history l) (hlinked : Linked lost r l)
    {memory : Memory} {frame : Frame} {cut : Split} (htag : frame.tag? = some tag)
    (hcut : frame.split = .ok cut) {answer : Except ChannelError Submission}
    {signals : List Signal}
    (hsubmits : Loopback.Submits l tag channel cut.payload (answer, signals, l')) :
    Traced (history ++ [(.device (.transmit memory frame),
      .device (.status (Routed.settle memory ⟨tag, channel, cut, cut.payload⟩ answer)))]) l' := by
  cases hsubmits with
  | failing | notOpen | mismatch => exact h.silent (List.Subset.refl _) rfl
  | full =>
    refine h.silent (List.Subset.refl _) ?_
    simp only [Routed.settle]
    split <;> rfl
  | @accepted c _ hc hctag _ =>
    subst hctag
    have hsent (tag : Tag) : Event.sent? tag ((.device (.transmit memory frame),
        .device (.status (.ok .sent))) : Event η) =
          if c.tag = tag then some cut.payload else none := by
      simp only [Event.sent?, htag, Option.some.injEq, Frame.payload_of_split hcut]
    intro d hd
    rw [lastOpened_concat, awaited_concat rfl, Routed.settle, hsent]
    rcases (hlinked.store.mem_modify_iff hc).1 hd with rfl | ⟨hd, hne⟩
    · obtain ⟨hopened, hqueue⟩ := h c (Loopback.mem_of_channel? hc)
      rw [OpenChannel.tag_push, if_pos rfl]
      exact ⟨hopened, by simp [hqueue]⟩
    · -- of the other open channels none has the frame's tag
      have hother : c.tag ≠ d.tag := by
        intro heq
        obtain rfl := hlinked.eq_of_tag_eq (Loopback.mem_of_channel? hc) hd heq
        exact hne (Loopback.id_of_channel? hc)
      obtain ⟨hopened, hqueue⟩ := h d hd
      rw [if_neg hother]
      exact ⟨hopened, by simp [hqueue]⟩

/-- A transmission keeps the queues what the history awaits. -/
theorem transmit (h : Traced history d.peers.modem)
    (hlinked : Linked lost d.registry d.peers.modem) (memory : Memory) (frame : Frame) :
    Traced (history ++
        [(.device (.transmit memory frame), .device (.status (d.transmit memory frame).1))])
      (d.transmit memory frame).2.2.peers.modem := by
  have htransmits := Device.transmits_transmit memory frame d
  generalize d.transmit memory frame = outcome at htransmits
  cases htransmits with
  | discarded | refused => exact h.silent (List.Subset.refl _) rfl
  | submitted htag _ hcut _ _ hsubmit => exact h.submit hlinked htag hcut (Testbed.submits hsubmit)

/-- An operation keeps the queues what the history awaits. -/
theorem operate [HostStack η] (h : Traced history d.peers.modem)
    (hlinked : Linked lost d.registry d.peers.modem) (operation : Device.Operation) :
    Traced (history ++ [(.device operation, .device (d.operate operation).1)])
      (d.operate operation).2.2.peers.modem := by
  cases operation with
  | addSession tag => exact h.addSession tag
  | removeSession tag =>
    exact h.silent (Testbed.removes_remove tag d.registry d.peers).channels_subset rfl
  | removeSessions =>
    refine h.silent ?_ rfl
    exact Registry.removeEach_induction
      (P := fun (_ : Registry) (t : Testbed η) ↦ t.modem.channels ⊆ d.peers.modem.channels)
      (fun tag r t hsub ↦
        List.Subset.trans (Testbed.removes_remove tag r t).channels_subset hsub)
      d.registry.tags (List.Subset.refl _)
  | transmit memory frame => exact h.transmit hlinked memory frame
  | setFlowControl id engage => exact h.silent (List.Subset.refl _) rfl
  | receive | updateStats | changeMtu | setMac | openUp | stop =>
    refine h.silent ?_ rfl
    rw [(operate_of_isQuiet rfl).1]
    exact List.Subset.refl _

/-- Draining a channel keeps the queues what the history awaits. -/
theorem drain (h : Traced history l) (hl : l.Sound) (channel : ChannelId) (reply : Reply) :
    Traced (history ++ [(.drain channel, reply)]) (l.drain channel).2.2 := by
  have hother : ∀ d ∈ l.channels, d.id ≠ channel →
      lastOpened d.id (history ++ [(.drain channel, reply)]) = some d.tag ∧
      d.queue = awaited d.tag d.id (history ++ [(.drain channel, reply)]) := by
    intro d hd hne
    have hrenews : Event.renews d.id ((.drain channel, reply) : Event η) = false := by
      simp [Event.renews, Event.opened?, Event.drains, hne.symm]
    obtain ⟨hopened, hqueue⟩ := h d hd
    rw [lastOpened_concat, awaited_concat hrenews]
    exact ⟨hopened, by simpa [Event.sent?] using hqueue⟩
  intro d hd
  cases hc : l.channel? channel with
  | none =>
    simp only [Loopback.drain, hc] at hd
    exact hother d hd (Loopback.channel?_eq_none_iff.1 hc d hd)
  | some c =>
    simp only [Loopback.drain, hc] at hd
    rcases (hl.mem_modify_iff hc).1 hd with rfl | ⟨hd, hne⟩
    · have hid : c.id = channel := Loopback.id_of_channel? hc
      have hrenews : Event.renews c.flush.id ((.drain channel, reply) : Event η) := by
        simp [Event.renews, Event.drains, hid]
      rw [lastOpened_concat, awaited_concat_of_renews hrenews]
      exact ⟨(h c (Loopback.mem_of_channel? hc)).1, rfl⟩
    · exact hother d hd hne

end Traced

/-! ## Runs -/

variable [HostStack η] {rig : Rig η}

/-- One action keeps the queues what the history awaits. -/
theorem traced_act (hlinked : ∃ lost, Linked lost rig.device.registry rig.modem)
    (h : Traced history rig.modem) (action : Action η) :
    Traced (history ++ [(action, (rig.act action).1)]) (rig.act action).2.modem := by
  obtain ⟨lost, hlinked⟩ := hlinked
  cases action with
  | device operation =>
    rw [modem_act_device]
    exact h.operate hlinked operation
  | drain channel =>
    rw [modem_act_drain]
    exact h.drain hlinked.store channel _
  | steal tag channel =>
    exact h.silent (Loopback.closes_closeChannel rig.modem tag channel).channels_subset
      rfl
  | refuseOpens | failTransmits | changeHost =>
    exact h.silent (List.Subset.refl _) rfl

/-- A whole run keeps the queues what the history awaits. -/
theorem traced_run (actions : List (Action η))
    (hlinked : ∃ lost, Linked lost rig.device.registry rig.modem) (h : Traced history rig.modem) :
    Traced (history ++ (rig.run actions).1) (rig.run actions).2.modem := by
  induction actions generalizing rig history with
  | nil => simpa [run] using h
  | cons action actions ih =>
    obtain ⟨lost, hlost⟩ := hlinked
    have hrest := ih (hlost.exists_act action) (traced_act ⟨lost, hlost⟩ h action)
    rw [List.append_assoc] at hrest
    exact hrest

/-- Whatever happens to a rig, channels closed behind the device's back included: a drain of an open
channel yields, in order, the payloads of the frames that were sent for the channel's tag since it
was last opened or drained, as they stood behind their link headers, and nothing else; and the
channel's tag is that of the session for which it was last opened. -/
theorem drain_eq_awaited (hfresh : rig.IsFresh) (actions : List (Action η)) :
    let history := (rig.run actions).1
    let rig' := (rig.run actions).2
    ∀ channel c, rig'.modem.channel? channel = some c →
      lastOpened channel history = some c.tag ∧
      (rig'.act (.drain channel)).1 = .payloads (awaited c.tag channel history) := by
  intro history rig' channel c hc
  have hempty : Traced ([] : List (Event η)) rig.modem := by simp [Traced, hfresh.channels]
  have h : Traced history rig'.modem := traced_run actions ⟨[], hfresh.linked⟩ hempty
  obtain ⟨hopened, hqueue⟩ := h c (Loopback.mem_of_channel? hc)
  rw [Loopback.id_of_channel? hc] at hopened hqueue
  refine ⟨hopened, ?_⟩
  have hdrain : (rig'.act (.drain channel)).1 = .payloads (rig'.modem.drain channel).1 := rfl
  rw [hdrain, ← hqueue]
  simp only [Loopback.drain, hc]

/-- A session's channel is closed behind its back and comes back for another session. -/
def takeOver : List (Action Collector) :=
  [.device (.addSession 1), .device (.transmit .ample (packet 1 7)), .steal 1 (.ofNat 0),
    .device (.addSession 2), .device (.transmit .ample (packet 1 8)),
    .device (.transmit .ample (packet 2 9))]

/-- The old session's frame is lost with its channel, its later one fails, and the drain yields the
new session's frame alone. -/
theorem drain_takeOver :
    (ofConfig {}).IsFresh ∧
    (((ofConfig {}).run takeOver).2.act (.drain (.ofNat 0))).1 = .payloads [[0x45, 9]] := by
  have hfresh := isFresh_ofConfig {}
  obtain ⟨-, hdrain⟩ := drain_eq_awaited hfresh takeOver (.ofNat 0)
    ⟨.ofNat 0, 2, 800, [[0x45, 9]], false⟩ (by decide)
  exact ⟨hfresh, hdrain.trans (by decide)⟩

end ModemMux.Rig

import ModemMux.Proofs.Device.Inbound
import ModemMux.Proofs.Device.Operation
import ModemMux.Proofs.Device.Routing
import ModemMux.Trace

/-!
# The calls of an operation

Each operation of a device makes calls of one kind only, and most make none. `Operation.Makes` says
which calls an operation may make, and `Device.calls_operate` that it makes no others, whatever the
peers answer. What is submitted for a frame is its payload, under its tag, and of a class that
sessions with this tag carry.
-/

namespace ModemMux

namespace Recorded

variable {ω : Type} {w w' w'' : Recorded ω} {P Q : Call → Prop}

/-- Peers after more calls, each of which is as `P` says. -/
def ExtendsBy (P : Call → Prop) (w w' : Recorded ω) : Prop :=
  ∃ calls, w'.calls = w.calls ++ calls ∧ ∀ call ∈ calls, P call

namespace ExtendsBy

theorem of_calls_eq (h : w'.calls = w.calls) : ExtendsBy P w w' := ⟨[], by simp [h], by simp⟩

theorem refl (w : Recorded ω) : ExtendsBy P w w := of_calls_eq rfl

/-- One call more, and one of the kind in question, is an extension. -/
theorem of_call {call : Call} (h : w'.calls = w.calls ++ [call]) (hcall : P call) :
    ExtendsBy P w w' :=
  ⟨[call], h, by simpa using hcall⟩

theorem trans (h : ExtendsBy P w w') (h' : ExtendsBy P w' w'') : ExtendsBy P w w'' := by
  obtain ⟨calls, heq, hcalls⟩ := h
  obtain ⟨more, heq', hmore⟩ := h'
  refine ⟨calls ++ more, by rw [heq', heq, List.append_assoc], ?_⟩
  intro call hcall
  rcases List.mem_append.1 hcall with hcall | hcall
  · exact hcalls call hcall
  · exact hmore call hcall

/-- An extension by calls of one kind is one by calls of any wider kind. -/
theorem mono (h : ExtendsBy P w w') (hPQ : ∀ call, P call → Q call) : ExtendsBy Q w w' := by
  obtain ⟨calls, heq, hcalls⟩ := h
  exact ⟨calls, heq, fun call hcall ↦ hPQ call (hcalls call hcall)⟩

/-- What holds of all calls so far and of each that follows, holds of all. -/
theorem forall_mem (h : ExtendsBy P w w') (hw : ∀ call ∈ w.calls, P call) :
    ∀ call ∈ w'.calls, P call := by
  obtain ⟨calls, heq, hcalls⟩ := h
  rw [heq]
  exact List.forall_mem_append.2 ⟨hw, hcalls⟩

end ExtendsBy

end Recorded

namespace Registry

variable {ω : Type} [Transport ω] {P : Call → Prop}

/-- Adding a session opens a channel for its own tag, or asks for nothing. -/
theorem calls_add {tag : Tag} (hP : ∀ answer, P (.openChannel tag answer)) (r : Registry)
    (w : Recorded ω) : w.ExtendsBy P (r.add tag w).2.2 := by
  have hadds := adds_add tag r w
  generalize r.add tag w = outcome at hadds
  cases hadds with
  | refused _ _ _ hopen | unusable _ _ _ hopen | added _ _ _ hopen =>
    exact .of_call (Recorded.calls_openChannel hopen) (hP _)
  | _ => exact .refl w

/-- Removing a session closes a channel under its own tag, or asks for nothing. -/
theorem calls_remove {tag : Tag} (hP : ∀ channel answer, P (.closeChannel tag channel answer))
    (r : Registry) (w : Recorded ω) : w.ExtendsBy P (r.remove tag w).2.2 := by
  have hremoves := removes_remove tag r w
  generalize r.remove tag w = outcome at hremoves
  cases hremoves with
  | refused _ _ hclose | removed _ _ hclose =>
    exact .of_call (Recorded.calls_closeChannel hclose) (hP _ _)
  | _ => exact .refl w

/-- A removal of several sessions asks for nothing but closings. -/
theorem calls_removeEach (hP : ∀ tag channel answer, P (.closeChannel tag channel answer))
    (tags : List Tag) (r : Registry) (w : Recorded ω) :
    w.ExtendsBy P (removeEach tags r w).2.2 :=
  removeEach_induction (P := fun _ w' ↦ w.ExtendsBy P w')
    (fun tag r w' h ↦ h.trans (calls_remove (hP tag) r w')) tags (.refl w)

end Registry

namespace Device

variable {ω : Type}

/-- The calls that an operation may make. -/
inductive Operation.Makes : Operation → Call → Prop
  | openChannel {tag : Tag} (answer : Except ChannelError ChannelId) :
      Makes (.addSession tag) (.openChannel tag answer)
  | closeChannel {tag : Tag} (channel : ChannelId) (answer : Except ChannelError Unit) :
      Makes (.removeSession tag) (.closeChannel tag channel answer)
  | closeEach (tag : Tag) (channel : ChannelId) (answer : Except ChannelError Unit) :
      Makes .removeSessions (.closeChannel tag channel answer)
  | submit {memory : Memory} {frame : Frame} {tag : Tag} (channel : ChannelId)
      (htag : frame.tag? = some tag) (hcarry : tag.classify.carries (.sniff frame.payload)) :
      Makes (.transmit memory frame) (.submit tag channel frame.payload)
  | deliver {id : SessionId} {buffer : Bytes} {control : Bool} (frame : Frame)
      (verdict : Delivery) :
      Makes (.receive id buffer control) (.deliver frame verdict)

theorem calls_transmit [Transport ω] (memory : Memory) (frame : Frame) (d : Device (Recorded ω)) :
    d.peers.ExtendsBy (Operation.Makes (.transmit memory frame))
      (d.transmit memory frame).2.2.peers := by
  have htransmits := transmits_transmit memory frame d
  generalize d.transmit memory frame = outcome at htransmits
  cases htransmits with
  | discarded | refused => exact .refl _
  | @submitted tag cut channel _ _ _ htag _ hcut _ hcarry hsubmit =>
    have hcall : Operation.Makes (.transmit memory frame) (.submit tag channel cut.payload) := by
      rw [Split.payloadClass, Frame.payload_of_split hcut] at hcarry
      rw [Frame.payload_of_split hcut]
      exact .submit channel htag hcarry
    exact .of_call (Recorded.calls_submit hsubmit) hcall

/-- A frame for a live session that may carry it makes one call, whose answer the host is told. -/
theorem transmit_eq_told [Transport ω] {memory : Memory} {frame : Frame} {d : Device (Recorded ω)}
    {tag : Tag} {channel : ChannelId} (h : memory.Available) (htag : frame.tag? = some tag)
    (hne : tag ≠ 0) (hlen : frame.headerLength ≤ frame.length)
    (hs : d.registry.channelOf? tag = some channel)
    (hcarry : tag.classify.carries (.sniff frame.payload))
    {answer : Except ChannelError Submission} {signals : List Signal} {peers' : ω}
    (hsubmit : Transport.submit tag channel frame.payload d.peers.peers =
      (answer, signals, peers')) :
    d.transmit memory frame = (frame.told tag answer, signals,
      { d with peers := d.peers.note (.submit tag channel frame.payload) peers' }) := by
  have hcut := Frame.split_of_le hlen
  rw [transmit_of_available h htag hne hcut hs hcarry, Recorded.submit_eq hsubmit,
    Routed.settle_of_available h hcut]

theorem calls_receive [HostStack ω] (id : SessionId) (buffer : Bytes) (control : Bool)
    (d : Device (Recorded ω)) :
    d.peers.ExtendsBy (Operation.Makes (.receive id buffer control))
      (d.receive id buffer control).2.peers := by
  have hreceives := receives_receive id buffer control d
  generalize d.receive id buffer control = outcome at hreceives
  cases hreceives with
  | refused => exact .refl _
  | received => exact .of_call rfl (.deliver _ _)

variable [Transport ω] [HostStack ω]

/-- No operation asks the peers for anything but what belongs to it. -/
theorem calls_operate (operation : Operation) (d : Device (Recorded ω)) :
    d.peers.ExtendsBy operation.Makes (d.operate operation).2.2.peers := by
  cases operation with
  | addSession tag => exact Registry.calls_add .openChannel d.registry d.peers
  | removeSession tag => exact Registry.calls_remove .closeChannel d.registry d.peers
  | removeSessions => exact Registry.calls_removeEach .closeEach d.registry.tags d.registry d.peers
  | transmit memory frame => exact calls_transmit memory frame d
  | receive id buffer control => exact calls_receive id buffer control d
  | setFlowControl | stop => exact .refl _
  | updateStats id bytes direction =>
    simp only [operate, updateStats]
    split <;> exact .refl _
  | changeMtu mtu =>
    simp only [operate, changeMtu]
    split <;> exact .refl _
  | setMac mac =>
    simp only [operate, setMac]
    split
    · exact .refl _
    · split <;> exact .refl _
  | openUp =>
    simp only [operate, openUp]
    split <;> exact .refl _

/-- At its end a device makes no call but to be detached and to close channels. -/
theorem calls_shutdown {P : Call → Prop} (hdetach : P .detach)
    (hclose : ∀ tag channel answer, P (.closeChannel tag channel answer))
    (d : Device (Recorded ω)) : d.peers.ExtendsBy P d.shutdown.peers := by
  unfold shutdown
  split
  · exact .trans (.of_call rfl hdetach)
      (Registry.calls_removeEach hclose d.registry.tags d.registry (HostStack.detach d.peers))
  · exact .refl _

end Device

end ModemMux

import ModemMux.Proofs.Loopback.Store

/-!
# The signals of a modem in memory

A modem tells a session to stop when the queue of its channel fills up, and to go on when that queue
is drained. As a channel has asked for a stop if and only if its queue is full, each request changes
at most one channel and signals if and only if that changes whether the channel is full
(`Loopback.exists_channel?_serve`). So whatever is asked of a modem, the signals for one opening of
a channel ask for a stop and for the opposite by turns, and the last one tells whether the queue is
full: `Loopback.alternates_signals`.
-/

namespace ModemMux

/-- A session's id is one less than its tag. -/
theorem Tag.toSession?_eq_some_iff {tag : Tag} {session : SessionId} :
    tag.toSession? = some session ↔ session.toNat + 1 = tag.toNat := by
  constructor
  · intro h
    exact (toNat_of_toSession? h).symm
  · intro h
    have hlt := tag.toNat_lt
    rw [toSession?, if_neg (by omega), Option.some.injEq, ← UInt32.toNat_inj, UInt32.toNat_ofNat']
    omega

/-- A tag with a session has one signal for it. -/
theorem Signal.ofTag_of_toSession? {tag : Tag} {session : SessionId}
    (h : tag.toSession? = some session) (engage : Bool) :
    Signal.ofTag tag engage = [⟨session, engage⟩] := by
  rw [ofTag, h]
  rfl

/-- The signals for a change of a channel: one if it changes whether the session is to stop. -/
def OpenChannel.signals (c d : OpenChannel) : List Signal :=
  if d.throttled = c.throttled then [] else Signal.ofTag c.tag d.throttled

@[simp] theorem OpenChannel.signals_self (c : OpenChannel) : c.signals c = [] := if_pos rfl

/-- A change is signalled if it turns the channel's mark and there is a session to be told. -/
theorem OpenChannel.signals_eq_nil_or (c d : OpenChannel) :
    c.signals d = [] ∨ d.throttled = !c.throttled ∧
      ∃ session, c.tag.toSession? = some session ∧ c.signals d = [⟨session, d.throttled⟩] := by
  unfold signals
  split
  next => exact .inl rfl
  next hne =>
    have hopposite : d.throttled = !c.throttled := Bool.eq_not.2 hne
    cases hsession : c.tag.toSession? with
    | none => exact .inl (by simp [Signal.ofTag, hsession])
    | some session =>
      exact .inr ⟨hopposite, session, rfl, Signal.ofTag_of_toSession? hsession d.throttled⟩

/-- Whether signals are all for one session and each asks for the opposite of what stood before it,
where `stopped` says what stood before the first. -/
def Signal.alternates (session : SessionId) : Bool → List Signal → Bool
  | _, [] => true
  | stopped, signal :: signals =>
    signal == ⟨session, !stopped⟩ && alternates session (!stopped) signals

namespace Loopback

variable {l : Loopback} {tag : Tag} {id : ChannelId} {c : OpenChannel}

/-- The signals of a payload that is accepted are those for its place in the queue. -/
theorem Sound.signals_push (h : l.Sound) (hc : l.channel? id = some c) (hroom : c.isFull = false)
    (payload : Bytes) :
    (if (c.push payload).throttled && !c.throttled then Signal.ofTag c.tag true else []) =
      c.signals (c.push payload) := by
  have hthrottled : c.throttled = false := (h.sound c (mem_of_channel? hc)).throttled_eq.trans hroom
  rw [OpenChannel.signals, hthrottled]
  cases (c.push payload).throttled <;> rfl

/-- A drain of an open channel gives its queue and signals the change to an empty one. -/
theorem drain_eq (hc : l.channel? id = some c) :
    l.drain id = (c.queue, c.signals c.flush, l.modify id (·.flush)) := by
  have hflush : c.flush.throttled = false := rfl
  simp only [drain, hc, OpenChannel.signals, hflush]
  cases c.throttled <;> rfl

/-! ## Requests -/

/-- What can be asked of a modem in memory. -/
inductive Request where
  | openChannel (tag : Tag)
  | closeChannel (tag : Tag) (id : ChannelId)
  | submit (tag : Tag) (id : ChannelId) (payload : Bytes)
  /-- Takes all payloads off a channel. -/
  | drain (id : ChannelId)
  | refuseOpens (on : Bool)
  | failTransmits (on : Bool)
  deriving DecidableEq, Repr

inductive Reply where
  | opened (answer : Except ChannelError ChannelId)
  | closed (answer : Except ChannelError Unit)
  | submission (answer : Except ChannelError Submission)
  | payloads (payloads : List Bytes)
  | done
  deriving DecidableEq, Repr

/-- The channel whose queue a request is about. -/
def Request.channel? : Request → Option ChannelId
  | .submit _ id _ | .drain id => some id
  | .openChannel _ | .closeChannel _ _ | .refuseOpens _ | .failTransmits _ => none

/-- A request, its answer, and the signals that it has given rise to. -/
structure Event where
  request : Request
  reply : Reply
  signals : List Signal
  deriving DecidableEq, Repr

namespace Event

def closes (id : ChannelId) (event : Event) : Bool :=
  match event.request, event.reply with
  | .closeChannel _ closed, .closed (.ok ()) => closed = id
  | _, _ => false

/-- The signals of an event that is about the queue of a channel. -/
def signalsOn (id : ChannelId) (event : Event) : List Signal :=
  if event.request.channel? = some id then event.signals else []

end Event

/-- The event of a request, and the modem after it. -/
def serve (request : Request) (l : Loopback) : Event × Loopback :=
  match request with
  | .openChannel tag => (⟨request, .opened (l.openChannel tag).1, []⟩, (l.openChannel tag).2)
  | .closeChannel tag id =>
    (⟨request, .closed (l.closeChannel tag id).1, []⟩, (l.closeChannel tag id).2)
  | .submit tag id payload =>
    let outcome := l.submit tag id payload
    (⟨request, .submission outcome.1, outcome.2.1⟩, outcome.2.2)
  | .drain id =>
    let outcome := l.drain id
    (⟨request, .payloads outcome.1, outcome.2.1⟩, outcome.2.2)
  | .refuseOpens on => (⟨request, .done, []⟩, { l with refusesOpens := on })
  | .failTransmits on => (⟨request, .done, []⟩, { l with failsTransmits := on })

/-- The events of requests, the first one first, and the modem after them. -/
def run : List Request → Loopback → List Event × Loopback
  | [], l => ([], l)
  | request :: requests, l =>
    match l.serve request with
    | (event, l) =>
      match run requests l with
      | (events, l) => (event :: events, l)

/-! ## The store -/

/-- No request breaks the invariant. -/
theorem sound_serve (hl : l.Sound) (request : Request) : (l.serve request).2.Sound := by
  cases request with
  | openChannel tag => exact (opens_openChannel l tag).sound hl
  | closeChannel tag id => exact (closes_closeChannel l tag id).sound hl
  | submit tag id payload => exact (submits_submit l tag id payload).sound hl
  | drain id => exact hl.drain id
  | refuseOpens | failTransmits => exact ⟨hl.nodup, hl.id_lt, hl.depth_eq, hl.sound⟩

/-- No request changes the set-up. -/
theorem config_serve (l : Loopback) (request : Request) :
    (l.serve request).2.config = l.config := by
  cases request with
  | openChannel tag => exact (opens_openChannel l tag).config_eq
  | closeChannel tag id => exact (closes_closeChannel l tag id).config_eq
  | submit tag id payload => exact (submits_submit l tag id payload).config_eq
  | drain id => exact config_drain l id
  | refuseOpens | failTransmits => rfl

/-- No run of requests breaks the invariant. -/
theorem sound_run (hl : l.Sound) (requests : List Request) : (l.run requests).2.Sound := by
  induction requests generalizing l with
  | nil => exact hl
  | cons request requests ih => exact ih (sound_serve hl request)

theorem config_run (l : Loopback) (requests : List Request) :
    (l.run requests).2.config = l.config := by
  induction requests generalizing l with
  | nil => rfl
  | cons request requests ih => exact (ih _).trans (config_serve l request)

/-! ## What a request changes -/

/-- What can become of a request: it changes no queue, or that of one channel. -/
inductive Serves (l : Loopback) : Request → Event × Loopback → Prop
  /-- Channels may come, and the one that the event has closed goes. -/
  | still {request : Request} {event : Event} {l' : Loopback} (hsignals : event.signals = [])
      (hkept : ∀ c ∈ l.channels, event.closes c.id = false → c ∈ l'.channels) :
      Serves l request (event, l')
  | pushed {c : OpenChannel} {payload : Bytes} (hc : l.channel? c.id = some c)
      (hroom : c.isFull = false) :
      Serves l (.submit c.tag c.id payload)
        (⟨.submit c.tag c.id payload, .submission (.ok .accepted), c.signals (c.push payload)⟩,
          l.modify c.id (·.push payload))
  | flushed {c : OpenChannel} (hc : l.channel? c.id = some c) :
      Serves l (.drain c.id)
        (⟨.drain c.id, .payloads c.queue, c.signals c.flush⟩, l.modify c.id (·.flush))

/-- The cases of `Serves` cover all that can become of a request. -/
theorem serves_serve (hl : l.Sound) (request : Request) : Serves l request (l.serve request) := by
  cases request with
  | openChannel tag =>
    have hopens := opens_openChannel l tag
    simp only [serve]
    generalize l.openChannel tag = outcome at hopens
    cases hopens with
    | refused | exhausted => exact .still rfl fun c hc _ ↦ hc
    | opened => exact .still rfl fun c hc _ ↦ mem_insertById.2 (.inr hc)
  | closeChannel tag id =>
    have hcloses := closes_closeChannel l tag id
    simp only [serve]
    generalize l.closeChannel tag id = outcome at hcloses
    cases hcloses with
    | notOpen | mismatch => exact .still rfl fun c hc _ ↦ hc
    | closed =>
      refine .still rfl fun c hc hopen ↦ List.mem_filter.2 ⟨hc, ?_⟩
      have hne : id ≠ c.id := of_decide_eq_false hopen
      exact bne_iff_ne.2 hne.symm
  | submit tag id payload =>
    have hsubmits := submits_submit l tag id payload
    simp only [serve]
    generalize l.submit tag id payload = outcome at hsubmits
    cases hsubmits with
    | failing | notOpen | mismatch | full => exact .still rfl fun c hc _ ↦ hc
    | accepted _ hc htag hroom =>
      subst htag
      obtain rfl := id_of_channel? hc
      rw [hl.signals_push hc hroom]
      exact .pushed hc hroom
  | drain id =>
    cases hc : l.channel? id with
    | none =>
      simp only [serve, drain, hc]
      exact .still rfl fun c hc _ ↦ hc
    | some c =>
      obtain rfl := id_of_channel? hc
      simp only [serve, drain_eq hc]
      exact .flushed hc
  | refuseOpens | failTransmits => exact .still rfl fun c hc _ ↦ hc

/-- A request that signals has filled the queue of one channel or drained a full one, and it sends
one signal, to the session of that channel's tag. -/
theorem signals_serve (hl : l.Sound) (request : Request) :
    (l.serve request).1.signals = [] ∨
    ∃ c ∈ l.channels, ∃ session, c.tag.toSession? = some session ∧
      ((∃ payload, request = .submit c.tag c.id payload ∧
          (l.serve request).1.reply = .submission (.ok .accepted) ∧
          c.queue.length + 1 = c.depth ∧ (l.serve request).1.signals = [⟨session, true⟩]) ∨
        (request = .drain c.id ∧ c.queue.length = c.depth ∧
          (l.serve request).1.signals = [⟨session, false⟩])) := by
  have hserves := serves_serve hl request
  generalize l.serve request = outcome at hserves
  cases hserves with
  | still hsignals => exact .inl hsignals
  | @pushed c payload hc hroom =>
    have hmem := mem_of_channel? hc
    have hthrottled : c.throttled = false := (hl.sound c hmem).throttled_eq.trans hroom
    rcases c.signals_eq_nil_or (c.push payload) with hnil | ⟨hturn, session, hsession, hone⟩
    · exact .inl hnil
    · rw [hthrottled, Bool.not_false] at hturn
      rw [hturn] at hone
      have hfull := ((hl.sound c hmem).push hroom payload).throttled_iff.1 hturn
      rw [OpenChannel.queue_push, List.length_append] at hfull
      exact .inr ⟨c, hmem, session, hsession, .inl ⟨payload, rfl, rfl, hfull, hone⟩⟩
  | @flushed c hc =>
    have hmem := mem_of_channel? hc
    rcases c.signals_eq_nil_or c.flush with hnil | ⟨hturn, session, hsession, hone⟩
    · exact .inl hnil
    · have hthrottled : c.throttled = true := by simpa [OpenChannel.flush] using hturn
      have hfull := (hl.sound c hmem).throttled_iff.1 hthrottled
      exact .inr ⟨c, hmem, session, hsession, .inr ⟨rfl, hfull, hone⟩⟩

/-- Where a queue is changed, the signals for that change are those for each channel that they
concern. -/
theorem exists_channel?_modify {f : OpenChannel → OpenChannel} {d : OpenChannel}
    (hc : l.channel? id = some c) (hd : l.channel? d.id = some d) (hf : OpenChannel.Keeps f) :
    ∃ e, (l.modify d.id f).channel? id = some e ∧ e.tag = c.tag ∧
      (if some d.id = some id then d.signals (f d) else []) = c.signals e := by
  by_cases hid : d.id = id
  · subst hid
    obtain rfl : c = d := Option.some.inj (hc.symm.trans hd)
    exact ⟨f c, channel?_modify hc hf, hf.tag c, if_pos rfl⟩
  · refine ⟨c, ?_, rfl, ?_⟩
    · have hne : c.id ≠ d.id := fun h ↦ hid (h.symm.trans (id_of_channel? hc))
      rw [channel?_modify_eq_map hf, hc, Option.map_some, if_neg (by simpa using hne)]
    · rw [OpenChannel.signals_self, if_neg fun h ↦ hid (Option.some.inj h)]

/-- A channel that a request does not close stays open, and what the request signals for it tells
what has become of it. -/
theorem exists_channel?_serve (hl : l.Sound) (hc : l.channel? id = some c) {request : Request}
    (hopen : (l.serve request).1.closes id = false) :
    ∃ d, (l.serve request).2.channel? id = some d ∧ d.tag = c.tag ∧
      (l.serve request).1.signalsOn id = c.signals d := by
  have hserves := serves_serve hl request
  have hsound := sound_serve hl request
  generalize l.serve request = outcome at hopen hserves hsound
  cases hserves with
  | still hsignals hkept =>
    have hid := id_of_channel? hc
    have hmem := hkept c (mem_of_channel? hc) (hid.symm ▸ hopen)
    refine ⟨c, hsound.channel?_eq_some_iff.2 ⟨hmem, hid⟩, rfl, ?_⟩
    rw [Event.signalsOn, hsignals, ite_self, OpenChannel.signals_self]
  | @pushed _ payload hd _ => exact exists_channel?_modify hc hd (OpenChannel.keeps_push payload)
  | flushed hd => exact exists_channel?_modify hc hd OpenChannel.keeps_flush

/-! ## Alternation -/

/-- The signals for a change of a channel carry on the alternation before them. -/
theorem alternates_signals_append {session : SessionId} (hsession : c.tag.toSession? = some session)
    (d : OpenChannel) (signals : List Signal) :
    Signal.alternates session c.throttled (c.signals d ++ signals) =
      Signal.alternates session d.throttled signals := by
  unfold OpenChannel.signals
  split
  next heq => rw [List.nil_append, heq]
  next hne =>
    rw [Signal.ofTag_of_toSession? hsession, List.singleton_append, Signal.alternates,
      ← Bool.eq_not.2 hne, beq_self_eq_true, Bool.true_and]

/-- What was signalled last says whether the session is to stop. -/
theorem getLast?_signals_append {session : SessionId} (hsession : c.tag.toSession? = some session)
    (d : OpenChannel) (signals : List Signal) :
    ((c.signals d ++ signals).getLast?.map (·.engage)).getD c.throttled =
      (signals.getLast?.map (·.engage)).getD d.throttled := by
  unfold OpenChannel.signals
  split
  next heq => rw [List.nil_append, heq]
  next =>
    rw [Signal.ofTag_of_toSession? hsession, List.getLast?_append]
    cases signals.getLast? <;> rfl

/-- What the requests between two times signal for a channel that stays open. -/
theorem exists_channel?_run (hl : l.Sound) (hc : l.channel? id = some c)
    {requests : List Request} (hopen : ∀ event ∈ (l.run requests).1, event.closes id = false) :
    ∃ d, (l.run requests).2.channel? id = some d ∧ d.tag = c.tag ∧
      let signals := (l.run requests).1.flatMap (·.signalsOn id)
      (c.tag.toSession? = none → signals = []) ∧
      ∀ session, c.tag.toSession? = some session →
        Signal.alternates session c.throttled signals ∧
        (signals.getLast?.map (·.engage)).getD c.throttled = d.throttled := by
  induction requests generalizing l c with
  | nil => exact ⟨c, hc, rfl, fun _ ↦ rfl, fun _ _ ↦ ⟨rfl, rfl⟩⟩
  | cons request requests ih =>
    obtain ⟨hfirst, hrest⟩ := List.forall_mem_cons.1 hopen
    obtain ⟨d, hd, htag, hsignals⟩ := exists_channel?_serve hl hc hfirst
    obtain ⟨e, he, hetag, hnone, hsome⟩ := ih (sound_serve hl request) hd hrest
    have hall : (l.run (request :: requests)).1.flatMap (·.signalsOn id) =
        c.signals d ++ ((l.serve request).2.run requests).1.flatMap (·.signalsOn id) := by
      rw [← hsignals]
      rfl
    rw [htag] at hetag hnone hsome
    refine ⟨e, he, hetag, ?_⟩
    rw [hall]
    constructor
    · intro hsession
      rw [hnone hsession, List.append_nil, OpenChannel.signals, Signal.ofTag, hsession]
      exact ite_self _
    · intro session hsession
      obtain ⟨halternates, hlast⟩ := hsome session hsession
      rw [alternates_signals_append hsession, getLast?_signals_append hsession]
      exact ⟨halternates, hlast⟩

/-- A modem in memory at any time after it was set up, whatever was asked of it. The ids of the open
channels are distinct numbers below the bound, each for one tag. A queue has room for one payload at
least and holds no more than there is room for, and a channel has asked for a stop if and only if
its queue is full. A request signals if it is a payload that is taken and fills the queue, or a
drain of a full queue, of a channel whose tag has a session, and then it signals once. Between its
opening and its closing a channel's signals are all for the session of its tag and ask for a stop
and for the opposite by turns, first for a stop, and the last one is for a stop if and only if the
queue is full; a channel for the root device has none. -/
theorem alternates_signals (config : LoopbackConfig) (before : List Request) :
    let l := (run before { config }).2
    (∀ c ∈ l.channels, (∃ n < config.maxChannels, c.id = .ofNat n) ∧
      (∀ tag, (tag, c.id) ∈ l.openChannels ↔ tag = c.tag) ∧
      1 ≤ c.depth ∧ c.queue.length ≤ c.depth ∧ (c.throttled ↔ c.queue.length = c.depth)) ∧
    (l.openChannels.map Prod.snd).Nodup ∧
    (∀ request, (l.serve request).1.signals = [] ∨
      ∃ c ∈ l.channels, ∃ session : SessionId, session.toNat + 1 = c.tag.toNat ∧
        ((∃ payload, request = .submit c.tag c.id payload ∧
            (l.serve request).1.reply = .submission (.ok .accepted) ∧
            c.queue.length + 1 = c.depth ∧ (l.serve request).1.signals = [⟨session, true⟩]) ∨
          (request = .drain c.id ∧ c.queue.length = c.depth ∧
            (l.serve request).1.signals = [⟨session, false⟩]))) ∧
    ∀ tag id opened, l.openChannel tag = (.ok id, opened) → ∀ during,
      let events := (run during opened).1
      let l' := (run during opened).2
      let signals := events.flatMap (·.signalsOn id)
      (∀ event ∈ events, event.closes id = false) →
        ∃ c, l'.channel? id = some c ∧ c.tag = tag ∧ (tag = 0 → signals = []) ∧
          ∀ session : SessionId, session.toNat + 1 = tag.toNat →
            Signal.alternates session false signals ∧
            (signals.getLast?.any (·.engage) ↔ c.queue.length = c.depth) := by
  intro l
  have hl : l.Sound := sound_run (sound_of_channels_eq_nil rfl) before
  have hconfig : l.config = config := config_run _ before
  refine ⟨fun c hc ↦ ⟨?_, fun tag ↦ ?_, (hl.sound c hc).pos, (hl.sound c hc).length_le,
    (hl.sound c hc).throttled_iff⟩, ?_, fun request ↦ ?_, ?_⟩
  · obtain ⟨n, hn, hid⟩ := hl.id_lt c hc
    rw [idBound, hconfig] at hn
    exact ⟨n, by omega, hid⟩
  · rw [hl.mem_openChannels_iff, hl.channel?_eq_some_iff.2 ⟨hc, rfl⟩]
    simp [eq_comm]
  · rw [map_snd_openChannels]
    exact hl.nodup
  · simpa only [Tag.toSession?_eq_some_iff] using signals_serve hl request
  · intro tag id opened hopened during events l' signals hopen
    have hopens := opens_openChannel l tag
    rw [hopened] at hopens
    have hsound : opened.Sound := hopens.sound hl
    have hc : opened.channel? id = some (.blank id tag (l.depthFor tag)) :=
      hsound.channel?_eq_some_iff.2 ⟨hopens.mem_channels_iff.2 (.inl rfl), rfl⟩
    obtain ⟨c, hc', htag, hnone, hsome⟩ := exists_channel?_run hsound hc hopen
    have hfull := ((sound_run hsound during).sound c (mem_of_channel? hc')).throttled_iff
    refine ⟨c, hc', htag, ?_, ?_⟩
    · rintro rfl
      exact hnone rfl
    · intro session hsession
      obtain ⟨halternates, hlast⟩ := hsome session (Tag.toSession?_eq_some_iff.2 hsession)
      refine ⟨halternates, ?_⟩
      rw [← hfull, ← hlast]
      cases signals.getLast? <;> rfl

def comeFillGo : List Request :=
  [.openChannel 9, .submit 9 (.ofNat 0) [1], .closeChannel 9 (.ofNat 0)]

/-- A channel fills up, hands a payload back, is drained and fills up again. -/
def refill : List Request :=
  [.submit 5 (.ofNat 0) [1], .submit 5 (.ofNat 0) [2], .drain (.ofNat 0),
    .submit 5 (.ofNat 0) [3]]

/-- There is room for one payload even if the set-up says that there is none, and the first channel
leaves nothing to the second one but its id. -/
theorem alternates_refill :
    let l := (run comeFillGo { config := ⟨1, some 0⟩ }).2
    ∃ opened, l.openChannel 5 = (.ok (.ofNat 0), opened) ∧
      (∀ event ∈ (run refill opened).1, event.closes (.ofNat 0) = false) ∧
      let signals := (run refill opened).1.flatMap (·.signalsOn (.ofNat 0))
      signals = [⟨4, true⟩, ⟨4, false⟩, ⟨4, true⟩] ∧ Signal.alternates 4 false signals ∧
        ∃ c, (run refill opened).2.channel? (.ofNat 0) = some c ∧ c.queue.length = c.depth := by
  intro l
  obtain ⟨-, -, -, hopening⟩ := alternates_signals ⟨1, some 0⟩ comeFillGo
  have hopened : l.openChannel 5 = (.ok (.ofNat 0), (l.openChannel 5).2) := rfl
  have hopen : ∀ event ∈ (run refill (l.openChannel 5).2).1, event.closes (.ofNat 0) = false := by
    decide
  obtain ⟨c, hc, -, -, hsession⟩ := hopening 5 (.ofNat 0) _ hopened refill hopen
  obtain ⟨halternates, hlast⟩ := hsession 4 rfl
  exact ⟨_, hopened, hopen, by decide, halternates, c, hc, hlast.1 (by decide)⟩

end Loopback

end ModemMux

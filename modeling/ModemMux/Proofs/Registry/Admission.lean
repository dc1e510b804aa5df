import ModemMux.Proofs.Registry.Ledger
import ModemMux.Testbed

/-!
# How sessions come and go

`Registry.Admission` is the law of adding a session and `Registry.Dismissal` that of removing one:
which answer is given when, what the transport is asked for, and what becomes of the table. The
first check that fails decides, the transport is asked after all checks and once at most, and a
table is changed by nothing but success. Both laws hold of every table that was made by operations
(`Registry.admission_run`), whatever a transport answers then.
-/

namespace ModemMux.Registry

variable {ω : Type} [Transport ω] {r : Registry} {tag : Tag}

/-! ## Adding -/

/-- Whether the table would take a session of this tag. -/
def Admits (tag : Tag) (r : Registry) : Prop :=
  tag.isSession ∧ tag ∉ r.tags ∧ r.length < r.capacity

namespace Adds

variable {peers : ω} {outcome : Except MuxError ChannelId × Registry × ω}

/-- A tag is rejected for itself if no session may have it. -/
theorem invalidTag_iff (h : Adds tag r peers outcome) :
    outcome.1 = .error (.invalidTag tag) ↔ tag.isSession = false := by
  cases h with
  | invalidTag htag => simp [htag]
  | sessionExists htag | full htag | refused htag | unusable htag | added htag => simp [htag]

/-- A tag is rejected as taken if a session with it is live. -/
theorem sessionExists_iff (h : Adds tag r peers outcome) :
    outcome.1 = .error (.sessionExists tag) ↔ tag.isSession ∧ tag ∈ r.tags := by
  cases h with
  | invalidTag htag => simp [htag]
  | sessionExists htag hlive => simp [htag, hlive]
  | full _ hnew | refused _ hnew | unusable _ hnew | added _ hnew => simp [hnew]

/-- A new tag is rejected if the table is full. -/
theorem capacityExceeded_iff (h : Adds tag r peers outcome) :
    outcome.1 = .error (.capacityExceeded r.capacity) ↔
      tag.isSession ∧ tag ∉ r.tags ∧ r.capacity ≤ r.length := by
  cases h with
  | invalidTag htag => simp [htag]
  | sessionExists _ hlive => simp [hlive]
  | full htag hnew hfull => simp [htag, hnew, hfull]
  | refused _ _ hroom | unusable _ _ hroom | added _ _ hroom => simp [Nat.not_le.2 hroom]

/-- A refusal without the transport leaves its state alone. -/
theorem peers_of_not_admits (h : Adds tag r peers outcome) (hr : ¬r.Admits tag) :
    outcome.2.2 = peers := by
  cases h with
  | invalidTag | sessionExists | full => rfl
  | refused htag hnew hroom | unusable htag hnew hroom | added htag hnew hroom =>
    exact absurd ⟨htag, hnew, hroom⟩ hr

/-- A tag that is admitted leads to one request for a channel, and to no other. -/
theorem peers_of_admits (h : Adds tag r peers outcome) (hr : r.Admits tag) :
    outcome.2.2 = (Transport.openChannel tag peers).2 := by
  obtain ⟨htag, hnew, hroom⟩ := hr
  cases h with
  | invalidTag htag' => simp [htag] at htag'
  | sessionExists _ hlive => exact absurd hlive hnew
  | full _ _ hfull => omega
  | refused _ _ _ hopen | unusable _ _ _ hopen | added _ _ _ hopen => rw [hopen]

theorem channelOpenFailed_iff (h : Adds tag r peers outcome) {source : ChannelError} :
    outcome.1 = .error (.channelOpenFailed tag source) ↔ r.Admits tag ∧
      ((Transport.openChannel tag peers).1 = .error source ∨
        ∃ channel, (Transport.openChannel tag peers).1 = .ok channel ∧
          channel.isValid = false ∧
          source = .refused tag s!"transport returned channel id {channel.display}") := by
  cases h with
  | invalidTag htag => simp [Admits, htag]
  | sessionExists _ hlive => simp [Admits, hlive]
  | full _ _ hfull => simp [Admits, Nat.not_lt.2 hfull]
  | refused htag hnew hroom hopen => simp [Admits, htag, hnew, hroom, hopen]
  | unusable htag hnew hroom hopen hvalid =>
    simpa [Admits, htag, hnew, hroom, hopen, hvalid] using eq_comm
  | added _ _ _ hopen hvalid => simp [hopen, hvalid]

/-- A session is added if its tag is admitted, and a valid channel opened for it. -/
theorem ok_iff (h : Adds tag r peers outcome) {channel : ChannelId} :
    outcome.1 = .ok channel ↔ r.Admits tag ∧
      (Transport.openChannel tag peers).1 = .ok channel ∧ channel.isValid := by
  cases h with
  | invalidTag htag => simp [Admits, htag]
  | sessionExists _ hlive => simp [Admits, hlive]
  | full _ _ hfull => simp [Admits, Nat.not_lt.2 hfull]
  | refused _ _ _ hopen => simp [hopen]
  | unusable _ _ _ hopen hvalid =>
    rw [hopen]
    constructor
    · simp
    · rintro ⟨-, heq, hvalid'⟩
      cases heq
      simp [hvalid] at hvalid'
  | added htag hnew hroom hopen hvalid =>
    rw [hopen]
    constructor
    · rintro ⟨⟩
      exact ⟨⟨htag, hnew, hroom⟩, rfl, hvalid⟩
    · rintro ⟨-, heq, -⟩
      cases heq
      rfl

/-- Adding changes the table only if it succeeds. -/
theorem registry_of_error (h : Adds tag r peers outcome) {error : MuxError}
    (herror : outcome.1 = .error error) : outcome.2.1 = r := by
  cases h with
  | added => cases herror
  | _ => rfl

/-- A session that is added is put behind the others, with its new channel. -/
theorem registry_of_ok (h : Adds tag r peers outcome) {channel : ChannelId}
    (hok : outcome.1 = .ok channel) : outcome.2.1 = r.insert tag channel := by
  cases h with
  | added =>
    cases hok
    rfl
  | _ => cases hok

end Adds

/-- The law of adding a session. -/
structure Admission (tag : Tag) (r : Registry) (w : Recorded ω) : Prop where
  /-- The tag is looked at before anything else, -/
  invalidTag : (r.add tag w).1 = .error (.invalidTag tag) ↔
    tag.toNat = 0 ∨ tag.toNat = 256 ∨ 511 < tag.toNat
  /-- then its session, whether or not the table is full, -/
  sessionExists : (r.add tag w).1 = .error (.sessionExists tag) ↔ tag.isSession ∧ tag ∈ r.tags
  /-- and then the room that is left. -/
  capacityExceeded : (r.add tag w).1 = .error (.capacityExceeded r.capacity) ↔
    tag.isSession ∧ tag ∉ r.tags ∧ r.length = r.capacity
  /-- The transport is not called if one of these checks fails, -/
  unasked : ¬r.Admits tag → (r.add tag w).2.2 = w
  /-- and is asked once to open a channel otherwise. -/
  asked : r.Admits tag → (r.add tag w).2.2 =
    w.note (.openChannel tag (Transport.openChannel tag w.peers).1)
      (Transport.openChannel tag w.peers).2
  /-- It may refuse, or answer with a number that names no channel. -/
  channelOpenFailed : ∀ source, (r.add tag w).1 = .error (.channelOpenFailed tag source) ↔
    r.Admits tag ∧ ((Transport.openChannel tag w.peers).1 = .error source ∨
      ∃ channel, (Transport.openChannel tag w.peers).1 = .ok channel ∧ channel.raw < 0 ∧
        source = .refused tag s!"transport returned channel id {channel.display}")
  ok : ∀ channel, (r.add tag w).1 = .ok channel ↔
    r.Admits tag ∧ (Transport.openChannel tag w.peers).1 = .ok channel ∧ 0 ≤ channel.raw
  unchanged : ∀ error, (r.add tag w).1 = .error error → (r.add tag w).2.1 = r
  appended : ∀ channel, (r.add tag w).1 = .ok channel → (r.add tag w).2.1 =
    { r with
      sessions := r.sessions ++ [⟨r.issued, tag, channel, .runnable, .zero⟩]
      issued := r.issued + 1 }

/-- Adding to a sound table is fully described, whatever the transport answers. -/
theorem Sound.admission (h : r.Sound) (tag : Tag) (w : Recorded ω) : r.Admission tag w where
  invalidTag := (adds_add tag r w).invalidTag_iff.trans Tag.isSession_eq_false_iff
  sessionExists := (adds_add tag r w).sessionExists_iff
  capacityExceeded := by
    have hfull : r.capacity ≤ r.length ↔ r.length = r.capacity := by
      have := h.length_le
      omega
    rw [(adds_add tag r w).capacityExceeded_iff, hfull]
  unasked := (adds_add tag r w).peers_of_not_admits
  asked := (adds_add tag r w).peers_of_admits
  channelOpenFailed source := by
    simpa [ChannelId.isValid, Recorded.fst_openChannel] using
      (adds_add tag r w).channelOpenFailed_iff
  ok channel := by
    simpa [ChannelId.isValid, Recorded.fst_openChannel] using (adds_add tag r w).ok_iff
  unchanged _ := (adds_add tag r w).registry_of_error
  appended _ := (adds_add tag r w).registry_of_ok

/-! ## Removing -/

/-- Removing changes the table only if it succeeds. -/
theorem Removes.registry_of_error {peers : ω} {outcome : Except MuxError Unit × Registry × ω}
    (h : Removes tag r peers outcome) {error : MuxError} (herror : outcome.1 = .error error) :
    outcome.2.1 = r := by
  cases h with
  | removed => cases herror
  | _ => rfl

/-- A live session is removed if its channel is closed, and nothing changes if it is not. -/
theorem Sound.remove_of_mem (h : r.Sound) {s : Session} (hs : s ∈ r.sessions) (peers : ω) :
    (r.remove s.tag peers).2.2 = (Transport.closeChannel s.tag s.channel peers).2 ∧
      ((∃ source, (Transport.closeChannel s.tag s.channel peers).1 = .error source ∧
        (r.remove s.tag peers).1 = .error (.channelCloseFailed s.tag s.channel source) ∧
        (r.remove s.tag peers).2.1 = r) ∨
      (Transport.closeChannel s.tag s.channel peers).1 = .ok () ∧
        (r.remove s.tag peers).1 = .ok () ∧ (r.remove s.tag peers).2.1 = r.retire s) := by
  rw [h.remove_eq hs]
  rcases Transport.closeChannel s.tag s.channel peers with ⟨answer | answer, peers'⟩
  · exact ⟨rfl, .inl ⟨answer, rfl, rfl, rfl⟩⟩
  · exact ⟨rfl, .inr ⟨rfl, rfl, rfl⟩⟩

/-- The law of removing a session. -/
structure Dismissal (tag : Tag) (r : Registry) (w : Recorded ω) : Prop where
  unknownSession : (r.remove tag w).1 = .error (.unknownSession tag) ↔ tag ∉ r.tags
  /-- Where there is no session the transport is not called, -/
  unasked : tag ∉ r.tags → (r.remove tag w).2.2 = w
  /-- and otherwise is asked once to close the channel of the session. -/
  asked : ∀ s ∈ r.sessions, s.tag = tag → (r.remove tag w).2.2 =
    w.note (.closeChannel tag s.channel (Transport.closeChannel tag s.channel w.peers).1)
      (Transport.closeChannel tag s.channel w.peers).2
  channelCloseFailed : ∀ s ∈ r.sessions, s.tag = tag → ∀ source,
    (r.remove tag w).1 = .error (.channelCloseFailed tag s.channel source) ↔
      (Transport.closeChannel tag s.channel w.peers).1 = .error source
  ok : ∀ s ∈ r.sessions, s.tag = tag →
    ((r.remove tag w).1 = .ok () ↔ (Transport.closeChannel tag s.channel w.peers).1 = .ok ())
  unchanged : ∀ error, (r.remove tag w).1 = .error error → (r.remove tag w).2.1 = r
  /-- The other sessions stay as they are and in their order. -/
  dropped : ∀ s ∈ r.sessions, s.tag = tag → (r.remove tag w).1 = .ok () →
    (r.remove tag w).2.1 =
      { r with
        sessions := r.sessions.filter (·.tag != tag)
        retired := s.unbind :: r.retired }

/-- Removing from a sound table is fully described, whatever the transport answers. -/
theorem Sound.dismissal (h : r.Sound) (tag : Tag) (w : Recorded ω) : r.Dismissal tag w where
  unknownSession := by
    by_cases hlive : tag ∈ r.tags
    · obtain ⟨s, hs, rfl⟩ := mem_tags_iff.1 hlive
      obtain ⟨-, ⟨source, -, heq, -⟩ | ⟨-, heq, -⟩⟩ := h.remove_of_mem hs w <;> simp [heq, hlive]
    · simp [remove_of_notMem hlive, hlive]
  unasked hnew := by rw [remove_of_notMem hnew]
  asked := by
    rintro s hs rfl
    exact (h.remove_of_mem hs w).1
  channelCloseFailed := by
    rintro s hs rfl source
    rw [← Recorded.fst_closeChannel]
    obtain ⟨-, ⟨source', hclose, heq, -⟩ | ⟨hclose, heq, -⟩⟩ := h.remove_of_mem hs w <;>
      simp [hclose, heq]
  ok := by
    rintro s hs rfl
    rw [← Recorded.fst_closeChannel]
    obtain ⟨-, ⟨source', hclose, heq, -⟩ | ⟨hclose, heq, -⟩⟩ := h.remove_of_mem hs w <;>
      simp [hclose, heq]
  unchanged _ := (removes_remove tag r w).registry_of_error
  dropped := by
    rintro s hs rfl hok
    obtain ⟨-, ⟨source', -, heq, -⟩ | ⟨-, -, heq⟩⟩ := h.remove_of_mem hs w
    · rw [heq] at hok
      cases hok
    · rw [heq, ← h.sessions_retire]
      rfl

/-! ## Coming and going -/

/-- A session that comes and goes leaves nothing in the table, however the transport may have
changed in between. -/
theorem Sound.remove_add (h : r.Sound) {w w' : Recorded ω} {channel : ChannelId}
    (hadd : (r.add tag w).1 = .ok channel)
    (hremove : ((r.add tag w).2.1.remove tag w').1 = .ok ()) :
    ((r.add tag w).2.1.remove tag w').2.1 =
      { r with
        retired := ⟨r.issued, tag, .invalid, .unbound, .zero⟩ :: r.retired
        issued := r.issued + 1 } := by
  obtain ⟨⟨-, hnew, -⟩, -, -⟩ := ((h.admission tag w).ok channel).1 hadd
  have hsound : (r.add tag w).2.1.Sound := (adds_add tag r w).sound h
  rw [(adds_add tag r w).registry_of_ok hadd] at hsound hremove ⊢
  have hlast : Session.fresh r.issued tag channel ∈ (r.insert tag channel).sessions :=
    List.mem_append_right _ List.mem_cons_self
  rw [(hsound.dismissal tag w').dropped _ hlast rfl hremove]
  have hfilter : (r.insert tag channel).sessions.filter (·.tag != tag) = r.sessions := by
    have hothers : ∀ s ∈ r.sessions, (s.tag != tag) = true := by
      simpa [mem_tags_iff] using hnew
    simp [Registry.insert, Session.fresh, List.filter_eq_self.2 hothers]
  rw [hfilter]
  rfl

/-- In every table that operations have made over a transport, sessions come and go by the two laws,
whatever the transport answers next. A session that comes and goes leaves the live sessions, the
capacity and the counters of the root device as they were. -/
theorem admission_run (capacity : Nat) (operations : List Operation) (peers : ω) (tag : Tag)
    (w : Recorded ω) :
    let r := (run operations (empty capacity) peers).1
    r.capacity = capacity ∧ r.Admission tag w ∧ r.Dismissal tag w ∧
    ∀ channel (w' : Recorded ω), (r.add tag w).1 = .ok channel →
      ((r.add tag w).2.1.remove tag w').1 = .ok () →
      ((r.add tag w).2.1.remove tag w').2.1 =
        { r with
          retired := ⟨r.issued, tag, .invalid, .unbound, .zero⟩ :: r.retired
          issued := r.issued + 1 } := by
  intro r
  obtain ⟨hsound, -, hcapacity⟩ := sound_run capacity operations peers
  exact ⟨hcapacity, hsound.admission tag w, hsound.dismissal tag w,
    fun _ _ hadd hremove ↦ hsound.remove_add hadd hremove⟩

/-- A session that is live is what a full table says of it. -/
example : ((run [.add 1] (empty 1) (⟨{}, {}⟩ : Testbed)).1.add 1 (⟨{}, {}⟩ : Testbed)).1 =
    .error (.sessionExists 1) := by decide

end ModemMux.Registry

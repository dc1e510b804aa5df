import Mathlib.Data.List.Nodup
import ModemMux.Loopback

/-!
# The store of a modem in memory

The invariant of the loopback's channels, `Loopback.Sound`: their ids are distinct numbers below the
bound, no queue is longer than its depth, and a channel has asked its session to stop if and only if
its queue is full. `Opens`, `Closes` and `Submits` list the outcomes of the three requests, each
with all that must hold for it; none of them, nor a drain, breaks the invariant.
-/

namespace ModemMux

namespace OpenChannel

variable {c : OpenChannel}

theorem isFull_iff : c.isFull ↔ c.depth ≤ c.queue.length := by
  simp [isFull]

def blank (id : ChannelId) (tag : Tag) (depth : Nat) : OpenChannel := ⟨id, tag, depth, [], false⟩

/-- What holds of every channel: its queue fits, and it is throttled if and only if it is full. -/
structure Sound (c : OpenChannel) : Prop where
  pos : 0 < c.depth
  length_le : c.queue.length ≤ c.depth
  throttled_iff : c.throttled ↔ c.queue.length = c.depth

/-- A channel with room for something is sound while it is empty. -/
theorem sound_blank {id : ChannelId} {tag : Tag} {depth : Nat} (h : 0 < depth) :
    (blank id tag depth).Sound where
  pos := h
  length_le := Nat.zero_le _
  throttled_iff := by
    simp only [blank, Bool.false_eq_true, List.length_nil, false_iff]
    omega

/-- A queue never holds more than its depth. -/
theorem Sound.isFull_iff_eq (h : c.Sound) : c.isFull ↔ c.queue.length = c.depth := by
  have := h.length_le
  rw [isFull_iff]
  omega

/-- A channel has asked its session to stop if and only if it is full. -/
theorem Sound.throttled_eq (h : c.Sound) : c.throttled = c.isFull := by
  rw [Bool.eq_iff_iff, h.throttled_iff, h.isFull_iff_eq]

theorem throttled_push (payload : Bytes) :
    (c.push payload).throttled = (c.throttled || (c.push payload).isFull) := rfl

/-- A payload goes into a queue that is not full. -/
theorem Sound.push (h : c.Sound) (hroom : c.isFull = false) (payload : Bytes) :
    (c.push payload).Sound where
  pos := h.pos
  length_le := by
    rw [Bool.eq_false_iff, ne_eq, isFull_iff] at hroom
    simp only [queue_push, List.length_append, List.length_singleton, depth_push]
    omega
  throttled_iff := by
    rw [throttled_push, h.throttled_eq, hroom, Bool.false_or, isFull_iff]
    rw [Bool.eq_false_iff, ne_eq, isFull_iff] at hroom
    simp only [queue_push, List.length_append, List.length_singleton, depth_push]
    omega

/-- A channel is sound when it has been drained. -/
theorem Sound.flush (h : c.Sound) : c.flush.Sound := sound_blank h.pos

/-- A change of a channel that leaves its place and its depth alone. -/
structure Keeps (f : OpenChannel → OpenChannel) : Prop where
  id : ∀ c, (f c).id = c.id
  tag : ∀ c, (f c).tag = c.tag
  depth : ∀ c, (f c).depth = c.depth

theorem keeps_push (payload : Bytes) : Keeps (·.push payload) :=
  ⟨fun _ ↦ rfl, fun _ ↦ rfl, fun _ ↦ rfl⟩

theorem keeps_flush : Keeps (·.flush) := ⟨fun _ ↦ rfl, fun _ ↦ rfl, fun _ ↦ rfl⟩

end OpenChannel

namespace Loopback

variable {l : Loopback} {id : ChannelId} {tag : Tag} {c d : OpenChannel}

/-- The invariant of a loopback. -/
structure Sound (l : Loopback) : Prop where
  /-- No two channels share an id. -/
  nodup : (l.channels.map (·.id)).Nodup
  /-- Every id is a number below the bound. -/
  id_lt : ∀ c ∈ l.channels, ∃ n < l.idBound, c.id = .ofNat n
  depth_eq : ∀ c ∈ l.channels, c.depth = l.depthFor c.tag
  sound : ∀ c ∈ l.channels, c.Sound

/-- A loopback without open channels is sound. -/
theorem sound_of_channels_eq_nil (h : l.channels = []) : l.Sound where
  nodup := by simp [h]
  id_lt := by simp [h]
  depth_eq := by simp [h]
  sound := by simp [h]

/-- Every queue has room for a payload, even one set up with a depth of zero. -/
theorem depthFor_pos (l : Loopback) (tag : Tag) : 0 < l.depthFor tag := by
  unfold depthFor
  omega

/-! ## Finding a channel -/

theorem mem_of_channel? (h : l.channel? id = some c) : c ∈ l.channels :=
  List.mem_of_find?_eq_some h

theorem id_of_channel? (h : l.channel? id = some c) : c.id = id := by
  simpa using List.find?_some h

/-- An id is not in use if and only if no open channel has it. -/
theorem channel?_eq_none_iff : l.channel? id = none ↔ ∀ c ∈ l.channels, c.id ≠ id := by
  simp [channel?]

/-- No two open channels have one id. -/
theorem Sound.eq_of_id_eq (h : l.Sound) (hc : c ∈ l.channels) (hd : d ∈ l.channels)
    (heq : c.id = d.id) : c = d :=
  List.inj_on_of_nodup_map h.nodup hc hd heq

/-- An open channel is found by its id. -/
theorem Sound.channel?_eq_some_iff (h : l.Sound) :
    l.channel? id = some c ↔ c ∈ l.channels ∧ c.id = id := by
  constructor
  · exact fun hc ↦ ⟨mem_of_channel? hc, id_of_channel? hc⟩
  · rintro ⟨hc, rfl⟩
    cases hd : l.channel? c.id with
    | none => exact absurd rfl (channel?_eq_none_iff.1 hd c hc)
    | some d => rw [h.eq_of_id_eq (mem_of_channel? hd) hc (id_of_channel? hd)]

theorem map_snd_openChannels (l : Loopback) :
    l.openChannels.map Prod.snd = l.channels.map (·.id) := by
  simp [openChannels, Function.comp_def]

/-- A pair of tag and id is listed if and only if the channel with the id is bound to the tag. -/
theorem Sound.mem_openChannels_iff (h : l.Sound) :
    (tag, id) ∈ l.openChannels ↔ ∃ c, l.channel? id = some c ∧ c.tag = tag := by
  simp only [openChannels, List.mem_map, Prod.mk.injEq, h.channel?_eq_some_iff]
  constructor
  · rintro ⟨c, hc, htag, hid⟩
    exact ⟨c, ⟨hc, hid⟩, htag⟩
  · rintro ⟨c, ⟨hc, hid⟩, htag⟩
    exact ⟨c, hc, htag, hid⟩

theorem Sound.nodup_openChannels (h : l.Sound) : l.openChannels.Nodup :=
  List.Nodup.of_map Prod.snd ((map_snd_openChannels l).symm ▸ h.nodup)

/-- The open ids are those of the channels. -/
theorem isOpen_iff : l.isOpen id ↔ id ∈ l.channels.map (·.id) := by
  simp [isOpen, channel?]

/-! ## Opening -/

/-- Insertion by id adds one channel and loses none. -/
theorem insertById_perm (c : OpenChannel) (cs : List OpenChannel) :
    (insertById c cs).Perm (c :: cs) := by
  induction cs with
  | nil => exact List.Perm.refl _
  | cons d cs ih =>
    unfold insertById
    split
    · exact List.Perm.refl _
    · exact (ih.cons d).trans (List.Perm.swap c d cs)

/-- If none of the ids that are tried is free, no id is: with `n` channels open, `n + 1` ids are
tried. -/
theorem isOpen_of_freeId?_eq_none (h : l.freeId? = none) {n : Nat} (hn : n < l.idBound) :
    l.isOpen (.ofNat n) := by
  have hall : ∀ m < min l.idBound (l.channels.length + 1), l.isOpen (.ofNat m) := by
    simpa [freeId?] using h
  by_cases hle : l.idBound ≤ l.channels.length + 1
  · exact hall n (by omega)
  · have hnodup : ((List.range (l.channels.length + 1)).map ChannelId.ofNat).Nodup :=
      List.nodup_range.map fun _ _ ↦ ChannelId.ofNat_inj.1
    have hsub : (List.range (l.channels.length + 1)).map ChannelId.ofNat ⊆
        l.channels.map (·.id) := by
      intro i hi
      obtain ⟨m, hm, rfl⟩ := List.mem_map.1 hi
      exact isOpen_iff.1 (hall m (by rw [List.mem_range] at hm; omega))
    have hlen := hnodup.length_le_of_subset hsub
    simp only [List.length_map, List.length_range] at hlen
    omega

/-- The id that is chosen is the least that is free. -/
theorem exists_of_freeId?_eq_some (h : l.freeId? = some id) :
    ∃ n < l.idBound, id = .ofNat n ∧ l.isOpen id = false ∧ ∀ m < n, l.isOpen (.ofNat m) := by
  rw [freeId?, List.find?_map, Option.map_eq_some_iff] at h
  obtain ⟨n, hn, rfl⟩ := h
  obtain ⟨hfree, hmem, hleast⟩ := List.find?_range_eq_some.1 hn
  rw [List.mem_range] at hmem
  exact ⟨n, by omega, rfl, by simpa using hfree, fun m hm ↦ by simpa using hleast m hm⟩

/-- What can become of opening a channel. -/
inductive Opens (l : Loopback) (tag : Tag) : Except ChannelError ChannelId × Loopback → Prop
  | refused (hrefuse : l.refusesOpens) :
      Opens l tag (.error (.refused tag "loopback configured to refuse opens"), l)
  | exhausted (hrefuse : l.refusesOpens = false) (hfull : ∀ n < l.idBound, l.isOpen (.ofNat n)) :
      Opens l tag (.error (.exhausted tag), l)
  /-- The channel gets the least free id. -/
  | opened {n : Nat} (hrefuse : l.refusesOpens = false) (hn : n < l.idBound)
      (hfree : l.isOpen (.ofNat n) = false) (hleast : ∀ m < n, l.isOpen (.ofNat m)) :
      Opens l tag (.ok (.ofNat n),
        { l with channels := insertById (.blank (.ofNat n) tag (l.depthFor tag)) l.channels })

/-- The cases of `Opens` cover all that can become of an opening. -/
theorem opens_openChannel (l : Loopback) (tag : Tag) : Opens l tag (l.openChannel tag) := by
  unfold openChannel
  split
  next hrefuse => exact .refused hrefuse
  next hrefuse =>
    have hrefuse : l.refusesOpens = false := by simpa using hrefuse
    split
    next hid => exact .exhausted hrefuse fun _ ↦ isOpen_of_freeId?_eq_none hid
    next id hid =>
      obtain ⟨n, hn, rfl, hfree, hleast⟩ := exists_of_freeId?_eq_some hid
      exact .opened hrefuse hn hfree hleast

/-- An opening keeps the invariant. -/
theorem Opens.sound {outcome : Except ChannelError ChannelId × Loopback}
    (h : Opens l tag outcome) (hl : l.Sound) : outcome.2.Sound := by
  cases h with
  | refused | exhausted => exact hl
  | @opened n _ hn hfree _ =>
    have hperm := insertById_perm (.blank (.ofNat n) tag (l.depthFor tag)) l.channels
    have hmem {c : OpenChannel} (hc : c ∈ insertById (.blank (.ofNat n) tag (l.depthFor tag))
        l.channels) : c = .blank (.ofNat n) tag (l.depthFor tag) ∨ c ∈ l.channels :=
      mem_insertById.1 hc
    refine ⟨(hperm.map _).nodup_iff.2 (List.nodup_cons.2 ⟨?_, hl.nodup⟩), ?_, ?_, ?_⟩
    · rw [← isOpen_iff, Bool.not_eq_true]
      exact hfree
    · intro c hc
      rcases hmem hc with rfl | hc
      · exact ⟨n, hn, rfl⟩
      · exact hl.id_lt c hc
    · intro c hc
      rcases hmem hc with rfl | hc
      · rfl
      · exact hl.depth_eq c hc
    · intro c hc
      rcases hmem hc with rfl | hc
      · exact OpenChannel.sound_blank (l.depthFor_pos tag)
      · exact hl.sound c hc

theorem Opens.config_eq {outcome : Except ChannelError ChannelId × Loopback}
    (h : Opens l tag outcome) : outcome.2.config = l.config := by
  cases h <;> rfl

/-- An opening that fails changes nothing. -/
theorem Opens.eq_of_error {e : ChannelError} {l' : Loopback} (h : Opens l tag (.error e, l')) :
    l' = l := by
  cases h <;> rfl

/-- An opening fails only for want of permission or of ids. -/
theorem Opens.refusesOpens_or_full {e : ChannelError} {l' : Loopback}
    (h : Opens l tag (.error e, l')) :
    l.refusesOpens ∨ ∀ n < l.idBound, l.isOpen (.ofNat n) := by
  cases h with
  | refused hrefuse => exact .inl hrefuse
  | exhausted _ hfull => exact .inr hfull

/-- The id of an open channel can name a channel. -/
theorem Opens.isValid {l' : Loopback} (h : Opens l tag (.ok id, l')) : id.isValid := by
  cases h
  exact ChannelId.isValid_ofNat _

/-- The id of a new channel was free. -/
theorem Opens.id_ne {l' : Loopback} (h : Opens l tag (.ok id, l')) (hc : c ∈ l.channels) :
    c.id ≠ id := by
  intro heq
  cases h with
  | opened _ _ hfree _ =>
    rw [Bool.eq_false_iff, ne_eq, isOpen_iff] at hfree
    exact hfree (List.mem_map.2 ⟨c, hc, heq⟩)

/-- An opening adds one blank channel, with the depth for its tag. -/
theorem Opens.mem_channels_iff {l' : Loopback} (h : Opens l tag (.ok id, l')) :
    c ∈ l'.channels ↔ c = .blank id tag (l.depthFor tag) ∨ c ∈ l.channels := by
  cases h
  exact mem_insertById

/-- An opening adds one pair to those that are listed. -/
theorem Opens.openChannels_perm {l' : Loopback} (h : Opens l tag (.ok id, l')) :
    l'.openChannels.Perm ((tag, id) :: l.openChannels) := by
  cases h
  exact (insertById_perm _ _).map _

/-! ## Closing -/

/-- What can become of closing a channel. -/
inductive Closes (l : Loopback) (tag : Tag) (id : ChannelId) :
    Except ChannelError Unit × Loopback → Prop
  | notOpen (hc : l.channel? id = none) : Closes l tag id (.error (.notOpen id), l)
  | mismatch {c : OpenChannel} (hc : l.channel? id = some c) (hne : c.tag ≠ tag) :
      Closes l tag id (.error (.tagMismatch id tag c.tag), l)
  | closed {c : OpenChannel} (hc : l.channel? id = some c) (htag : c.tag = tag) :
      Closes l tag id (.ok (), { l with channels := l.channels.filter (·.id != id) })

/-- The cases of `Closes` cover all that can become of a closing. -/
theorem closes_closeChannel (l : Loopback) (tag : Tag) (id : ChannelId) :
    Closes l tag id (l.closeChannel tag id) := by
  unfold closeChannel
  split
  next hc => exact .notOpen hc
  next c hc =>
    split
    next htag => exact .closed hc htag
    next hne => exact .mismatch hc hne

/-- A closing keeps the invariant. -/
theorem Closes.sound {outcome : Except ChannelError Unit × Loopback}
    (h : Closes l tag id outcome) (hl : l.Sound) : outcome.2.Sound := by
  cases h with
  | notOpen | mismatch => exact hl
  | closed =>
    have hsub : (l.channels.filter (·.id != id)).Sublist l.channels := List.filter_sublist
    exact ⟨hl.nodup.sublist (hsub.map _), fun c hc ↦ hl.id_lt c (hsub.subset hc),
      fun c hc ↦ hl.depth_eq c (hsub.subset hc), fun c hc ↦ hl.sound c (hsub.subset hc)⟩

theorem Closes.config_eq {outcome : Except ChannelError Unit × Loopback}
    (h : Closes l tag id outcome) : outcome.2.config = l.config := by
  cases h <;> rfl

/-- A closing that fails changes nothing. -/
theorem Closes.eq_of_error {e : ChannelError} {l' : Loopback}
    (h : Closes l tag id (.error e, l')) : l' = l := by
  cases h <;> rfl

/-- A closing opens nothing. -/
theorem Closes.channels_subset {outcome : Except ChannelError Unit × Loopback}
    (h : Closes l tag id outcome) : outcome.2.channels ⊆ l.channels := by
  cases h with
  | notOpen | mismatch => exact List.Subset.refl _
  | closed => exact List.filter_subset_self _

/-- Only a channel that is bound to the tag is closed. -/
theorem Closes.mem_openChannels {l' : Loopback} (h : Closes l tag id (.ok (), l'))
    (hl : l.Sound) : (tag, id) ∈ l.openChannels := by
  cases h with
  | closed hc htag => exact hl.mem_openChannels_iff.2 ⟨_, hc, htag⟩

/-- The channel with the id goes and no other. -/
theorem Closes.openChannels_eq {l' : Loopback} (h : Closes l tag id (.ok (), l'))
    (hl : l.Sound) : l'.openChannels = l.openChannels.erase (tag, id) := by
  have hmem := h.mem_openChannels hl
  rw [hl.nodup_openChannels.erase_eq_filter]
  cases h with
  | @closed c hc htag =>
    simp only [openChannels, List.filter_map]
    refine congrArg _ (List.filter_congr fun d hd ↦ ?_)
    by_cases hid : d.id = id
    · obtain rfl := hl.eq_of_id_eq hd (mem_of_channel? hc) (hid.trans (id_of_channel? hc).symm)
      simp [hid, htag]
    · rw [Bool.eq_iff_iff]
      simp [hid]

/-- A channel that is open for a tag closes for that tag. -/
theorem Closes.eq_ok {answer : Except ChannelError Unit} {l' : Loopback}
    (h : Closes l tag id (answer, l')) (hl : l.Sound) (hmem : (tag, id) ∈ l.openChannels) :
    answer = .ok () := by
  obtain ⟨c, hc, htag⟩ := hl.mem_openChannels_iff.1 hmem
  cases h with
  | notOpen hnone => rw [hc] at hnone; cases hnone
  | mismatch hd hne =>
    obtain rfl := Option.some.inj (hc.symm.trans hd)
    exact absurd htag hne
  | closed => rfl

/-! ## Changing a channel -/

variable {f : OpenChannel → OpenChannel}

/-- A change that keeps id and tag does not show in the list of channels. -/
theorem openChannels_modify (hf : OpenChannel.Keeps f) :
    (l.modify id f).openChannels = l.openChannels := by
  simp only [openChannels, modify, List.map_map, List.map_inj_left, Function.comp_apply]
  intro c _
  split
  · rw [hf.id, hf.tag]
  · rfl

/-- A channel is found as before, and changed if it has the id. -/
theorem channel?_modify_eq_map (hf : OpenChannel.Keeps f) (l : Loopback) (id found : ChannelId) :
    (l.modify id f).channel? found =
      (l.channel? found).map fun c ↦ if c.id == id then f c else c := by
  have hsearch : ((·.id == found) ∘ fun c ↦ if c.id == id then f c else c) = (·.id == found) := by
    funext c
    simp only [Function.comp_apply]
    split
    · rw [hf.id]
    · rfl
  rw [channel?, modify, List.find?_map, hsearch]
  rfl

/-- The channel that was changed is found as it is now. -/
theorem channel?_modify (hc : l.channel? id = some c) (hf : OpenChannel.Keeps f) :
    (l.modify id f).channel? id = some (f c) := by
  rw [channel?_modify_eq_map hf, hc, Option.map_some, if_pos (beq_iff_eq.2 (id_of_channel? hc))]

/-- The channel with the id is changed and no other. -/
theorem Sound.mem_modify_iff (h : l.Sound) (hc : l.channel? id = some c) :
    d ∈ (l.modify id f).channels ↔ d = f c ∨ d ∈ l.channels ∧ d.id ≠ id := by
  simp only [modify, List.mem_map]
  constructor
  · rintro ⟨b, hb, rfl⟩
    by_cases hid : b.id = id
    · left
      obtain rfl : b = c := Option.some.inj ((h.channel?_eq_some_iff.2 ⟨hb, hid⟩).symm.trans hc)
      simp [hid]
    · right
      simp [hid, hb]
  · rintro (rfl | ⟨hd, hid⟩)
    · exact ⟨c, mem_of_channel? hc, by simp [id_of_channel? hc]⟩
    · exact ⟨d, hd, by simp [hid]⟩

/-- The invariant survives a change after which the channel is still sound. -/
theorem Sound.modify (h : l.Sound) (hc : l.channel? id = some c) (hf : OpenChannel.Keeps f)
    (hsound : (f c).Sound) : (l.modify id f).Sound where
  nodup := by
    rw [← map_snd_openChannels, openChannels_modify hf, map_snd_openChannels]
    exact h.nodup
  id_lt d hd := by
    rcases (h.mem_modify_iff hc).1 hd with rfl | ⟨hd, -⟩
    · rw [hf.id]
      exact h.id_lt c (mem_of_channel? hc)
    · exact h.id_lt d hd
  depth_eq d hd := by
    rcases (h.mem_modify_iff hc).1 hd with rfl | ⟨hd, -⟩
    · rw [hf.depth, hf.tag]
      exact h.depth_eq c (mem_of_channel? hc)
    · exact h.depth_eq d hd
  sound d hd := by
    rcases (h.mem_modify_iff hc).1 hd with rfl | ⟨hd, -⟩
    · exact hsound
    · exact h.sound d hd

/-! ## Submitting and draining -/

/-- What can become of submitting a payload. -/
inductive Submits (l : Loopback) (tag : Tag) (id : ChannelId) (payload : Bytes) :
    Except ChannelError Submission × List Signal × Loopback → Prop
  | failing (hfail : l.failsTransmits) :
      Submits l tag id payload (.error (.io "loopback configured to fail transmits"), [], l)
  | notOpen (hfail : l.failsTransmits = false) (hc : l.channel? id = none) :
      Submits l tag id payload (.error (.notOpen id), [], l)
  | mismatch {c : OpenChannel} (hfail : l.failsTransmits = false) (hc : l.channel? id = some c)
      (hne : c.tag ≠ tag) :
      Submits l tag id payload (.error (.tagMismatch id tag c.tag), [], l)
  | full {c : OpenChannel} (hfail : l.failsTransmits = false) (hc : l.channel? id = some c)
      (htag : c.tag = tag) (hfull : c.isFull) :
      Submits l tag id payload (.ok (.retry payload), [], l)
  /-- The session is asked to stop if the payload has filled the queue. -/
  | accepted {c : OpenChannel} (hfail : l.failsTransmits = false) (hc : l.channel? id = some c)
      (htag : c.tag = tag) (hroom : c.isFull = false) :
      Submits l tag id payload (.ok .accepted,
        if (c.push payload).throttled && !c.throttled then Signal.ofTag tag true else [],
        l.modify id (·.push payload))

/-- The cases of `Submits` cover all that can become of a payload. -/
theorem submits_submit (l : Loopback) (tag : Tag) (id : ChannelId) (payload : Bytes) :
    Submits l tag id payload (l.submit tag id payload) := by
  unfold submit
  split
  next hfail => exact .failing hfail
  next hfail =>
    have hfail : l.failsTransmits = false := by simpa using hfail
    split
    next hc => exact .notOpen hfail hc
    next c hc =>
      split
      next hne => exact .mismatch hfail hc hne
      next htag =>
        have htag : c.tag = tag := by simpa using htag
        split
        next hfull => exact .full hfail hc htag hfull
        next hroom => exact .accepted hfail hc htag (by simpa using hroom)

/-- A payload that is submitted keeps the invariant. -/
theorem Submits.sound {payload : Bytes}
    {outcome : Except ChannelError Submission × List Signal × Loopback}
    (h : Submits l tag id payload outcome) (hl : l.Sound) : outcome.2.2.Sound := by
  cases h with
  | accepted _ hc _ hroom =>
    exact hl.modify hc (OpenChannel.keeps_push payload)
      ((hl.sound _ (mem_of_channel? hc)).push hroom payload)
  | _ => exact hl

/-- A payload for an open channel under its tag is taken if there is room, and comes back if not. -/
theorem Submits.eq_ok {payload : Bytes} {answer : Except ChannelError Submission}
    {signals : List Signal} {l' : Loopback} (h : Submits l tag id payload (answer, signals, l'))
    (hfail : l.failsTransmits = false) (hc : l.channel? id = some c) (htag : c.tag = tag) :
    answer = .ok (if c.isFull then .retry payload else .accepted) := by
  cases h with
  | failing hfail' => rw [hfail] at hfail'; cases hfail'
  | notOpen _ hnone => rw [hc] at hnone; cases hnone
  | mismatch _ hd hne =>
    obtain rfl := Option.some.inj (hc.symm.trans hd)
    exact absurd htag hne
  | full _ hd _ hfull =>
    obtain rfl := Option.some.inj (hc.symm.trans hd)
    rw [if_pos hfull]
  | accepted _ hd _ hroom =>
    obtain rfl := Option.some.inj (hc.symm.trans hd)
    rw [hroom, if_neg Bool.false_ne_true]

/-- A payload opens and closes nothing. -/
theorem Submits.openChannels_eq {payload : Bytes}
    {outcome : Except ChannelError Submission × List Signal × Loopback}
    (h : Submits l tag id payload outcome) : outcome.2.2.openChannels = l.openChannels := by
  cases h with
  | accepted => exact openChannels_modify (OpenChannel.keeps_push payload)
  | _ => rfl

theorem Submits.config_eq {payload : Bytes}
    {outcome : Except ChannelError Submission × List Signal × Loopback}
    (h : Submits l tag id payload outcome) : outcome.2.2.config = l.config := by
  cases h <;> rfl

/-- A full channel hands the very payload back, signals nothing and stays as it is. -/
theorem Submits.eq_of_retry {payload back : Bytes} {signals : List Signal} {l' : Loopback}
    (h : Submits l tag id payload (.ok (.retry back), signals, l')) :
    back = payload ∧ signals = [] ∧ l' = l := by
  cases h
  exact ⟨rfl, rfl, rfl⟩

/-- A payload that is refused signals nothing and changes nothing. -/
theorem Submits.eq_of_error {payload : Bytes} {e : ChannelError} {signals : List Signal}
    {l' : Loopback} (h : Submits l tag id payload (.error e, signals, l')) :
    signals = [] ∧ l' = l := by
  cases h <;> exact ⟨rfl, rfl⟩

theorem config_drain (l : Loopback) (id : ChannelId) : (l.drain id).2.2.config = l.config := by
  unfold Loopback.drain
  split <;> rfl

/-- A drain opens and closes nothing. -/
theorem openChannels_drain (l : Loopback) (id : ChannelId) :
    (l.drain id).2.2.openChannels = l.openChannels := by
  unfold Loopback.drain
  split
  · rfl
  · exact openChannels_modify OpenChannel.keeps_flush

/-- A drain keeps the invariant. -/
theorem Sound.drain (h : l.Sound) (id : ChannelId) : (l.drain id).2.2.Sound := by
  unfold Loopback.drain
  split
  · exact h
  next c hc =>
    exact h.modify hc OpenChannel.keeps_flush
      (h.sound c (mem_of_channel? hc)).flush

end Loopback

end ModemMux

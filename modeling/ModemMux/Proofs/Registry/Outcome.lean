import ModemMux.Proofs.Registry.Table

/-!
# What becomes of a request to a table

`Adds` and `Removes` list what can become of adding and of removing a session, each outcome with all
that must hold for it. A predicate that one removal keeps is kept by any number of them
(`removeEach_induction`). Requests that concern a session of the table leave its place alone.
-/

namespace ModemMux.Registry

variable {ω : Type} [Transport ω] {tag : Tag} {r : Registry} {peers : ω}

/-! ## Adding a session -/

/-- What can become of adding a session. -/
inductive Adds (tag : Tag) (r : Registry) (peers : ω) :
    Except MuxError ChannelId × Registry × ω → Prop
  | invalidTag (htag : tag.isSession = false) :
      Adds tag r peers (.error (.invalidTag tag), r, peers)
  | sessionExists (htag : tag.isSession) (hlive : tag ∈ r.tags) :
      Adds tag r peers (.error (.sessionExists tag), r, peers)
  | full (htag : tag.isSession) (hnew : tag ∉ r.tags) (hfull : r.capacity ≤ r.length) :
      Adds tag r peers (.error (.capacityExceeded r.capacity), r, peers)
  /-- The transport opens no channel. -/
  | refused {source : ChannelError} {peers' : ω} (htag : tag.isSession) (hnew : tag ∉ r.tags)
      (hroom : r.length < r.capacity)
      (hopen : Transport.openChannel tag peers = (.error source, peers')) :
      Adds tag r peers (.error (.channelOpenFailed tag source), r, peers')
  /-- The transport answers with an id that names no channel. -/
  | unusable {channel : ChannelId} {peers' : ω} (htag : tag.isSession) (hnew : tag ∉ r.tags)
      (hroom : r.length < r.capacity)
      (hopen : Transport.openChannel tag peers = (.ok channel, peers'))
      (hvalid : channel.isValid = false) :
      Adds tag r peers (.error (.channelOpenFailed tag
        (.refused tag s!"transport returned channel id {channel.display}")), r, peers')
  | added {channel : ChannelId} {peers' : ω} (htag : tag.isSession) (hnew : tag ∉ r.tags)
      (hroom : r.length < r.capacity)
      (hopen : Transport.openChannel tag peers = (.ok channel, peers'))
      (hvalid : channel.isValid) :
      Adds tag r peers (.ok channel, r.insert tag channel, peers')

/-- Every way in which an addition can end is one of those listed. -/
theorem adds_add (tag : Tag) (r : Registry) (peers : ω) : Adds tag r peers (r.add tag peers) := by
  unfold add
  split
  next htag => exact .invalidTag htag
  next htag =>
    have htag : tag.isSession := by simpa using htag
    split
    next hlive => exact .sessionExists htag (find?_isSome_iff.1 hlive)
    next hlive =>
      have hnew : tag ∉ r.tags := fun h ↦ hlive (find?_isSome_iff.2 h)
      split
      next hfull => exact .full htag hnew hfull
      next hfull =>
        have hroom : r.length < r.capacity := by omega
        split
        next source peers' hopen => exact .refused htag hnew hroom hopen
        next channel peers' hopen =>
          cases hvalid : channel.isValid
          · simpa [accept, hvalid] using Adds.unusable htag hnew hroom hopen hvalid
          · simpa [accept, hvalid] using Adds.added htag hnew hroom hopen hvalid

theorem Adds.sound {outcome : Except MuxError ChannelId × Registry × ω}
    (h : Adds tag r peers outcome) (hr : r.Sound) : outcome.2.1.Sound := by
  cases h with
  | added htag hnew hroom _ hvalid => exact hr.insert htag hnew hroom hvalid
  | _ => exact hr

theorem Adds.capacity_eq {outcome : Except MuxError ChannelId × Registry × ω}
    (h : Adds tag r peers outcome) : outcome.2.1.capacity = r.capacity := by
  cases h <;> rfl

/-! ## Removing sessions -/

/-- What can become of removing a session. -/
inductive Removes (tag : Tag) (r : Registry) (peers : ω) :
    Except MuxError Unit × Registry × ω → Prop
  | unknown (hnew : tag ∉ r.tags) : Removes tag r peers (.error (.unknownSession tag), r, peers)
  | unusable {s : Session} (hs : r.find? tag = some s) (hvalid : s.channel.isValid = false) :
      Removes tag r peers (.error (.invalidChannel tag), r, peers)
  /-- The transport does not close the channel. -/
  | refused {s : Session} {source : ChannelError} {peers' : ω} (hs : r.find? tag = some s)
      (hvalid : s.channel.isValid)
      (hclose : Transport.closeChannel tag s.channel peers = (.error source, peers')) :
      Removes tag r peers (.error (.channelCloseFailed tag s.channel source), r, peers')
  | removed {s : Session} {peers' : ω} (hs : r.find? tag = some s) (hvalid : s.channel.isValid)
      (hclose : Transport.closeChannel tag s.channel peers = (.ok (), peers')) :
      Removes tag r peers (.ok (), r.retire s, peers')

/-- Every way in which a removal can end is one of those listed. -/
theorem removes_remove (tag : Tag) (r : Registry) (peers : ω) :
    Removes tag r peers (r.remove tag peers) := by
  unfold remove
  split
  next hs => exact .unknown (find?_eq_none_iff.1 hs)
  next s hs =>
    split
    next hvalid => exact .unusable hs hvalid
    next hvalid =>
      have hvalid : s.channel.isValid := by simpa using hvalid
      split
      next source peers' hclose => exact .refused hs hvalid hclose
      next peers' hclose => exact .removed hs hvalid hclose

variable {outcome : Except MuxError Unit × Registry × ω}

theorem Removes.sound (h : Removes tag r peers outcome) (hr : r.Sound) : outcome.2.1.Sound := by
  cases h with
  | removed => exact hr.retire
  | _ => exact hr

theorem Removes.capacity_eq (h : Removes tag r peers outcome) :
    outcome.2.1.capacity = r.capacity := by
  cases h <;> rfl

theorem Removes.sessions_sublist (h : Removes tag r peers outcome) :
    outcome.2.1.sessions.Sublist r.sessions := by
  cases h with
  | removed => exact sessions_retire_sublist
  | _ => exact List.Sublist.refl _

theorem Removes.tags_sublist (h : Removes tag r peers outcome) :
    outcome.2.1.tags.Sublist r.tags :=
  h.sessions_sublist.map _

/-- In a sound table no removal fails for want of a valid channel. -/
theorem Sound.remove_ne_invalidChannel (h : r.Sound) (tag tag' : Tag) (peers : ω) :
    (r.remove tag peers).1 ≠ .error (.invalidChannel tag') := by
  have hremoves := removes_remove tag r peers
  generalize r.remove tag peers = outcome at hremoves
  cases hremoves with
  | unusable hs hvalid =>
    rw [h.isValid _ (mem_of_find? hs)] at hvalid
    cases hvalid
  | _ => simp

/-- Removing what is not live is an error, and asks for nothing. -/
theorem remove_of_notMem (h : tag ∉ r.tags) :
    r.remove tag peers = (.error (.unknownSession tag), r, peers) := by
  rw [Registry.remove, find?_eq_none_iff.2 h]

/-- The removal of a live session is up to the transport. -/
theorem Sound.remove_eq (h : r.Sound) {s : Session} (hs : s ∈ r.sessions) (peers : ω) :
    r.remove s.tag peers =
      match Transport.closeChannel s.tag s.channel peers with
      | (.error source, peers) => (.error (.channelCloseFailed s.tag s.channel source), r, peers)
      | (.ok (), peers) => (.ok (), r.retire s, peers) := by
  have hvalid : ¬s.channel.isValid = false := by simp [h.isValid s hs]
  rw [Registry.remove, h.find?_eq_some_iff.2 ⟨hs, rfl⟩]
  exact if_neg hvalid

/-- What each removal keeps, any number of removals keep. -/
theorem removeEach_induction {P : Registry → ω → Prop}
    (step : ∀ tag r peers, P r peers → P (r.remove tag peers).2.1 (r.remove tag peers).2.2)
    (tags : List Tag) {r : Registry} {peers : ω} (h : P r peers) :
    P (removeEach tags r peers).2.1 (removeEach tags r peers).2.2 := by
  induction tags generalizing r peers with
  | nil => exact h
  | cons tag tags ih => exact ih (step tag r peers h)

theorem Sound.removeEach (h : r.Sound) (tags : List Tag) (peers : ω) :
    (removeEach tags r peers).2.1.Sound :=
  removeEach_induction (P := fun r _ ↦ r.Sound)
    (fun tag r peers h ↦ (removes_remove tag r peers).sound h) tags h

/-- A removal brings no session back, and changes none that it leaves. -/
theorem sessions_removeEach_subset (tags : List Tag) :
    (removeEach tags r peers).2.1.sessions ⊆ r.sessions :=
  removeEach_induction (P := fun r' _ ↦ r'.sessions ⊆ r.sessions)
    (fun tag r' peers' h ↦
      List.Subset.trans (removes_remove tag r' peers').sessions_sublist.subset h)
    tags (List.Subset.refl _)

theorem tags_removeEach_subset (tags : List Tag) :
    (removeEach tags r peers).2.1.tags ⊆ r.tags :=
  List.map_subset _ (sessions_removeEach_subset tags)

/-! ## What is no concern of the transport -/

end ModemMux.Registry

namespace ModemMux.Transport

/-- A part of the peers that no request to the transport changes. -/
structure Spares {ω α : Type} [Transport ω] (part : ω → α) : Prop where
  openChannel : ∀ tag peers, part (Transport.openChannel tag peers).2 = part peers
  closeChannel : ∀ tag channel peers,
    part (Transport.closeChannel tag channel peers).2 = part peers
  submit : ∀ tag channel payload peers,
    part (Transport.submit tag channel payload peers).2.2 = part peers

namespace Spares

variable {ω α : Type} [Transport ω] {part : ω → α}

theorem add (h : Spares part) (tag : Tag) (r : Registry) (peers : ω) :
    part (r.add tag peers).2.2 = part peers := by
  have hpart := h.openChannel tag peers
  have hadds := Registry.adds_add tag r peers
  generalize r.add tag peers = outcome at hadds
  cases hadds with
  | refused _ _ _ hopen | unusable _ _ _ hopen | added _ _ _ hopen => rwa [hopen] at hpart
  | _ => rfl

theorem remove (h : Spares part) (tag : Tag) (r : Registry) (peers : ω) :
    part (r.remove tag peers).2.2 = part peers := by
  have hremoves := Registry.removes_remove tag r peers
  generalize r.remove tag peers = outcome at hremoves
  cases hremoves with
  | @refused s _ _ _ _ hclose =>
    have hpart := h.closeChannel tag s.channel peers
    rwa [hclose] at hpart
  | @removed s _ _ _ hclose =>
    have hpart := h.closeChannel tag s.channel peers
    rwa [hclose] at hpart
  | _ => rfl

theorem removeEach (h : Spares part) (tags : List Tag) (r : Registry) (peers : ω) :
    part (Registry.removeEach tags r peers).2.2 = part peers :=
  Registry.removeEach_induction (P := fun _ peers' ↦ part peers' = part peers)
    (fun tag r peers' hpart ↦ (h.remove tag r peers').trans hpart) tags rfl

end Spares

end ModemMux.Transport

namespace ModemMux.Registry

variable {ω : Type} [Transport ω] {tag : Tag} {r : Registry} {peers : ω}

/-! ## Requests to a session -/

variable {bytes : UInt64} {direction : Direction} {engage : Bool} {signal : Signal}

/-- A packet of a live session counts for it, and in the totals. -/
theorem count_of_mem (h : tag ∈ r.tags) : r.count tag bytes direction = (.ok (),
    { r.modify tag (·.count bytes direction) with totals := r.totals.record bytes direction }) := by
  obtain ⟨s, hs⟩ := Option.isSome_iff_exists.1 (find?_isSome_iff.2 h)
  rw [Registry.count, hs]

/-- A packet of no live session is an error, and counts nowhere. -/
theorem count_of_notMem (h : tag ∉ r.tags) :
    r.count tag bytes direction = (.error (.unknownSession tag), r) := by
  rw [Registry.count, find?_eq_none_iff.2 h]

theorem Sound.count (h : r.Sound) : (r.count tag bytes direction).2.Sound := by
  by_cases hlive : tag ∈ r.tags
  · have hm : (r.modify tag (·.count bytes direction)).Sound :=
      h.modify (keeps_count bytes direction)
    rw [count_of_mem hlive]
    exact ⟨hm.nodup, hm.length_le, hm.isSession, hm.isValid, hm.bound⟩
  · rw [count_of_notMem hlive]
    exact h

theorem capacity_count : (r.count tag bytes direction).2.capacity = r.capacity := by
  by_cases hlive : tag ∈ r.tags
  · rw [count_of_mem hlive, capacity_modify]
  · rw [count_of_notMem hlive]

theorem bindings_count : (r.count tag bytes direction).2.bindings = r.bindings := by
  by_cases hlive : tag ∈ r.tags
  · rw [count_of_mem hlive]
    exact (keeps_count bytes direction).bindings_modify
  · rw [count_of_notMem hlive]

/-- The session of a tag obeys, or nothing changes. -/
theorem request_eq_or (tag : Tag) (engage : Bool) (r : Registry) :
    (r.request tag engage).2 = r ∨
      (r.request tag engage).2 = r.modify tag (·.request engage) := by
  unfold Registry.request
  split
  · exact .inl rfl
  · split
    · exact .inl rfl
    · exact .inr rfl

theorem Sound.request (h : r.Sound) : (r.request tag engage).2.Sound := by
  rcases request_eq_or tag engage r with heq | heq <;> rw [heq]
  · exact h
  · exact h.modify (keeps_request engage)

theorem capacity_request : (r.request tag engage).2.capacity = r.capacity := by
  rcases request_eq_or tag engage r with heq | heq <;> rw [heq]
  exact capacity_modify r tag _

theorem bindings_request : (r.request tag engage).2.bindings = r.bindings := by
  rcases request_eq_or tag engage r with heq | heq <;> rw [heq]
  exact (keeps_request engage).bindings_modify

/-- A live session obeys. -/
theorem Sound.request_eq (h : r.Sound) (htag : tag ∈ r.tags) :
    r.request tag engage = (.ok (), r.modify tag (·.request engage)) := by
  obtain ⟨s, hs, rfl⟩ := mem_tags_iff.1 htag
  rw [Registry.request, h.find?_eq_some_iff.2 ⟨hs, rfl⟩]
  exact if_neg (h.bound s hs)

/-- A session is stopped under its id if it is stopped. -/
theorem Sound.isStopped_eq (h : r.Sound) {s : Session} (hs : s ∈ r.sessions) {id : SessionId}
    (hid : Tag.ofSession? id = some s.tag) : r.isStopped id = s.isFlowControlled := by
  rw [isStopped, hid, Option.any_some, isFlowControlled, h.find?_eq_some_iff.2 ⟨hs, rfl⟩,
    Option.any_some]

/-- A signal for an id without a tag is an error, and stops nothing. -/
theorem heed_of_eq_none (hid : Tag.ofSession? signal.session = none) :
    r.heed signal = (.error (.invalidSessionId signal.session), r) := by
  rw [Registry.heed, hid]

/-- A signal for a session that is not live is an error, and stops nothing. -/
theorem heed_of_notMem (hid : Tag.ofSession? signal.session = some tag) (hnew : tag ∉ r.tags) :
    r.heed signal = (.error (.unknownSession tag), r) := by
  rw [Registry.heed, hid]
  simp only [Registry.request, find?_eq_none_iff.2 hnew]

/-- A signal for a live session is followed by it, and by no other. -/
theorem Sound.heed_of_mem (h : r.Sound) (hid : Tag.ofSession? signal.session = some tag)
    (hlive : tag ∈ r.tags) :
    r.heed signal = (.ok (), r.modify tag (·.request signal.engage)) := by
  rw [Registry.heed, hid]
  exact h.request_eq hlive

theorem Sound.heed (h : r.Sound) : (r.heed signal).2.Sound := by
  unfold Registry.heed
  split
  · exact h
  · exact h.request

theorem bindings_heed : (r.heed signal).2.bindings = r.bindings := by
  unfold Registry.heed
  split
  · rfl
  · exact bindings_request

theorem Sound.heedAll (h : r.Sound) (signals : List Signal) : (r.heedAll signals).2.Sound := by
  induction signals generalizing r with
  | nil => exact h
  | cons signal signals ih => exact ih h.heed

theorem bindings_heedAll (signals : List Signal) :
    (r.heedAll signals).2.bindings = r.bindings := by
  induction signals generalizing r with
  | nil => rfl
  | cons signal signals ih => exact ih.trans bindings_heed

end ModemMux.Registry

import Mathlib.Data.List.Nodup
import ModemMux.Registry.Membership

/-!
# The invariant of the session table

A table is sound if its tags are distinct session tags, it is within its capacity, and each of its
sessions is bound to a channel. `Registry.Sound` is kept by all that happens to a table: `insert`
and `retire` for sessions that come and go, `modify` for those that stay. In a sound table a lookup
finds the one session with a tag, at its place.
-/

namespace ModemMux

/-- A bound session is stopped if that is what was asked for last. -/
theorem Session.isFlowControlled_request {s : Session} (hs : s.state ≠ .unbound) (engage : Bool) :
    (s.request engage).isFlowControlled = engage := by
  cases hstate : s.state with
  | unbound => exact absurd hstate hs
  | runnable | flowControlled =>
    simp only [isFlowControlled, request, hstate, SessionState.request]
    cases engage <;> rfl

namespace Registry

variable {r : Registry} {tag : Tag} {s : Session}

/-- The tags of the live sessions with their channels, in table order. -/
def bindings (r : Registry) : List (Tag × ChannelId) := r.sessions.map fun s ↦ (s.tag, s.channel)

/-- The invariant of a session table. -/
structure Sound (r : Registry) : Prop where
  /-- No two sessions share a tag. -/
  nodup : r.tags.Nodup
  /-- The table is within its capacity. -/
  length_le : r.length ≤ r.capacity
  /-- Each tag may name a session. -/
  isSession : ∀ s ∈ r.sessions, s.tag.isSession
  /-- Each session has a channel. -/
  isValid : ∀ s ∈ r.sessions, s.channel.isValid
  /-- No live session is unbound. -/
  bound : ∀ s ∈ r.sessions, s.state ≠ .unbound

theorem sound_of_sessions_eq_nil (h : r.sessions = []) : r.Sound where
  nodup := by simp [tags, h]
  length_le := by simp [length, h]
  isSession := by simp [h]
  isValid := by simp [h]
  bound := by simp [h]

/-! ## Finding a session -/

/-- A tag is live if a session in the table has it. -/
theorem mem_tags_iff : tag ∈ r.tags ↔ ∃ s ∈ r.sessions, s.tag = tag := by
  simp [tags]

theorem mem_tags_of_mem (h : s ∈ r.sessions) : s.tag ∈ r.tags := mem_tags_iff.2 ⟨s, h, rfl⟩

/-- A tag is bound to a channel by a session in the table that has both. -/
theorem mem_bindings_iff {b : Tag × ChannelId} :
    b ∈ r.bindings ↔ ∃ s ∈ r.sessions, s.tag = b.1 ∧ s.channel = b.2 := by
  obtain ⟨tag, channel⟩ := b
  simp [bindings]

theorem tags_of_bindings_eq {r' : Registry} (h : r'.bindings = r.bindings) : r'.tags = r.tags := by
  have htags := congrArg (List.map Prod.fst) h
  simpa [bindings, tags, Function.comp_def] using htags

/-- Nothing is found for a tag that is not live, and for no other tag. -/
theorem find?_eq_none_iff : r.find? tag = none ↔ tag ∉ r.tags := by
  simp [find?, tags]

theorem mem_of_find? (h : r.find? tag = some s) : s ∈ r.sessions := List.mem_of_find?_eq_some h

theorem tag_of_find? (h : r.find? tag = some s) : s.tag = tag := by
  simpa using List.find?_some h

/-- Sessions with the same tag are the same session. -/
theorem Sound.eq_of_tag_eq (h : r.Sound) {s t : Session} (hs : s ∈ r.sessions)
    (ht : t ∈ r.sessions) (heq : s.tag = t.tag) : s = t :=
  List.inj_on_of_nodup_map h.nodup hs ht heq

/-- In a sound table a session is found by its tag. -/
theorem Sound.find?_eq_some_iff (h : r.Sound) :
    r.find? tag = some s ↔ s ∈ r.sessions ∧ s.tag = tag := by
  constructor
  · exact fun hs ↦ ⟨mem_of_find? hs, tag_of_find? hs⟩
  · rintro ⟨hs, rfl⟩
    obtain ⟨t, ht⟩ : ∃ t, r.find? s.tag = some t := by
      rw [← Option.isSome_iff_exists, ← Option.ne_none_iff_isSome, ne_eq, find?_eq_none_iff]
      exact not_not_intro (mem_tags_of_mem hs)
    rw [ht, h.eq_of_tag_eq (mem_of_find? ht) hs (tag_of_find? ht)]

theorem find?_isSome_iff : (r.find? tag).isSome ↔ tag ∈ r.tags := by
  rw [← Option.ne_none_iff_isSome, ne_eq, find?_eq_none_iff, not_not]

/-- The search for a session's tag ends at its place in the table. -/
theorem Sound.findIdx_eq (h : r.Sound) {i : Nat} (hi : r.sessions[i]? = some s) :
    r.sessions.findIdx (·.tag == s.tag) = i := by
  obtain ⟨hlt, rfl⟩ := List.getElem?_eq_some_iff.1 hi
  have hj : r.sessions.findIdx (·.tag == r.sessions[i].tag) < r.sessions.length :=
    List.findIdx_lt_length_of_exists ⟨_, List.getElem_mem hlt, by simp⟩
  have htag : r.sessions[r.sessions.findIdx (·.tag == r.sessions[i].tag)].tag =
      r.sessions[i].tag := by
    simpa using List.findIdx_getElem (w := hj)
  have hlt' : i < r.tags.length := by simpa [tags] using hlt
  have hj' : r.sessions.findIdx (·.tag == r.sessions[i].tag) < r.tags.length := by
    simpa [tags] using hj
  have heq : r.tags[r.sessions.findIdx (·.tag == r.sessions[i].tag)] = r.tags[i] := by
    simpa [tags] using htag
  exact h.nodup.getElem_inj_iff.1 heq

/-- A session is found at its place in the table. -/
theorem Sound.lookup_eq_some_iff (h : r.Sound) {e : Entry} :
    r.lookup tag = some e ↔ r.sessions[e.index]? = some e.session ∧ e.session.tag = tag := by
  obtain ⟨i, s⟩ := e
  simp only [lookup, Option.map_eq_some_iff, Entry.mk.injEq]
  constructor
  · rintro ⟨t, ht, rfl, rfl⟩
    obtain ⟨i, hi⟩ := List.getElem?_of_mem (mem_of_find? ht)
    obtain rfl := tag_of_find? ht
    exact ⟨by rw [h.findIdx_eq hi, hi], rfl⟩
  · rintro ⟨hi, rfl⟩
    exact ⟨s, h.find?_eq_some_iff.2 ⟨List.mem_of_getElem? hi, rfl⟩, h.findIdx_eq hi, rfl⟩

/-! ## Sessions that come and go -/

@[simp] theorem bindings_insert (tag : Tag) (channel : ChannelId) :
    (r.insert tag channel).bindings = r.bindings ++ [(tag, channel)] := by
  simp [bindings, insert, Session.fresh]

@[simp] theorem tags_insert (tag : Tag) (channel : ChannelId) :
    (r.insert tag channel).tags = r.tags ++ [tag] := by
  simp [tags, insert, Session.fresh]

/-- A sound table stays sound when a session with a new tag and a valid channel is added to it. -/
theorem Sound.insert (h : r.Sound) {channel : ChannelId} (htag : tag.isSession)
    (hnew : tag ∉ r.tags) (hroom : r.length < r.capacity) (hvalid : channel.isValid) :
    (r.insert tag channel).Sound where
  nodup := by simpa [List.nodup_append] using ⟨h.nodup, fun t ht heq ↦ hnew (heq ▸ ht)⟩
  length_le := by
    have : (r.insert tag channel).length = r.length + 1 := by simp [length, Registry.insert]
    rw [this]
    exact hroom
  isSession := by
    simp only [Registry.insert, List.mem_append, List.mem_singleton]
    rintro s (hs | rfl)
    · exact h.isSession s hs
    · exact htag
  isValid := by
    simp only [Registry.insert, List.mem_append, List.mem_singleton]
    rintro s (hs | rfl)
    · exact h.isValid s hs
    · exact hvalid
  bound := by
    simp only [Registry.insert, List.mem_append, List.mem_singleton]
    rintro s (hs | rfl)
    · exact h.bound s hs
    · simp [Session.fresh]

/-- A new session is found under its tag. -/
theorem Sound.find?_insert {channel : ChannelId} (h : (r.insert tag channel).Sound) :
    (r.insert tag channel).find? tag = some (.fresh r.issued tag channel) :=
  h.find?_eq_some_iff.2 ⟨List.mem_append_right _ List.mem_cons_self, rfl⟩

theorem sessions_retire_sublist : (r.retire s).sessions.Sublist r.sessions :=
  List.eraseP_sublist

theorem tags_retire_sublist : (r.retire s).tags.Sublist r.tags :=
  sessions_retire_sublist.map _

theorem Sound.retire (h : r.Sound) : (r.retire s).Sound where
  nodup := h.nodup.sublist tags_retire_sublist
  length_le := Nat.le_trans sessions_retire_sublist.length_le h.length_le
  isSession t ht := h.isSession t (sessions_retire_sublist.subset ht)
  isValid t ht := h.isValid t (sessions_retire_sublist.subset ht)
  bound t ht := h.bound t (sessions_retire_sublist.subset ht)

/-- The first session with the tag goes, and all others stay. -/
theorem sessions_retire_append {before after : List Session}
    (hsessions : r.sessions = before ++ s :: after) (hbefore : ∀ t ∈ before, t.tag ≠ s.tag) :
    (r.retire s).sessions = before ++ after := by
  have hbefore : ∀ t ∈ before, ¬(t.tag == s.tag) = true := by simpa using hbefore
  simp [Registry.retire, hsessions, List.eraseP_append_right _ hbefore]

/-- Where no tag occurs twice, taking out the first session with a tag takes out all of them. -/
theorem eraseP_tag_eq_filter {ss : List Session} (h : (ss.map (·.tag)).Nodup) (tag : Tag) :
    ss.eraseP (·.tag == tag) = ss.filter (·.tag != tag) := by
  induction ss with
  | nil => rfl
  | cons s ss ih =>
    obtain ⟨hs, hss⟩ := List.nodup_cons.1 h
    by_cases heq : s.tag = tag
    · -- no session behind `s` has its tag, so the filter keeps them all
      subst heq
      have hall : ss.filter (·.tag != s.tag) = ss :=
        List.filter_eq_self.2 fun t ht ↦ by
          simpa using fun htag : t.tag = s.tag ↦ hs (List.mem_map.2 ⟨t, ht, htag⟩)
      simp [hall]
    · simp [heq, ih hss]

/-- All sessions stay but the one with the tag. -/
theorem Sound.sessions_retire (h : r.Sound) :
    (r.retire s).sessions = r.sessions.filter (·.tag != s.tag) :=
  eraseP_tag_eq_filter h.nodup s.tag

theorem Sound.bindings_nodup (h : r.Sound) : r.bindings.Nodup := by
  refine List.Nodup.of_map Prod.fst ?_
  simpa [bindings, Function.comp_def, tags] using h.nodup

/-- When a session leaves, its binding is gone, and all others stay. -/
theorem Sound.bindings_retire (h : r.Sound) (hs : s ∈ r.sessions) :
    (r.retire s).bindings = r.bindings.erase (s.tag, s.channel) := by
  rw [h.bindings_nodup.erase_eq_filter, bindings, h.sessions_retire, bindings, List.filter_map]
  refine congrArg _ (List.filter_congr fun t ht ↦ ?_)
  by_cases htag : t.tag = s.tag
  · simp [h.eq_of_tag_eq ht hs htag]
  · rw [Bool.eq_iff_iff]
    simp [htag]

/-- A tag is free again when its session has left. -/
theorem Sound.notMem_tags_retire (h : r.Sound) : s.tag ∉ (r.retire s).tags := by
  simp [mem_tags_iff, h.sessions_retire]

/-! ## Sessions that stay -/

/-- A change of a session that leaves its place alone and does not unbind it. -/
structure Keeps (f : Session → Session) : Prop where
  tag : ∀ s, (f s).tag = s.tag
  channel : ∀ s, (f s).channel = s.channel
  bound : ∀ s, (f s).state = .unbound → s.state = .unbound

theorem keeps_count (bytes : UInt64) (direction : Direction) :
    Keeps (·.count bytes direction) :=
  ⟨fun _ ↦ rfl, fun _ ↦ rfl, fun _ ↦ id⟩

theorem keeps_request (engage : Bool) : Keeps (·.request engage) :=
  ⟨fun _ ↦ rfl, fun _ ↦ rfl, fun _ ↦ SessionState.request_eq_unbound_iff.1⟩

variable {f : Session → Session}

/-- A change that keeps tags and channels keeps the bindings. -/
theorem Keeps.bindings_modify (hf : Keeps f) : (r.modify tag f).bindings = r.bindings := by
  simp only [bindings, modify, List.map_map, List.map_inj_left, Function.comp_apply]
  intro s _
  split
  · rw [hf.tag, hf.channel]
  · rfl

theorem mem_modify_iff {t : Session} : t ∈ (r.modify tag f).sessions ↔
    ∃ s ∈ r.sessions, (if s.tag == tag then f s else s) = t := by
  simp [modify]

/-- A change that keeps tags, channels and bonds keeps a table sound. -/
theorem Sound.modify (h : r.Sound) (hf : Keeps f) : (r.modify tag f).Sound where
  nodup := by
    rw [tags_modify r tag hf.tag]
    exact h.nodup
  length_le := by
    rw [length_modify]
    exact h.length_le
  isSession t ht := by
    obtain ⟨s, hs, rfl⟩ := mem_modify_iff.1 ht
    split
    · rw [hf.tag]
      exact h.isSession s hs
    · exact h.isSession s hs
  isValid t ht := by
    obtain ⟨s, hs, rfl⟩ := mem_modify_iff.1 ht
    split
    · rw [hf.channel]
      exact h.isValid s hs
    · exact h.isValid s hs
  bound t ht := by
    obtain ⟨s, hs, rfl⟩ := mem_modify_iff.1 ht
    split
    · exact fun hu ↦ h.bound s hs (hf.bound s hu)
    · exact h.bound s hs

end Registry

end ModemMux

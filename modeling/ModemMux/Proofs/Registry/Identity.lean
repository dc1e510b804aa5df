import ModemMux.Proofs.Registry.Evolution

/-!
# Which session is which

A tag names one session after another, but a session has its serial number for itself. `Numbered r`
says that the sessions that were ever added bear the numbers from zero on, each of them once, and
that those which were removed are unbound. So one who holds an entry can tell what has become of its
session: until it is removed it is the live session of its tag (`Evolves.current_of_live`), and from
then on it is what it was when it was removed, without its channel (`Evolves.current_of_gone`).
-/

namespace ModemMux.Registry

open Counters (Packet)

variable {r r' r'' : Registry} {gone gone' : List Session} {counted counted' : List Packet}
  {tag : Tag} {s : Session} {bytes : UInt64} {direction : Direction} {engage : Bool}

/-- The sessions that were ever added. -/
def known (r : Registry) : List Session := r.sessions ++ r.retired

/-- What holds of the sessions that were ever added. -/
structure Numbered (r : Registry) : Prop where
  /-- They are numbered from zero on. -/
  perm : (r.known.map (·.serial)).Perm (List.range r.issued)
  /-- Those that were removed are unbound. -/
  dead : ∀ s ∈ r.retired, s.unbind = s

theorem numbered_empty (capacity : Nat) : (empty capacity).Numbered where
  perm := List.Perm.refl _
  dead := by simp [empty]

namespace Numbered

variable {t : Session} {e : Entry}

/-- No two sessions that were ever added have a serial number in common. -/
theorem nodup (h : r.Numbered) : (r.known.map (·.serial)).Nodup :=
  h.perm.nodup_iff.2 List.nodup_range

/-- A session is known by its serial number. -/
theorem eq_of_serial_eq (h : r.Numbered) (hs : s ∈ r.known) (ht : t ∈ r.known)
    (heq : s.serial = t.serial) : s = t :=
  List.inj_on_of_nodup_map h.nodup hs ht heq

/-- What has become of a session is told by its number. -/
theorem current_eq (h : r.Numbered) (hs : s ∈ r.known) (heq : s.serial = e.session.serial) :
    r.current e = s := by
  have hfind : (r.known.find? (·.serial == e.session.serial)).isSome :=
    List.find?_isSome.2 ⟨s, hs, by simpa using heq⟩
  obtain ⟨t, ht⟩ := Option.isSome_iff_exists.1 hfind
  have hserial : t.serial = e.session.serial := by simpa using List.find?_some ht
  have hcurrent : r.current e = t := by
    change (r.known.find? (·.serial == e.session.serial)).getD e.session = t
    rw [ht, Option.getD_some]
  rw [hcurrent]
  exact h.eq_of_serial_eq (List.mem_of_find?_eq_some ht) hs (hserial.trans heq.symm)

/-- No live session bears the number of one that was removed. -/
theorem serial_ne (h : r.Numbered) (hs : s ∈ r.sessions) (ht : t ∈ r.retired) :
    s.serial ≠ t.serial := by
  have hnodup := h.nodup
  rw [known, List.map_append, List.nodup_append] at hnodup
  exact hnodup.2.2 _ (List.mem_map_of_mem hs) _ (List.mem_map_of_mem ht)

end Numbered

/-! ## What a change does to the sessions -/

/-- What a change of the sessions of one tag leaves alone in each, it leaves alone in all. -/
theorem map_sessions_modify {α : Type} (g : Session → α) {f : Session → Session}
    (hf : ∀ s, g (f s) = g s) : (r.modify tag f).sessions.map g = r.sessions.map g := by
  simp only [modify, List.map_map, List.map_inj_left, Function.comp_apply]
  intro s _
  split
  · exact hf s
  · rfl

/-- A packet that is counted, or a request for flow control, leaves everything about the sessions
alone but counters and states. -/
theorem map_sessions_count {α : Type} (g : Session → α)
    (hg : ∀ s, g (s.count bytes direction) = g s) :
    (r.count tag bytes direction).2.sessions.map g = r.sessions.map g := by
  by_cases hlive : tag ∈ r.tags
  · rw [count_of_mem hlive]
    exact map_sessions_modify g hg
  · rw [count_of_notMem hlive]

theorem map_sessions_request {α : Type} (g : Session → α)
    (hg : ∀ s, g (s.request engage) = g s) :
    (r.request tag engage).2.sessions.map g = r.sessions.map g := by
  rcases request_eq_or tag engage r with heq | heq <;> rw [heq]
  exact map_sessions_modify g hg

theorem retired_count : (r.count tag bytes direction).2.retired = r.retired := by
  by_cases hlive : tag ∈ r.tags
  · rw [count_of_mem hlive, retired_modify]
  · rw [count_of_notMem hlive]

theorem issued_count : (r.count tag bytes direction).2.issued = r.issued := by
  by_cases hlive : tag ∈ r.tags
  · rw [count_of_mem hlive, issued_modify]
  · rw [count_of_notMem hlive]

theorem retired_request : (r.request tag engage).2.retired = r.retired := by
  rcases request_eq_or tag engage r with heq | heq <;> rw [heq]
  exact retired_modify r tag _

theorem issued_request : (r.request tag engage).2.issued = r.issued := by
  rcases request_eq_or tag engage r with heq | heq <;> rw [heq]
  exact issued_modify r tag _

theorem totals_request : (r.request tag engage).2.totals = r.totals := by
  rcases request_eq_or tag engage r with heq | heq <;> rw [heq]
  exact totals_modify r tag _

/-- The session of a tag goes, and all others stay. -/
theorem cons_sessions_retire_perm (hs : r.find? tag = some s) :
    (s :: (r.retire s).sessions).Perm r.sessions := by
  obtain rfl := tag_of_find? hs
  obtain ⟨-, before, after, heq, hbefore⟩ := List.find?_eq_some_iff_append.1 hs
  rw [sessions_retire_append heq (by simpa using hbefore), heq]
  exact List.perm_middle.symm

/-- What a session keeps when it loses its channel, those that were ever added keep when one of
them goes. -/
theorem map_known_retire_perm {α : Type} (g : Session → α) (hg : ∀ s, g s.unbind = g s)
    (hs : r.find? tag = some s) :
    ((r.retire s).known.map g).Perm (r.known.map g) := by
  have hmoved : ((r.retire s).known.map g).Perm
      ((s :: (r.retire s).sessions ++ r.retired).map g) := by
    simp only [known, retire, List.map_append, List.map_cons, hg, List.cons_append]
    exact List.perm_middle
  exact hmoved.trans (((cons_sessions_retire_perm hs).append_right _).map g)

/-- When one session leaves, those with other tags stay. -/
theorem mem_sessions_retire {t : Session} (ht : t ∈ r.sessions) (hne : t.tag ≠ s.tag) :
    t ∈ (r.retire s).sessions := by
  refine (List.mem_eraseP_of_neg ?_).2 ht
  simpa using hne

namespace Evolves

/-- Those who left during a change stand before those who had left already, unbound. -/
theorem retired_eq (h : Evolves r gone counted r') :
    r'.retired = (gone.map Session.unbind).reverse ++ r.retired := by
  induction h with
  | refl => rfl
  | insert _ _ _ _ _ ih => exact ih
  | count _ _ ih => rw [retired_count, ih]
  | request _ ih => rw [retired_request, ih]
  | retire _ _ ih => simp [Registry.retire, ih]

/-- A session that was removed stays as it is. -/
theorem mem_retired (h : Evolves r gone counted r') (hs : s ∈ r.retired) : s ∈ r'.retired := by
  rw [h.retired_eq]
  exact List.mem_append_right _ hs

/-- A session that is removed is kept, without its channel. -/
theorem unbind_mem_retired (h : Evolves r gone counted r') (hs : s ∈ gone) :
    s.unbind ∈ r'.retired := by
  rw [h.retired_eq]
  exact List.mem_append_left _ (List.mem_reverse.2 (List.mem_map_of_mem hs))

/-- No change of a table gives a serial number twice. -/
theorem numbered (h : Evolves r gone counted r') (hr : r.Numbered) : r'.Numbered := by
  induction h with
  | refl => exact hr
  | @insert _ _ r' tag channel _ _ _ _ _ ih =>
    refine ⟨?_, ih.dead⟩
    have hknown : ((r'.insert tag channel).known.map (·.serial)).Perm
        (r'.known.map (·.serial) ++ [r'.issued]) := by
      simp only [known, Registry.insert, List.map_append, List.append_assoc]
      exact (List.perm_append_comm).append_left _
    have hissued : (r'.insert tag channel).issued = r'.issued + 1 := rfl
    rw [hissued, List.range_succ]
    exact hknown.trans (ih.perm.append_right _)
  | count _ _ ih =>
    refine ⟨?_, by rw [retired_count]; exact ih.dead⟩
    rw [known, List.map_append, map_sessions_count _ fun _ ↦ rfl, retired_count, issued_count,
      ← List.map_append]
    exact ih.perm
  | request _ ih =>
    refine ⟨?_, by rw [retired_request]; exact ih.dead⟩
    rw [known, List.map_append, map_sessions_request _ fun _ ↦ rfl, retired_request,
      issued_request, ← List.map_append]
    exact ih.perm
  | @retire _ _ r' _ s _ hs ih =>
    refine ⟨?_, fun t ht ↦ ?_⟩
    · exact (map_known_retire_perm _ (fun _ ↦ rfl) hs).trans ih.perm
    · rcases List.mem_cons.1 ht with rfl | ht
      · rfl
      · exact ih.dead t ht

/-! ## What becomes of a live session -/

/-- A session whose tag is not removed stays in the table. -/
theorem exists_live (h : Evolves r gone counted r') (hs : s ∈ r.sessions)
    (htag : s.tag ∉ gone.map (·.tag)) :
    ∃ s' ∈ r'.sessions, s'.serial = s.serial ∧ s'.tag = s.tag := by
  -- a session is looked at by number and tag alone, and these are in the table
  have hmem {r : Registry} : (∃ s' ∈ r.sessions, s'.serial = s.serial ∧ s'.tag = s.tag) ↔
      (s.serial, s.tag) ∈ r.sessions.map fun s ↦ (s.serial, s.tag) := by
    simp
  induction h with
  | refl => exact ⟨s, hs, rfl, rfl⟩
  | insert _ _ _ _ _ ih =>
    obtain ⟨s', hs', heq⟩ := ih htag
    exact ⟨s', List.mem_append_left _ hs', heq⟩
  | count _ _ ih =>
    rw [hmem, map_sessions_count _ fun _ ↦ rfl, ← hmem]
    exact ih htag
  | request _ ih =>
    rw [hmem, map_sessions_request _ fun _ ↦ rfl, ← hmem]
    exact ih htag
  | retire _ _ ih =>
    rw [List.map_append, List.mem_append, not_or] at htag
    obtain ⟨s', hs', hserial, htag'⟩ := ih htag.1
    refine ⟨s', mem_sessions_retire hs' ?_, hserial, htag'⟩
    rw [htag']
    simpa using htag.2

/-- Of the sessions that are removed under its tag, one is the session itself. -/
theorem exists_gone (h : Evolves r gone counted r') (hr : r.Sound) (hs : s ∈ r.sessions)
    (htag : s.tag ∈ gone.map (·.tag)) : ∃ u ∈ gone, u.serial = s.serial ∧ u.tag = s.tag := by
  induction h with
  | refl => cases htag
  | insert _ _ _ _ _ ih => exact ih htag
  | count _ _ ih => exact ih htag
  | request _ ih => exact ih htag
  | @retire gone _ r' tag u h hu ih =>
    by_cases hearlier : s.tag ∈ gone.map (·.tag)
    · obtain ⟨u, hu, heq⟩ := ih hearlier
      exact ⟨u, List.mem_append_left _ hu, heq⟩
    · -- it was live until now, so it is the one that goes
      obtain ⟨s', hs', hserial, htag'⟩ := h.exists_live hs hearlier
      have hu' : u.tag = s.tag := by
        rw [List.map_append, List.mem_append] at htag
        exact (List.mem_singleton.1 (htag.resolve_left hearlier)).symm
      obtain rfl := (h.sound hr).eq_of_tag_eq (mem_of_find? hu) hs' (hu'.trans htag'.symm)
      exact ⟨u, List.mem_append_right _ List.mem_cons_self, hserial, hu'⟩

variable {e : Entry}

/-- Until it is removed, a session that was found under a tag is the live session of that tag. -/
theorem current_of_live (h : Evolves r gone counted r') (hr : r.Sound) (hn : r.Numbered)
    (he : r.lookup tag = some e) (htag : tag ∉ gone.map (·.tag)) :
    ∃ index, r'.lookup tag = some ⟨index, r'.current e⟩ := by
  obtain ⟨hi, rfl⟩ := hr.lookup_eq_some_iff.1 he
  obtain ⟨s, hs, hserial, hstag⟩ := h.exists_live (List.mem_of_getElem? hi) htag
  rw [(h.numbered hn).current_eq (List.mem_append_left _ hs) hserial]
  obtain ⟨index, hindex⟩ := List.getElem?_of_mem hs
  exact ⟨index, (h.sound hr).lookup_eq_some_iff.2 ⟨hindex, hstag⟩⟩

/-- Once it is removed, it is as it was then, without its channel, and no live session is it. -/
theorem current_of_gone (h : Evolves r gone counted r') (hr : r.Sound) (hn : r.Numbered)
    (he : r.lookup tag = some e) (htag : tag ∈ gone.map (·.tag)) :
    ∃ u ∈ gone, u.serial = e.session.serial ∧ u.tag = tag ∧ r'.current e = u.unbind ∧
      ∀ s ∈ r'.sessions, s.serial ≠ e.session.serial := by
  obtain ⟨hi, rfl⟩ := hr.lookup_eq_some_iff.1 he
  obtain ⟨u, hu, hserial, hutag⟩ := h.exists_gone hr (List.mem_of_getElem? hi) htag
  have hretired := h.unbind_mem_retired hu
  refine ⟨u, hu, hserial, hutag, ?_, fun s hs ↦ ?_⟩
  · exact (h.numbered hn).current_eq (List.mem_append_right _ hretired) hserial
  · rw [← hserial, ← u.serial_unbind]
    exact (h.numbered hn).serial_ne hs hretired

/-- What has become of a session that was removed does not change any more. -/
theorem current_eq (h : Evolves r gone counted r') (hn : r.Numbered) (hs : s ∈ r.retired)
    (heq : s.serial = e.session.serial) : r'.current e = s :=
  (h.numbered hn).current_eq (List.mem_append_right _ (h.mem_retired hs)) heq

end Evolves

end ModemMux.Registry

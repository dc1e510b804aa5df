import ModemMux.Proofs.Device.Life

/-!
# Conservation of counters

Each packet is counted twice, for its session and for the root device, and the two sets of counters
are kept apart while sessions come and go. `Registry.Balances gone r` says that the root device has
counted what the live sessions and those of `gone` have; an evolution of the table keeps this if
the sessions that it removes are added to `gone` (`Registry.Evolves.balances`). So
`Device.totals_eq_sum` holds at any time of a device's life.
-/

namespace ModemMux

open Counters (Packet)

namespace Registry

variable {r r' : Registry} {gone earlier : List Session} {counted : List Packet} {tag : Tag}
  {s : Session} {bytes : UInt64} {direction : Direction}

/-- Whether the counters of the root device are those of the live sessions and of the sessions that
are gone, taken together. -/
def Balances (gone : List Session) (r : Registry) : Prop :=
  r.totals = ((r.sessions ++ gone).map Session.counters).sum

/-- A packet that is counted for one session is counted once in the sum. -/
theorem sum_counters_modify {ss : List Session} (hnodup : (ss.map (·.tag)).Nodup)
    (htag : tag ∈ ss.map (·.tag)) :
    ((ss.map fun s ↦ if s.tag == tag then s.count bytes direction else s).map
        Session.counters).sum =
      (ss.map Session.counters).sum.record bytes direction := by
  induction ss with
  | nil => cases htag
  | cons s ss ih =>
    obtain ⟨hs, hss⟩ := List.nodup_cons.1 hnodup
    by_cases heq : s.tag = tag
    · subst heq
      -- no session behind `s` has its tag
      have hrest : (ss.map fun t ↦ if t.tag == s.tag then t.count bytes direction else t) = ss := by
        refine (List.map_congr_left fun t ht ↦ ?_).trans (List.map_id ss)
        have hne : t.tag ≠ s.tag := fun h ↦ hs (List.mem_map.2 ⟨t, ht, h⟩)
        simp [hne]
      simp only [List.map_cons, hrest, beq_self_eq_true, if_true, List.sum_cons]
      exact (Counters.record_add bytes direction s.counters _).symm
    · have htag : tag ∈ ss.map (·.tag) := by simpa [Ne.symm heq] using htag
      simp only [List.map_cons, beq_eq_false_iff_ne.2 heq, Bool.false_eq_true, if_false,
        List.sum_cons, ih hss htag]
      rw [add_comm, ← Counters.record_add, add_comm]

namespace Evolves

/-- The books balance after a step if they did before it, with the sessions that left counted in. -/
theorem balances (h : Evolves r gone counted r') (hr : r.Sound) (hb : r.Balances earlier) :
    r'.Balances (earlier ++ gone) := by
  induction h with
  | refl => simpa using hb
  | @insert gone _ r' tag channel _ _ _ _ _ ih =>
    -- a new session has counted nothing
    have hsum : (((r'.insert tag channel).sessions ++ (earlier ++ gone)).map
        Session.counters).sum = ((r'.sessions ++ (earlier ++ gone)).map Session.counters).sum := by
      simp [Registry.insert, Session.fresh, ← Counters.zero_def]
    exact ih.trans hsum.symm
  | count h hlive ih =>
    rw [Balances, List.map_append, List.sum_append] at ih ⊢
    rw [count_of_mem hlive, ih]
    simp only [modify, sum_counters_modify (h.sound hr).nodup hlive, Counters.record_add]
  | @request gone _ r' tag engage _ ih =>
    have htotals : (r'.request tag engage).2.totals = r'.totals := totals_request
    rw [Balances, htotals, List.map_append, map_sessions_request _ fun _ ↦ rfl, ← List.map_append]
    exact ih
  | @retire gone _ r' _ s _ hs ih =>
    have hperm : ((r'.retire s).sessions ++ (earlier ++ (gone ++ [s]))).Perm
        (r'.sessions ++ (earlier ++ gone)) := by
      calc (r'.retire s).sessions ++ (earlier ++ (gone ++ [s]))
        _ = (r'.retire s).sessions ++ (earlier ++ gone) ++ [s] := by simp
        _ |>.Perm (s :: ((r'.retire s).sessions ++ (earlier ++ gone))) :=
            List.perm_append_singleton _ _
        _ |>.Perm (r'.sessions ++ (earlier ++ gone)) :=
            (cons_sessions_retire_perm hs).append_right _
    exact ih.trans (hperm.map _).sum_eq.symm

/-- The root device counts each packet once. -/
theorem totals_eq (h : Evolves r gone counted r') : r'.totals = r.totals.recordAll counted := by
  induction h with
  | refl => rfl
  | insert _ _ _ _ _ ih => exact ih
  | count _ hlive ih => rw [count_of_mem hlive, Counters.recordAll_concat, ← ih]
  | request _ ih => exact totals_request.trans ih
  | retire _ _ ih => exact ih

/-- Where nothing is counted, each session that was ever added keeps its counters. -/
theorem exists_counters_eq (h : Evolves r gone [] r') (hs : s ∈ r.known) :
    ∃ s' ∈ r'.known, s'.serial = s.serial ∧ s'.counters = s.counters := by
  have hmem {r : Registry} : (∃ s' ∈ r.known, s'.serial = s.serial ∧ s'.counters = s.counters) ↔
      (s.serial, s.counters) ∈ r.known.map fun s ↦ (s.serial, s.counters) := by
    simp
  generalize hnone : ([] : List Packet) = counted at h
  induction h with
  | refl => exact ⟨s, hs, rfl, rfl⟩
  | insert _ _ _ _ _ ih =>
    obtain ⟨s', hs', heq⟩ := ih hnone
    refine ⟨s', ?_, heq⟩
    simp only [known, Registry.insert, List.mem_append] at hs' ⊢
    tauto
  | count _ _ _ => simp at hnone
  | request _ ih =>
    rw [hmem, known, List.map_append, map_sessions_request _ fun _ ↦ rfl, retired_request,
      ← List.map_append, ← known, ← hmem]
    exact ih hnone
  | retire _ hs ih =>
    rw [hmem, (map_known_retire_perm _ (fun _ ↦ rfl) hs).mem_iff, ← hmem]
    exact ih hnone

/-- While nothing is counted, a session that is held keeps its counters, live or not. -/
theorem counters_eq (h : Evolves r gone [] r') (hn : r.Numbered) (hs : s ∈ r.known) (index : Nat) :
    (r'.current ⟨index, s⟩).counters = s.counters := by
  obtain ⟨s', hs', hserial, hcounters⟩ := h.exists_counters_eq hs
  rw [(h.numbered hn).current_eq hs' hserial, hcounters]

/-- Of a table that began without sessions, those that were ever added are the live ones and those
that are gone. -/
theorem map_append_perm {α : Type} (g : Session → α) (hg : ∀ s, g s.unbind = g s) {capacity : Nat}
    (h : Evolves (empty capacity) gone counted r) :
    ((r.sessions ++ gone).map g).Perm (r.known.map g) := by
  have hretired : r.retired.map g = (gone.map g).reverse := by
    simp [h.retired_eq, empty, Function.comp_def, hg]
  rw [known, List.map_append, List.map_append, hretired]
  exact (List.reverse_perm _).symm.append_left _

end Evolves

end Registry

namespace Device

variable {ω : Type} [Transport ω] {config : Config} {spare : Mac} {peers : ω} {device : Device ω}

/-- A new session has counted nothing, and is none of those that were added before. -/
theorem exists_of_addSession {d : Device ω} (h : d.registry.Sound) {tag : Tag}
    {channel : ChannelId} (hadd : (d.addSession tag).1 = .ok channel) :
    ∃ s, (d.addSession tag).2.registry.find? tag = some s ∧ s.serial = d.registry.issued ∧
      s.counters = .zero := by
  have hadds := Registry.adds_add tag d.registry d.peers
  have hsound := hadds.sound h
  simp only [addSession] at hadd ⊢
  generalize d.registry.add tag d.peers = outcome at hadd hadds hsound
  cases hadds with
  | added => exact ⟨_, hsound.find?_insert, rfl, rfl⟩
  | _ => cases hadd

omit [Transport ω] in
/-- An update under an id that leads to no live tag is an error, and counts nothing. -/
theorem exists_updateStats_of_notMem {d : Device ω} {id : SessionId}
    (h : ∀ tag ∈ d.registry.tags, Tag.ofSession? id ≠ some tag) (bytes : UInt64)
    (direction : Direction) : ∃ e, d.updateStats id bytes direction = (.error e, d) := by
  unfold updateStats
  split
  · exact ⟨_, rfl⟩
  next tag htag =>
    have hnew : tag ∉ d.registry.tags := fun hlive ↦ h tag hlive htag
    rw [Registry.count_of_notMem hnew]
    exact ⟨_, rfl⟩

variable [HostStack ω]

omit [Transport ω] in
/-- A frame for a session that is not live reaches the host, but counts for nobody. -/
theorem registry_receive_of_notMem {d : Device ω} {id : SessionId}
    (h : ∀ tag ∈ d.registry.tags, Tag.ofSession? id ≠ some tag) (buffer : Bytes) (control : Bool) :
    (d.receive id buffer control).2.registry = d.registry := by
  have hreceives := receives_receive id buffer control d
  generalize d.receive id buffer control = outcome at hreceives
  cases hreceives with
  | refused => rfl
  | @received tag _ hid =>
    have hnew : tag ∉ d.registry.tags := fun hlive ↦ h tag hlive hid
    simp only [Registry.count_of_notMem hnew]

/-- Each counter of the root device is at any time of its life the sum, up to a multiple of
`2 ^ 64`, of that counter over all sessions that were ever added: the live ones, and those that were
removed as they were just before. A new session has counted nothing, and what a removed one has
counted stays as it is. Where a step counts no packet, be it that it counts none at all or that it
fails, all counters stay as they are; an update for a session that is not live fails, and neither a
frame that is received for such a session nor any frame that is transmitted counts. In which order
packets are counted makes no difference. -/
theorem totals_eq_sum (h : init config spare peers = .ok device) (steps : List (Step ω)) :
    let device' := device.run steps
    let r := device'.registry
    let gone := device.departed steps
    (∀ part ∈ Counters.parts, (part r.totals).toNat =
      ((r.sessions ++ gone).map fun s ↦ (part s.counters).toNat).sum % 2 ^ 64) ∧
    ((r.sessions ++ gone).map (·.serial)).Perm (List.range r.issued) ∧
    (∀ tag channel, (device'.addSession tag).1 = .ok channel →
      ∃ s, (device'.addSession tag).2.registry.find? tag = some s ∧ s.serial = r.issued ∧
        s.counters = .zero) ∧
    (∀ s ∈ gone, ∀ more index,
      ((device'.run more).registry.current ⟨index, s⟩).counters = s.counters) ∧
    (∀ step, step.counted device' = [] →
      (device'.advance step).registry.totals = r.totals ∧
      ∀ s ∈ r.known, ∀ index,
        ((device'.advance step).registry.current ⟨index, s⟩).counters = s.counters) ∧
    (∀ id, (∀ tag ∈ r.tags, Tag.ofSession? id ≠ some tag) →
      (∀ bytes direction, ∃ e, device'.updateStats id bytes direction = (.error e, device')) ∧
      ∀ buffer control, (device'.receive id buffer control).2.registry = r) ∧
    (∀ memory frame, (device'.transmit memory frame).2.2.registry = r) ∧
    (∀ steps', (device.counted steps').Perm (device.counted steps) →
      (device.run steps').registry.totals = r.totals) := by
  intro device' r gone
  have hinit := registry_of_init h
  have hevolves : Registry.Evolves (.empty (config.maxSessions + ChannelConfig.reserved)) gone
      (device.counted steps) r := hinit ▸ evolves_run steps device
  obtain ⟨hsound, hnumbered⟩ : r.Sound ∧ r.Numbered := sound_run h steps
  refine ⟨fun part hpart ↦ ?_, ?_, fun tag channel hadd ↦ exists_of_addSession hsound hadd,
    fun s hs more index ↦ ?_, fun step hnone ↦ ?_,
    fun id hid ↦ ⟨exists_updateStats_of_notMem hid, registry_receive_of_notMem hid⟩,
    fun memory frame ↦ registry_transmit memory frame, fun steps' hperm ↦ ?_⟩
  · have hbalances : r.Balances ([] ++ gone) :=
      hevolves.balances (Registry.sound_of_sessions_eq_nil rfl) rfl
    rw [hbalances, Counters.toNat_sum hpart, List.map_map]
    rfl
  · exact (hevolves.map_append_perm (·.serial) fun _ ↦ rfl).trans hnumbered.perm
  · have hgone := hevolves.unbind_mem_retired hs
    rw [(evolves_run more device').current_eq hnumbered hgone rfl]
    rfl
  · have hstep := evolves_advance step device'
    rw [hnone] at hstep
    exact ⟨hstep.totals_eq, fun s hs index ↦ hstep.counters_eq hnumbered hs index⟩
  · have htotals := (evolves_run steps' device).totals_eq
    rw [htotals, hinit, Counters.recordAll_perm hperm]
    exact hevolves.totals_eq.symm

/-- A session is removed after its counter of bytes has run over, and added again. -/
def addAgain : List (Step Testbed) :=
  [.operate (.addSession 1), .operate (.updateStats 0 0xFFFFFFFFFFFFFFFF .uplink),
    .operate (.updateStats 0 5 .uplink), .operate (.removeSession 1),
    .operate (.updateStats 0 9 .uplink), .operate (.addSession 1),
    .operate (.updateStats 0 7 .downlink)]

/-- Two packets and four bytes went up, of which the first session has counted all. -/
theorem totals_addAgain : init {} .zero ⟨{}, {}⟩ = .ok initial ∧
    (initial.run addAgain).registry.totals = ⟨2, 4, 1, 7⟩ ∧
    (initial.run addAgain).registry.totals.txBytes.toNat =
      (((initial.run addAgain).registry.sessions ++ initial.departed addAgain).map
        fun s ↦ s.counters.txBytes.toNat).sum % 2 ^ 64 := by
  obtain ⟨hsum, -⟩ := totals_eq_sum init_initial addAgain
  exact ⟨init_initial, by decide, hsum _ (by simp [Counters.parts])⟩

end Device

end ModemMux

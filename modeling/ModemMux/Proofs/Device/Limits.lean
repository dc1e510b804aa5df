import ModemMux.Device.Queues
import ModemMux.Proofs.Device.Life

/-!
# How many sessions there are, and which of them have a queue

The session table has room for the IP sessions and for the channels that the modem has besides, and
only their sum is limited. Queues there are for the tags up to the number of IP sessions. So an IP
session has a queue if its tag is not above that number (`selectQueue_ne_invalid_iff`), and no more
of them have one (`Registry.Sound.length_queued_le`). Every live tag was asked for
(`Device.tags_run_subset`), so it depends on the tags alone whether all IP sessions are served:
`Device.servesAll_iff` says when they are.
-/

namespace ModemMux

/-! ## Queues -/

section

variable {tag : Tag} {limit : Nat}

/-- IP data has the queue of its tag as far as there are queues, and the invalid one above. -/
theorem selectQueue_of_data (h : tag.classify = .data) (limit : Nat) :
    selectQueue (some tag) limit = if tag.toNat ≤ limit then tag else invalidQueue := by
  simp only [selectQueue, h]

/-- An IP session has a queue if its tag is one of the first. -/
theorem selectQueue_ne_invalid_iff (h : tag.classify = .data) :
    selectQueue (some tag) limit ≠ invalidQueue ↔ tag.toNat ≤ limit := by
  rw [selectQueue_of_data h]
  have htag := (Tag.classify_eq_data_iff.1 h).2
  constructor
  · intro hqueue
    by_contra hlimit
    rw [if_neg hlimit] at hqueue
    exact hqueue rfl
  · intro hlimit hqueue
    rw [if_pos hlimit] at hqueue
    rw [hqueue] at htag
    exact absurd htag (by decide)

end

namespace Registry

variable {r : Registry} {limit : Nat}

def ipSessions (r : Registry) : List Session := r.sessions.filter (·.tagClass == .data)

/-- An IP session is a live session with a data tag. -/
theorem mem_ipSessions_iff {s : Session} :
    s ∈ r.ipSessions ↔ s ∈ r.sessions ∧ s.tag.classify = .data := by
  simp [ipSessions, Session.tagClass]

/-- The live IP sessions that have a queue among so many. -/
def queuedSessions (limit : Nat) (r : Registry) : List Session :=
  r.ipSessions.filter fun s ↦ selectQueue (some s.tag) limit != invalidQueue

/-- A session with a queue of its own is an IP session whose tag is within the limit. -/
theorem mem_queuedSessions_iff {s : Session} : s ∈ r.queuedSessions limit ↔
    s ∈ r.ipSessions ∧ s.tag.toNat ≤ limit := by
  rw [queuedSessions, List.mem_filter, bne_iff_ne]
  refine and_congr_right fun hs ↦ selectQueue_ne_invalid_iff ?_
  exact (mem_ipSessions_iff.1 hs).2

theorem queuedSessions_sublist : (r.queuedSessions limit).Sublist r.sessions :=
  List.filter_sublist.trans List.filter_sublist

/-- The queue of a session that has one is its tag. -/
theorem map_selectQueue_queuedSessions :
    (r.queuedSessions limit).map (fun s ↦ selectQueue (some s.tag) limit) =
      (r.queuedSessions limit).map (·.tag) := by
  refine List.map_congr_left fun s hs ↦ ?_
  obtain ⟨hip, hlimit⟩ := mem_queuedSessions_iff.1 hs
  rw [selectQueue_of_data (mem_ipSessions_iff.1 hip).2, if_pos hlimit]

/-- No two sessions have a queue in common. -/
theorem Sound.nodup_queuedSessions (h : r.Sound) :
    ((r.queuedSessions limit).map (·.tag)).Nodup :=
  h.nodup.sublist (queuedSessions_sublist.map _)

/-- No more IP sessions have a queue than there are queues. -/
theorem Sound.length_queued_le (h : r.Sound) : (r.queuedSessions limit).length ≤ limit := by
  have hnodup : ((r.queuedSessions limit).map (·.tag.toNat)).Nodup := by
    have htags : (((r.queuedSessions limit).map (·.tag)).map UInt16.toNat).Nodup :=
      h.nodup_queuedSessions.map fun _ _ ↦ UInt16.toNat_inj.1
    rwa [List.map_map] at htags
  have hsub : (r.queuedSessions limit).map (·.tag.toNat) ⊆ List.range' 1 limit := by
    intro n hn
    obtain ⟨s, hs, rfl⟩ := List.mem_map.1 hn
    obtain ⟨hip, hlimit⟩ := mem_queuedSessions_iff.1 hs
    have hpos := (Tag.classify_eq_data_iff.1 (mem_ipSessions_iff.1 hip).2).1
    rw [List.mem_range'_1]
    omega
  have hlength := hnodup.length_le_of_subset hsub
  rwa [List.length_map, List.length_range'] at hlength

end Registry

/-! ## Lives -/

namespace Device

variable {ω : Type} [Transport ω] [HostStack ω] {d : Device ω}

/-- The tags for which a step asks for a session. -/
def Step.asked : Step ω → List Tag
  | .operate (.addSession tag) => [tag]
  | _ => []

/-- An operation brings up no tag but the one that it asks for. -/
theorem tags_operate_subset (operation : Operation) (d : Device ω) :
    (d.operate operation).2.2.registry.tags ⊆
      d.registry.tags ++ (Step.operate operation : Step ω).asked := by
  by_cases hquiet : operation.isQuiet
  · rw [Registry.tags_of_bindings_eq (counted_operate hquiet).bindings_eq]
    exact List.subset_append_left _ _
  · cases operation with
    | addSession tag =>
      have hadds := Registry.adds_add tag d.registry d.peers
      simp only [operate, addSession]
      generalize d.registry.add tag d.peers = outcome at hadds
      cases hadds with
      | added =>
        rw [Registry.tags_insert]
        exact List.Subset.refl _
      | _ => exact List.subset_append_left _ _
    | removeSession tag =>
      have hremoves := Registry.removes_remove tag d.registry d.peers
      exact List.subset_append_of_subset_left _ hremoves.tags_sublist.subset
    | removeSessions =>
      exact List.subset_append_of_subset_left _ (Registry.tags_removeEach_subset d.registry.tags)
    | transmit memory frame =>
      have hregistry : (d.operate (.transmit memory frame)).2.2.registry = d.registry :=
        registry_transmit memory frame
      rw [hregistry]
      exact List.subset_append_left _ _
    | setFlowControl id engage =>
      have hbindings : (d.operate (.setFlowControl id engage)).2.2.registry.bindings =
          d.registry.bindings := Registry.bindings_heed
      rw [Registry.tags_of_bindings_eq hbindings]
      exact List.subset_append_left _ _
    | _ => exact absurd rfl hquiet

theorem tags_shutdown_subset (d : Device ω) : d.shutdown.registry.tags ⊆ d.registry.tags := by
  unfold shutdown
  split
  · exact Registry.tags_removeEach_subset d.registry.tags
  · exact List.Subset.refl _

/-- No step brings a tag that it was not asked for. -/
theorem tags_advance_subset (step : Step ω) (d : Device ω) :
    (d.advance step).registry.tags ⊆ d.registry.tags ++ step.asked := by
  cases step with
  | operate operation => exact tags_operate_subset operation d
  | count tag bytes direction =>
    have hbindings : (d.advance (.count tag bytes direction)).registry.bindings =
        d.registry.bindings := Registry.bindings_count
    rw [Registry.tags_of_bindings_eq hbindings]
    exact List.subset_append_left _ _
  | signal signal =>
    have hbindings : (d.advance (.signal signal)).registry.bindings = d.registry.bindings :=
      Registry.bindings_heed
    rw [Registry.tags_of_bindings_eq hbindings]
    exact List.subset_append_left _ _
  | changePeers => exact List.subset_append_left _ _
  | deinit | drop =>
    rw [advance_of_isEnd rfl]
    exact List.subset_append_of_subset_left _ (tags_shutdown_subset d)

/-- A run brings up no tags but those that its steps ask for. -/
theorem tags_run_subset (steps : List (Step ω)) (d : Device ω) :
    (d.run steps).registry.tags ⊆ d.registry.tags ++ steps.flatMap Step.asked := by
  induction steps generalizing d with
  | nil => exact List.subset_append_left _ _
  | cons step steps ih =>
    intro tag htag
    have hrest := List.mem_append.1 (ih (d.advance step) htag)
    rw [List.flatMap_cons, ← List.append_assoc]
    rcases hrest with htag | htag
    · exact List.mem_append_left _ (tags_advance_subset step d htag)
    · exact List.mem_append_right _ htag

/-! ## The number of IP sessions is set once and for all -/

theorem maxSessions_advance (step : Step ω) (d : Device ω) :
    (d.advance step).maxSessions = d.maxSessions := by
  cases step with
  | operate operation => exact (lasting_operate operation d).1
  | count | signal | changePeers => rfl
  | deinit | drop =>
    rw [advance_of_isEnd rfl]
    exact maxSessions_shutdown d

/-- The number of IP sessions is set once, and stays for the life of the device. -/
theorem maxSessions_run (steps : List (Step ω)) (d : Device ω) :
    (d.run steps).maxSessions = d.maxSessions :=
  run_induction (P := fun d' ↦ d'.maxSessions = d.maxSessions)
    (fun step _ d' h ↦ (maxSessions_advance step d').trans h) rfl

/-! ## What is limited -/

/-- Whether the IP sessions of a device are within its set-up, and each of them has a queue. -/
def ServesAll (d : Device ω) : Prop :=
  d.registry.ipSessions.length ≤ d.maxSessions ∧
    ∀ s ∈ d.registry.ipSessions, ModemMux.selectQueue (some s.tag) d.maxSessions ≠ invalidQueue

omit [Transport ω] [HostStack ω] in
/-- All IP sessions are served if no tag is above the number of IP sessions. -/
theorem servesAll_iff (h : d.registry.Sound) :
    d.ServesAll ↔ ∀ s ∈ d.registry.ipSessions, s.tag.toNat ≤ d.maxSessions := by
  have hqueue {s : Session} (hs : s ∈ d.registry.ipSessions) :
      ModemMux.selectQueue (some s.tag) d.maxSessions ≠ invalidQueue ↔
        s.tag.toNat ≤ d.maxSessions :=
    selectQueue_ne_invalid_iff (Registry.mem_ipSessions_iff.1 hs).2
  constructor
  · rintro ⟨-, hall⟩ s hs
    exact (hqueue hs).1 (hall s hs)
  · intro hall
    refine ⟨?_, fun s hs ↦ (hqueue hs).2 (hall s hs)⟩
    have hqueued : d.registry.queuedSessions d.maxSessions = d.registry.ipSessions := by
      refine List.filter_eq_self.2 fun s hs ↦ ?_
      exact bne_iff_ne.2 ((hqueue hs).2 (hall s hs))
    rw [← hqueued]
    exact h.length_queued_le

/-- How many sessions there are at any time of a device's life, and which of them have a queue.
There are no more sessions than the IP sessions of the set-up and the modem's other channels
together. No more IP sessions have a queue than the set-up says, and each has its own. But an IP
session with a tag above that number has none, and all that limits the number of such sessions is
the sum. So the IP sessions are within the set-up and each has a queue if and only if none has a tag
above it, which is so throughout a life in which no such tag is asked for. -/
theorem servesAll_run_iff {config : Config} {spare : Mac} {peers : ω}
    (h : init config spare peers = .ok d) (steps : List (Step ω)) :
    let d' := d.run steps
    let ip := d'.registry.ipSessions
    let queued := d'.registry.queuedSessions config.maxSessions
    d'.maxSessions = config.maxSessions ∧
    d'.registry.length ≤ config.maxSessions + ChannelConfig.reserved ∧
    queued.length ≤ config.maxSessions ∧
    (queued.map fun s ↦ ModemMux.selectQueue (some s.tag) config.maxSessions).Nodup ∧
    (d'.ServesAll ↔ ∀ s ∈ ip, s.tag.toNat ≤ config.maxSessions) ∧
    ((∀ tag ∈ steps.flatMap Step.asked, tag.classify = .data → tag.toNat ≤ config.maxSessions) →
      d'.ServesAll) := by
  intro d' ip queued
  have hsound : d'.registry.Sound := (sound_run h steps).1
  have hinit : d.maxSessions = config.maxSessions ∧
      d.registry.capacity = config.maxSessions + ChannelConfig.reserved ∧ d.registry.tags = [] := by
    have hinits := inits_init config spare peers
    rw [h] at hinits
    cases hinits
    exact ⟨rfl, rfl, rfl⟩
  have hmax : d'.maxSessions = config.maxSessions := (maxSessions_run steps d).trans hinit.1
  have hserves := servesAll_iff hsound
  rw [hmax] at hserves
  refine ⟨hmax, ?_, hsound.length_queued_le, ?_, hserves, fun hasked ↦ ?_⟩
  · have hcapacity : d'.registry.capacity = d.registry.capacity :=
      (evolves_run steps d).capacity_eq
    rw [← hinit.2.1, ← hcapacity]
    exact hsound.length_le
  · rw [Registry.map_selectQueue_queuedSessions]
    exact hsound.nodup_queuedSessions
  · refine hserves.2 fun s hs ↦ ?_
    obtain ⟨hs, hdata⟩ := Registry.mem_ipSessions_iff.1 hs
    have htag := tags_run_subset steps d (Registry.mem_tags_of_mem hs)
    rw [hinit.2.2, List.nil_append] at htag
    exact hasked s.tag htag hdata

/-- A device for one IP session that a host has just taken, over a modem with nothing on it. -/
def single : Device Testbed :=
  let host : Collector := { attached := true, info := some ⟨"wwan0", .zero, 1500, 2⟩ }
  { blank { maxSessions := 1 } .zero ⟨{}, host⟩ with registered := true }

def addTwo : List (Step Testbed) := [.operate (.addSession 1), .operate (.addSession 2)]

theorem servesAll_single :
    init { maxSessions := 1 } .zero ⟨{}, {}⟩ = .ok single ∧
    (∀ tag ∈ (addTwo.take 1).flatMap Step.asked, tag.classify = .data → tag.toNat ≤ 1) ∧
    (single.run (addTwo.take 1)).ServesAll ∧ (single.run addTwo).registry.length ≤ 9 := by
  have hinit : init { maxSessions := 1 } .zero (⟨{}, {}⟩ : Testbed) = .ok single := rfl
  have hasked : ∀ tag ∈ (addTwo.take 1).flatMap Step.asked,
      tag.classify = .data → tag.toNat ≤ 1 := by simp [addTwo, Step.asked]
  obtain ⟨-, -, -, -, -, hserves⟩ := servesAll_run_iff hinit (addTwo.take 1)
  obtain ⟨-, hlength, -⟩ := servesAll_run_iff hinit addTwo
  exact ⟨hinit, hasked, hserves hasked, hlength⟩

/-- Both sessions are live, though the set-up allows one, and the second one has no queue. -/
theorem not_servesAll_addTwo :
    init { maxSessions := 1 } .zero ⟨{}, {}⟩ = .ok single ∧
    let d := single.run addTwo
    d.registry.ipSessions.map (·.tag) = [1, 2] ∧
    d.selectQueue (.ethernet 2 .zero .zero EtherType.ipv4 [0x45]) = invalidQueue ∧
    ¬d.ServesAll := by
  refine ⟨rfl, by decide, by decide, ?_⟩
  rintro ⟨hlength, -⟩
  exact absurd hlength (by decide)

end Device

end ModemMux

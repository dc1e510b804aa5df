import ModemMux.Proofs.Device.Inbound
import ModemMux.Proofs.Rig.Room
import ModemMux.Soak

/-!
# Workers in any order

`Soak.run` takes any list of workers, so that what holds of it holds of every interleaving of their
operations, and with any memory. All that the other workers can see of the churn worker is that a
session is away (`Soak.away?`): between its removal and its return. A frame for it is then refused
as one for an unknown session, a payload that was drained for it is not counted, and its channel may
be gone when the drain worker comes to it; the receiver needs no session. As there is room for more
sessions than there are, and a channel for each place, the session always returns.

The invariant is `Soak.Orderly`. It says what is left of a round of the churn worker
(`Soak.Churns`), and from that, which sessions are live.
-/

namespace ModemMux

/-! ## What the workers reckon with -/

namespace Tally

/-- Whether the sender reckons with an answer. -/
def isExpected : Except MuxError TxStatus → Bool
  | .ok .sent | .ok (.busy _) | .error (.unknownSession _) | .error (.io _ _) => true
  | .ok .discarded | .error _ => false

/-- An answer that the sender reckons with counts as sent, busy or rejected. -/
theorem transmitted_of_isExpected {answer : Except MuxError TxStatus} (h : isExpected answer)
    (t : Tally) : (t.transmitted answer).unexpected = t.unexpected ∧
      (t.transmitted answer).accounted = t.accounted + 1 := by
  unfold isExpected at h
  split at h
  · exact ⟨rfl, by simp only [transmitted, accounted]; omega⟩
  · exact ⟨rfl, by simp only [transmitted, accounted]; omega⟩
  · exact ⟨rfl, rfl⟩
  · exact ⟨rfl, rfl⟩
  · cases h
  · cases h

theorem churnCycles_transmitted (t : Tally) (answer : Except MuxError TxStatus) :
    (t.transmitted answer).churnCycles = t.churnCycles := by
  unfold transmitted
  split <;> rfl

/-- What a transport answers for a frame that was routed is always expected. -/
theorem isExpected_settle (memory : Memory) (routed : Routed)
    (answer : Except ChannelError Submission) : isExpected (routed.settle memory answer) := by
  unfold Routed.settle
  split
  · rfl
  · split <;> rfl
  · rfl

end Tally

namespace Soak

variable {n : Nat} {memory : Memory} {tag : Tag} {s : Soak}

/-- Whatever has become of its session, an IP packet is sent or returned, or its session or channel
is away, or there is no memory to return it. It needs none on its way to the channel. -/
theorem isExpected_transmit {d : Device Testbed} (htag : tag.classify = .data) (memory : Memory)
    (dst src : Mac) :
    Tally.isExpected (d.transmit memory (.ethernet tag dst src EtherType.ipv4 packet)).1 := by
  have hne : tag ≠ 0 := by
    rintro rfl
    exact absurd htag (by decide)
  have hcut : (Frame.ethernet tag dst src EtherType.ipv4 packet).split =
      .ok ⟨some tag, dst.octets ++ src.octets ++ Word.toBytes EtherType.ipv4, packet⟩ :=
    Frame.split_ethernet (by decide)
  cases hs : d.registry.channelOf? tag with
  | none =>
    rw [Device.transmit_of_unknown rfl hne hcut hs]
    rfl
  | some channel =>
    rw [Device.transmit_of_handOver rfl hne hcut hs (by rw [htag]; rfl)
      (Split.handOver_of_ne_control (by rw [htag]; nofun) memory _)]
    exact Tally.isExpected_settle _ _ _

/-- A packet for the id of an IP session reaches the host. -/
theorem receive_eq_ok {d : Device Testbed} {id : SessionId} (hid : id.toNat < 255) :
    (d.receive id (List.replicate Frame.plainHeader 0 ++ packet) false).1 = .ok () := by
  have hnamed : Tag.Names id := .inl hid
  have htag := Tag.ofSession?_of_names hnamed
  rw [Device.receive_eq_ok false (by decide) htag ((Tag.classify_ne_invalid_iff htag).2 hnamed)]

/-! ## Tags -/

theorem mem_firstTags (hn : n ≤ 255) : tag ∈ firstTags n ↔ 1 ≤ tag.toNat ∧ tag.toNat ≤ n := by
  simp only [firstTags, List.mem_map, List.mem_range]
  constructor
  · rintro ⟨m, hm, rfl⟩
    rw [UInt16.toNat_ofNat']
    omega
  · rintro ⟨hpos, hle⟩
    refine ⟨tag.toNat - 1, by omega, ?_⟩
    rw [Nat.sub_add_cancel hpos, UInt16.ofNat_toNat]

/-- The sessions of a soak carry IP data. -/
theorem classify_of_mem_firstTags (hn : n ≤ 255) (h : tag ∈ firstTags n) :
    tag.classify = .data := by
  rw [mem_firstTags hn] at h
  rw [Tag.classify_eq_data_iff]
  omega

theorem length_firstTags (n : Nat) : (firstTags n).length = n := by
  rw [firstTags, List.length_map, List.length_range]

theorem nodup_firstTags (hn : n ≤ 255) : (firstTags n).Nodup := by
  refine List.Nodup.map_on ?_ List.nodup_range
  intro a ha b hb heq
  have hnat := congrArg UInt16.toNat heq
  rw [List.mem_range] at ha hb
  rw [UInt16.toNat_ofNat', UInt16.toNat_ofNat'] at hnat
  omega

/-- The sender sends to the sessions in turn, and to no others. -/
theorem nextTag_mem (hpos : 1 ≤ s.sessions) : s.nextTag ∈ firstTags s.sessions := by
  refine List.mem_map.2 ⟨s.frames % s.sessions, List.mem_range.2 ?_, rfl⟩
  exact Nat.mod_lt _ hpos

/-! ## The churn worker -/

/-- What is left of a round of the churn worker when no session is away: the sessions that are still
to be removed and added again, and the end of the round. -/
inductive Paired (n : Nat) : List ChurnStep → Prop
  | idle : Paired n []
  | turn : Paired n [.turn]
  | pair {tag : Tag} {rest : List ChurnStep} (htag : tag ∈ firstTags n) (h : Paired n rest) :
      Paired n (.remove tag :: .add tag :: rest)

/-- What is left of a round of the churn worker. -/
inductive Churns (n : Nat) : Option (List ChurnStep) → Prop
  | whole {rest : List ChurnStep} (h : Paired n rest) : Churns n (some rest)
  /-- A session was removed and is still to be added again. -/
  | away {tag : Tag} {rest : List ChurnStep} (htag : tag ∈ firstTags n) (h : Paired n rest) :
      Churns n (some (.add tag :: rest))

theorem paired_flatMap {tags : List Tag} (h : ∀ tag ∈ tags, tag ∈ firstTags n) :
    Paired n (tags.flatMap (fun tag ↦ [.remove tag, .add tag]) ++ [.turn]) := by
  induction tags with
  | nil => exact .turn
  | cons tag tags ih =>
    obtain ⟨htag, htags⟩ := List.forall_mem_cons.1 h
    exact .pair htag (ih htags)

/-- A round of churn adds each session again as soon as it has removed it. -/
theorem paired_churnRound (s : Soak) : Paired s.sessions s.churnRound :=
  paired_flatMap fun _ htag ↦ (List.mem_filter.1 htag).1

/-- The session that the churn worker has removed and not yet added again. -/
def away? (s : Soak) : Option Tag :=
  match s.churn with
  | some (.add tag :: _) => some tag
  | _ => none

theorem away?_of_paired {rest : List ChurnStep} (hchurn : s.churn = some rest)
    (h : Paired n rest) : s.away? = none := by
  rw [away?, hchurn]
  cases h <;> rfl

/-! ## The invariant -/

/-- What holds in a soak at any time: all sessions are live but the one that the churn worker has
just removed, and no worker has met anything that it does not reckon with. -/
structure Orderly (n : Nat) (s : Soak) : Prop where
  sessions : s.sessions = n
  equipped : s.rig.Equipped
  capacity : n < s.rig.device.registry.capacity
  churn : Churns n s.churn
  live : ∀ tag, tag ∈ s.rig.device.registry.tags ↔ tag ∈ firstTags n ∧ s.away? ≠ some tag
  receiver : ∀ id, .receive id ∈ s.receiver → id.toNat < n
  unexpected : s.tally.unexpected = 0
  accounted : s.tally.accounted = s.frames

/-- Whether all sessions are live, each on an open channel of its own. -/
structure Whole (n : Nat) (rig : Rig) : Prop where
  tags : ∀ tag, tag ∈ rig.device.registry.tags ↔ tag ∈ firstTags n
  length : rig.device.registry.length = n
  channel : ∀ session ∈ rig.device.registry.sessions,
    (session.tag, session.channel) ∈ rig.modem.openChannels
  channels : rig.modem.openChannels.length = n
  nodup : (rig.modem.openChannels.map Prod.snd).Nodup

namespace Orderly

variable {s' : Soak}

/-- While no session is away the rig is whole. -/
theorem whole (hn : n ≤ 255) (h : Orderly n s) (haway : s.away? = none) : Whole n s.rig := by
  have hlinked := h.equipped.linked
  have htags (tag : Tag) : tag ∈ s.rig.device.registry.tags ↔ tag ∈ firstTags n := by
    rw [h.live, haway]
    simp
  have hperm : s.rig.device.registry.tags.Perm (firstTags n) :=
    (List.perm_ext_iff_of_nodup hlinked.table.nodup (nodup_firstTags hn)).2 htags
  have hlength : s.rig.device.registry.length = n := by
    have htagged := hperm.length_eq
    rwa [length_firstTags, Registry.tags, List.length_map] at htagged
  refine ⟨htags, hlength, fun session hsession ↦ ?_, ?_, ?_⟩
  · exact hlinked.mem_openChannels_iff.2
      (Registry.mem_bindings_iff.2 ⟨session, hsession, rfl, rfl⟩)
  · exact h.equipped.length_channels.trans hlength
  · rw [Loopback.map_snd_openChannels]
    exact hlinked.store.nodup

/-- An operation by which no session comes or goes. -/
theorem still (h : Orderly n s) (action : Rig.Action Collector) (haction : action.isStill)
    (hsessions : s'.sessions = s.sessions) (hrig : s'.rig = (s.rig.act action).2)
    (hchurn : s'.churn = s.churn) (hreceiver : s'.receiver ⊆ s.receiver)
    (hunexpected : s'.tally.unexpected = s.tally.unexpected)
    (haccounted : s'.tally.accounted = s'.frames) : Orderly n s' where
  sessions := hsessions.trans h.sessions
  equipped := hrig ▸ h.equipped.act (Rig.Action.isOrdinary_of_isStill haction)
  capacity := by
    rw [hrig, Rig.capacity_act]
    exact h.capacity
  churn := hchurn ▸ h.churn
  live tag := by
    rw [hrig, Rig.tags_act haction, away?, hchurn]
    exact h.live tag
  receiver id hid := h.receiver id (hreceiver hid)
  unexpected := hunexpected.trans h.unexpected
  accounted := haccounted

/-- The sender keeps a soak in order. -/
theorem send (h : Orderly n s) (hpos : 1 ≤ n) (hn : n ≤ 255) (memory : Memory) :
    Orderly n (s.send memory) := by
  have hnext : s.nextTag ∈ firstTags n := by
    have hmem := nextTag_mem (s := s) (by rw [h.sessions]; exact hpos)
    rwa [h.sessions] at hmem
  have hexpected := isExpected_transmit (d := s.rig.device) (classify_of_mem_firstTags hn hnext)
    memory s.rig.device.mac.peer s.rig.device.mac
  obtain ⟨hunexpected, haccounted⟩ := Tally.transmitted_of_isExpected hexpected s.tally
  exact h.still (.device (.transmit memory _)) rfl rfl rfl rfl (List.Subset.refl _)
    hunexpected (haccounted.trans (congrArg (· + 1) h.accounted))

/-- The worker that drains keeps a soak in order. -/
theorem stepDrain (h : Orderly n s) : Orderly n s.stepDrain := by
  unfold Soak.stepDrain
  split
  next => exact ⟨h.sessions, h.equipped, h.capacity, h.churn, h.live, h.receiver, h.unexpected,
    h.accounted⟩
  next tag id rest _ =>
    exact h.still (.drain id) rfl rfl rfl rfl (List.Subset.refl _) rfl h.accounted
  next id length rest _ =>
    exact h.still (.device (.updateStats id (UInt64.ofNat length) .uplink)) rfl rfl
      (Rig.heed_nil _).symm rfl (List.Subset.refl _) rfl h.accounted

/-- The receiver keeps a soak in order. -/
theorem stepReceiver (h : Orderly n s) (hn : n ≤ 255) : Orderly n s.stepReceiver := by
  unfold Soak.stepReceiver
  split
  next =>
    refine ⟨h.sessions, h.equipped, h.capacity, h.churn, h.live, fun id hid ↦ ?_, h.unexpected,
      h.accounted⟩
    simp only [receiveRound, h.sessions, List.mem_append, List.mem_map, List.mem_range,
      ReceiveStep.receive.injEq, List.mem_singleton, reduceCtorEq, or_false] at hid
    obtain ⟨m, hm, rfl⟩ := hid
    rw [UInt32.toNat_ofNat']
    omega
  next id rest hreceiver =>
    have hid : id.toNat < n := h.receiver id (by rw [hreceiver]; exact List.mem_cons_self)
    have hpair : s.rig.apply (·.receive id (List.replicate Frame.plainHeader 0 ++ packet) false) =
        (.ok (), (s.rig.act (.device
          (.receive id (List.replicate Frame.plainHeader 0 ++ packet) false))).2) :=
      Prod.ext (receive_eq_ok (by omega)) (Rig.heed_nil _).symm
    dsimp only
    rw [hpair]
    refine h.still (.device (.receive id _ false)) rfl rfl rfl rfl ?_ rfl h.accounted
    rw [hreceiver]
    exact List.subset_cons_self _ _
  next rest hreceiver =>
    refine h.still (.changeHost (·.takeFrames.2)) rfl rfl rfl rfl ?_ rfl h.accounted
    rw [hreceiver]
    exact List.subset_cons_self _ _

/-- The churn worker removes a session that is live. -/
theorem remove (h : Orderly n s) {rest : List ChurnStep}
    (hchurn : s.churn = some (.remove tag :: .add tag :: rest)) (htag : tag ∈ firstTags n)
    (hrest : Paired n rest) : Orderly n s.stepChurn := by
  have haway : s.away? = none := by rw [away?, hchurn]
  have hlive : tag ∈ s.rig.device.registry.tags := (h.live tag).2 ⟨htag, by simp [haway]⟩
  obtain ⟨hok, htags⟩ := h.equipped.removeSession_eq_ok hlive
  have hpair : s.rig.apply (·.removeSession tag) =
      (.ok (), (s.rig.act (.device (.removeSession tag))).2) :=
    Prod.ext hok (Rig.heed_nil _).symm
  rw [Soak.stepChurn, hchurn]
  dsimp only
  rw [hpair, churned]
  refine ⟨h.sessions, h.equipped.act rfl, ?_, .away htag hrest, fun tag' ↦ ?_, h.receiver,
    h.unexpected, h.accounted⟩
  · exact (Rig.capacity_act _ s.rig).symm ▸ h.capacity
  · have hmem := htags tag'
    rw [h.live, haway] at hmem
    rw [Rig.act_removeSession]
    exact hmem.trans (by simp [away?, eq_comm])

/-- The churn worker gets the session back: there is a place for it and a channel. -/
theorem add (h : Orderly n s) (hn : n ≤ 255) {rest : List ChurnStep}
    (hchurn : s.churn = some (.add tag :: rest)) (htag : tag ∈ firstTags n)
    (hrest : Paired n rest) : Orderly n s.stepChurn := by
  have haway : s.away? = some tag := by rw [away?, hchurn]
  have hnew : tag ∉ s.rig.device.registry.tags := by simp [h.live, haway]
  have hsession : tag.isSession :=
    Tag.isSession_iff.2 (.inl (classify_of_mem_firstTags hn htag))
  have hlength : s.rig.device.registry.length ≤ n := by
    have hsub : s.rig.device.registry.tags ⊆ firstTags n := fun tag' htag' ↦
      ((h.live tag').1 htag').1
    have hle := h.equipped.linked.table.nodup.length_le_of_subset hsub
    rwa [length_firstTags, Registry.tags, List.length_map] at hle
  have hroom : s.rig.device.registry.length < s.rig.device.registry.capacity :=
    Nat.lt_of_le_of_lt hlength h.capacity
  obtain ⟨channel, hok, htags⟩ := h.equipped.addSession_eq_ok hsession hnew hroom
  have hpair : s.rig.apply (·.addSession tag) =
      (.ok channel, (s.rig.act (.device (.addSession tag))).2) :=
    Prod.ext hok (Rig.heed_nil _).symm
  rw [Soak.stepChurn, hchurn]
  dsimp only
  rw [hpair, churned]
  refine ⟨h.sessions, h.equipped.act rfl, ?_, .whole hrest, fun tag' ↦ ?_, h.receiver,
    h.unexpected, h.accounted⟩
  · exact (Rig.capacity_act _ s.rig).symm ▸ h.capacity
  · rw [away?_of_paired rfl hrest, Rig.act_addSession]
    dsimp only
    rw [htags, List.mem_append, List.mem_singleton, h.live, haway]
    by_cases heq : tag' = tag
    · simp [heq, htag]
    · simp [heq, Ne.symm heq]

/-- The worker that churns keeps a soak in order. -/
theorem stepChurn (h : Orderly n s) (hn : n ≤ 255) : Orderly n s.stepChurn := by
  have hchurn := h.churn
  generalize hleft : s.churn = left at hchurn
  cases hchurn with
  | @whole rest hpaired =>
    have haway := away?_of_paired hleft hpaired
    cases hpaired with
    | idle =>
      have hround : Paired n s.churnRound := h.sessions ▸ paired_churnRound s
      rw [Soak.stepChurn, hleft]
      refine ⟨h.sessions, h.equipped, h.capacity, .whole hround, fun tag ↦ ?_, h.receiver,
        h.unexpected, h.accounted⟩
      rw [away?_of_paired rfl hround, ← haway]
      exact h.live tag
    | turn =>
      rw [Soak.stepChurn, hleft]
      refine ⟨h.sessions, h.equipped, h.capacity, .whole .idle, fun tag ↦ ?_, h.receiver,
        h.unexpected, h.accounted⟩
      rw [away?_of_paired rfl (Paired.idle (n := n)), ← haway]
      exact h.live tag
    | pair htag hrest => exact h.remove hleft htag hrest
  | away htag hrest => exact h.add hn hleft htag hrest

/-- Whichever worker comes next keeps a soak in order. -/
theorem step (h : Orderly n s) (hpos : 1 ≤ n) (hn : n ≤ 255) (memory : Memory)
    (worker : Worker) : Orderly n (s.step memory worker) := by
  cases worker with
  | sender => exact h.send hpos hn memory
  | churn => exact h.stepChurn hn
  | drain => exact h.stepDrain
  | receiver => exact h.stepReceiver hn

/-- A soak is kept in order by its workers, however they take turns. -/
theorem run (h : Orderly n s) (hpos : 1 ≤ n) (hn : n ≤ 255) (memory : Memory)
    (schedule : List Worker) : Orderly n (s.run memory schedule) := by
  induction schedule generalizing s with
  | nil => exact h
  | cons worker schedule ih => exact ih (h.step hpos hn memory worker)

end Orderly

/-! ## The set-up -/

/-- Sessions that are not live yet are all added if there are places for them. -/
theorem exists_addEach {rig : Rig} (h : rig.Equipped) {tags : List Tag} (hnodup : tags.Nodup)
    (hsession : ∀ tag ∈ tags, tag.isSession)
    (hnew : ∀ tag ∈ tags, tag ∉ rig.device.registry.tags)
    (hroom : rig.device.registry.length + tags.length ≤ rig.device.registry.capacity) :
    ∃ rig', addEach tags rig = .ok rig' ∧ rig'.Equipped ∧
      rig'.device.registry.capacity = rig.device.registry.capacity ∧
      rig'.device.registry.tags = rig.device.registry.tags ++ tags := by
  induction tags generalizing rig with
  | nil => exact ⟨rig, rfl, h, rfl, (List.append_nil _).symm⟩
  | cons tag tags ih =>
    obtain ⟨htag, hrest⟩ := List.nodup_cons.1 hnodup
    obtain ⟨hsession, hsessions⟩ := List.forall_mem_cons.1 hsession
    obtain ⟨hnew, hnews⟩ := List.forall_mem_cons.1 hnew
    rw [List.length_cons] at hroom
    obtain ⟨channel, hok, htags⟩ := h.addSession_eq_ok hsession hnew (by omega)
    have hnext : ({ rig with device := (rig.device.addSession tag).2 } : Rig).Equipped :=
      Rig.act_addSession tag rig ▸ h.act rfl
    have hcapacity : (rig.device.addSession tag).2.registry.capacity =
        rig.device.registry.capacity := by
      have hact := Rig.capacity_act (.device (.addSession tag)) rig
      rwa [Rig.act_addSession] at hact
    have hlength : (rig.device.addSession tag).2.registry.length =
        rig.device.registry.length + 1 := by
      have hmap := congrArg List.length htags
      rwa [List.length_append, Registry.tags, Registry.tags, List.length_map, List.length_map]
        at hmap
    obtain ⟨rig', hadd, hequipped, hcap, htags'⟩ := ih hnext hrest hsessions
      (fun tag' htag' hlive ↦ by
        rw [htags, List.mem_append, List.mem_singleton] at hlive
        rcases hlive with hlive | rfl
        · exact hnews tag' htag' hlive
        · exact htag htag')
      (by
        show (rig.device.addSession tag).2.registry.length + tags.length ≤
          (rig.device.addSession tag).2.registry.capacity
        omega)
    have hpair : rig.apply (·.addSession tag) =
        (.ok channel, { rig with device := (rig.device.addSession tag).2 }) := Prod.ext hok rfl
    refine ⟨rig', ?_, hequipped, hcap.trans hcapacity, ?_⟩
    · rw [addEach, hpair]
      exact hadd
    · rw [htags']
      dsimp only
      rw [htags, List.append_assoc]
      rfl

/-- There is always a device to start with. -/
theorem exists_init (hpos : 1 ≤ n) (hn : n ≤ 255) (spare : Mac) :
    ∃ device, Device.init { maxSessions := n } spare (testbed n) = .ok device := by
  have hsessions : ¬(n = 0 ∨ Config.mostSessions < n) := by
    simp only [Config.mostSessions, Tag.dataEnd]
    omega
  have hvalid : ({ maxSessions := n } : Config).validate = .ok () := by
    simp only [Config.validate, hsessions, if_false]
    rfl
  simp only [Device.init, hvalid]
  exact ⟨_, rfl⟩

/-- The modem has a channel for each place in the table of such a device. -/
theorem equipped_of_init {spare : Mac} {device : Device Testbed} (hn : n ≤ 255)
    (hinit : Device.init { maxSessions := n } spare (testbed n) = .ok device) :
    Rig.Equipped ⟨{ device with up := true }, true⟩ := by
  have hfresh : Rig.IsFresh ⟨device, true⟩ := Rig.isFresh_of_init hinit rfl true
  have hmodem : device.peers.modem = (testbed n).modem := Rig.modem_of_init hinit
  have hbound : device.peers.modem.idBound = n + ChannelConfig.reserved := by
    have hreserved : ChannelConfig.reserved = 8 := rfl
    have hlimit : ChannelId.idLimit = 2147483648 := rfl
    rw [hmodem]
    refine Nat.min_eq_left (show n + ChannelConfig.reserved ≤ ChannelId.idLimit from ?_)
    omega
  have hcapacity : device.registry.capacity = n + ChannelConfig.reserved :=
    congrArg Registry.capacity (Device.registry_of_init hinit)
  exact ⟨hfresh.linked, congrArg Loopback.refusesOpens hmodem,
    Nat.le_of_eq (hcapacity.trans hbound.symm)⟩

/-- A soak starts, with every session live and nothing counted. -/
theorem exists_start (hpos : 1 ≤ n) (hn : n ≤ 255) (octets : Mac) :
    ∃ s, start n octets.toLocal = .ok s ∧ s.frames = 0 ∧ s.away? = none ∧ Orderly n s := by
  obtain ⟨device, hinit⟩ := exists_init hpos hn octets.toLocal
  have hregistry := Device.registry_of_init hinit
  have hup : device.openUp = (.ok (), { device with up := true }) :=
    if_pos (Device.isValidUnicast_of_init hinit (Mac.isValidUnicast_toLocal octets))
  obtain ⟨rig, hadd, hequipped, hcapacity, htags⟩ := exists_addEach (equipped_of_init hn hinit)
    (nodup_firstTags hn)
    (fun tag htag ↦ Tag.isSession_iff.2 (.inl (classify_of_mem_firstTags hn htag)))
    (fun tag _ htag ↦ by simp [Registry.tags, hregistry, Registry.empty] at htag)
    (by simp [hregistry, Registry.length, Registry.empty, length_firstTags])
  have htags : rig.device.registry.tags = firstTags n := by
    simpa [Registry.tags, hregistry, Registry.empty] using htags
  refine ⟨{ rig, sessions := n }, ?_, rfl, rfl, ⟨rfl, hequipped, ?_, .whole .idle, fun tag ↦ ?_,
    fun id hid ↦ absurd hid List.not_mem_nil, rfl, rfl⟩⟩
  · simp only [start, hinit, hup, hadd]
  · rw [hcapacity]
    show n < device.registry.capacity
    rw [hregistry]
    exact Nat.lt_add_of_pos_right (by decide)
  · rw [htags, away?_of_paired rfl (Paired.idle (n := n))]
    simp

/-! ## Frames and rounds -/

theorem frames_churned {α : Type} (s : Soak) (rest : List ChurnStep)
    (outcome : Except MuxError α × Rig) : (s.churned rest outcome).frames = s.frames ∧
      (s.churned rest outcome).tally.churnCycles = s.tally.churnCycles := by
  unfold churned
  split <;> exact ⟨rfl, rfl⟩

/-- The churn worker counts a round at its end, and nowhere else. -/
theorem frames_stepChurn (s : Soak) : s.stepChurn.frames = s.frames ∧
    (s.stepChurn.tally.churnCycles = s.tally.churnCycles ∨
      ∃ rest, s.churn = some (.turn :: rest)) := by
  unfold stepChurn
  split
  · exact ⟨rfl, .inl rfl⟩
  · exact ⟨rfl, .inl rfl⟩
  · exact (frames_churned s _ _).imp_right .inl
  · exact (frames_churned s _ _).imp_right .inl
  · next rest hchurn => exact ⟨rfl, .inr ⟨rest, hchurn⟩⟩

theorem frames_stepDrain (s : Soak) : s.stepDrain.frames = s.frames ∧
    s.stepDrain.tally.churnCycles = s.tally.churnCycles := by
  unfold stepDrain
  split <;> exact ⟨rfl, rfl⟩

theorem frames_stepReceiver (s : Soak) : s.stepReceiver.frames = s.frames ∧
    s.stepReceiver.tally.churnCycles = s.tally.churnCycles := by
  unfold stepReceiver
  split
  · exact ⟨rfl, rfl⟩
  · dsimp only
    split <;> exact ⟨rfl, rfl⟩
  · exact ⟨rfl, rfl⟩

/-- The sender takes one frame at each of its turns, and nobody else takes any. -/
theorem frames_step (s : Soak) (memory : Memory) (worker : Worker) :
    (s.step memory worker).frames = s.frames + if worker = .sender then 1 else 0 := by
  cases worker with
  | sender => rfl
  | churn => exact (frames_stepChurn s).1
  | drain => exact (frames_stepDrain s).1
  | receiver => exact (frames_stepReceiver s).1

/-- The sender hands down a frame whenever it is its turn. -/
theorem frames_run (s : Soak) (memory : Memory) (schedule : List Worker) :
    (s.run memory schedule).frames = s.frames + schedule.count .sender := by
  induction schedule generalizing s with
  | nil => rfl
  | cons worker schedule ih =>
    have hrest := ih (s.step memory worker)
    rw [frames_step] at hrest
    rw [List.count_cons]
    simp only [beq_iff_eq]
    exact hrest.trans (by omega)

/-! ## Any schedule -/

/-- When a round of the churn worker has been counted, no session is away. -/
theorem Orderly.away?_step (h : Orderly n s) {worker : Worker}
    (hcycles : (s.step memory worker).tally.churnCycles ≠ s.tally.churnCycles) :
    (s.step memory worker).away? = none := by
  cases worker with
  | sender => exact absurd (Tally.churnCycles_transmitted _ _) hcycles
  | drain => exact absurd (frames_stepDrain s).2 hcycles
  | receiver => exact absurd (frames_stepReceiver s).2 hcycles
  | churn =>
    obtain ⟨rest, hleft⟩ := (frames_stepChurn s).2.resolve_left hcycles
    have hchurn := h.churn
    rw [hleft] at hchurn
    cases hchurn with
    | whole hpaired =>
      cases hpaired
      have hnext : (s.step memory .churn).churn = some [] := by
        rw [Soak.step, Soak.stepChurn, hleft]
      exact away?_of_paired hnext (Paired.idle (n := n))

/-- Any order of the workers' operations is clean. With `n` sessions, between 1 and 255, a soak
starts, and whatever the schedule and the memory, no operation has an answer that its worker does
not reckon with, the churn worker never gives up, and the frames that were handed down are those
that were sent, were returned or found their session away. At any time the sessions that are live
are the `n` sessions but the one that the churn worker has removed and not yet added again; when
none is away, and so at the end of every round of the churn worker, each of the `n` sessions has an
open channel of its own. -/
theorem run_undisturbed (hpos : 1 ≤ n) (hn : n ≤ 255) (octets : Mac) :
    ∃ soak, start n octets.toLocal = .ok soak ∧ Whole n soak.rig ∧
      ∀ (memory : Memory) (schedule : List Worker),
        let s := soak.run memory schedule
        s.tally.unexpected = 0 ∧ s.churn ≠ none ∧ s.frames = schedule.count .sender ∧
        s.tally.sent + s.tally.busy + s.tally.rejected = s.frames ∧
        (∀ tag, tag ∈ s.rig.device.registry.tags ↔ tag ∈ firstTags n ∧ s.away? ≠ some tag) ∧
        (s.away? = none → Whole n s.rig) ∧
        ∀ worker, (s.step memory worker).tally.churnCycles ≠ s.tally.churnCycles →
          Whole n (s.step memory worker).rig := by
  obtain ⟨soak, hstart, hframes, haway, hbegin⟩ := exists_start hpos hn octets
  refine ⟨soak, hstart, hbegin.whole hn haway, fun memory schedule ↦ ?_⟩
  have horderly := hbegin.run hpos hn memory schedule
  refine ⟨horderly.unexpected, ?_, ?_, horderly.accounted, horderly.live, horderly.whole hn,
    fun worker hcycles ↦ ?_⟩
  · intro hnone
    have hchurn := horderly.churn
    rw [hnone] at hchurn
    cases hchurn
  · rw [frames_run, hframes, Nat.zero_add]
  · exact (horderly.step hpos hn memory worker).whole hn (horderly.away?_step hcycles)

/-- A round of the churn worker, in which the first session is removed with a packet waiting, and
the next frame does not find it. The drain worker finds its channel closed, and the receiver hands a
packet up. -/
def hectic : List Worker :=
  [.sender, .churn, .drain, .churn, .sender, .sender, .drain, .churn, .drain, .drain, .receiver,
    .receiver, .churn]

/-- Two sessions see the round through. -/
theorem run_hectic : ∃ soak, start 2 Mac.zero.toLocal = .ok soak ∧
    (soak.run .ample hectic).tally =
      { sent := 2, rejected := 1, completed := 1, received := 1, churnCycles := 1 } ∧
    Whole 2 (soak.run .ample hectic).rig := by
  obtain ⟨soak, hstart, -, hrun⟩ := run_undisturbed (n := 2) (by decide) (by decide) .zero
  have htally : (start 2 Mac.zero.toLocal).toOption.map
        (fun soak ↦ ((soak.run .ample hectic).away?, (soak.run .ample hectic).tally)) =
      some (none,
        { sent := 2, rejected := 1, completed := 1, received := 1, churnCycles := 1 }) := by
    decide +kernel
  rw [hstart] at htally
  simp only [Except.toOption, Option.map_some, Option.some.injEq, Prod.mk.injEq] at htally
  obtain ⟨-, -, -, -, -, hwhole, -⟩ := hrun .ample hectic
  exact ⟨soak, hstart, htally.2, hwhole htally.1⟩

end Soak

end ModemMux

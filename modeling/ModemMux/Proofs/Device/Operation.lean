import ModemMux.Device.Queues
import ModemMux.Device.Receive
import ModemMux.Device.Transmit
import ModemMux.Proofs.Registry.Outcome

/-!
# Operations of a device

`Device.operate` is one operation of a device over any transport and any host stack. Most operations
are quiet: they count at most one packet and leave the sessions as they are otherwise
(`Device.counted_operate`). Every operation keeps the session table sound.
-/

namespace ModemMux

/-- A table after at most one more packet was counted in it. -/
inductive Registry.Counted (r : Registry) : Registry → Prop
  | same : Counted r r
  | count (tag : Tag) (bytes : UInt64) (direction : Direction) :
      Counted r (r.count tag bytes direction).2

namespace Registry.Counted

variable {r r' : Registry}

/-- Counting packets keeps a table sound. -/
theorem sound (h : Counted r r') (hr : r.Sound) : r'.Sound := by
  cases h with
  | same => exact hr
  | count => exact hr.count

/-- Counting packets opens and closes nothing. -/
theorem bindings_eq (h : Counted r r') : r'.bindings = r.bindings := by
  cases h with
  | same => rfl
  | count => exact bindings_count

/-- A packet that is counted changes no session but in its counters. -/
theorem exists_session (h : Counted r r') {s' : Session} (hs' : s' ∈ r'.sessions) :
    ∃ s ∈ r.sessions, s'.tag = s.tag ∧ s'.channel = s.channel ∧ s'.state = s.state := by
  cases h with
  | same => exact ⟨s', hs', rfl, rfl, rfl⟩
  | count tag bytes direction =>
    unfold Registry.count at hs'
    split at hs'
    · exact ⟨s', hs', rfl, rfl, rfl⟩
    · obtain ⟨s, hs, rfl⟩ := mem_modify_iff.1 hs'
      refine ⟨s, hs, ?_⟩
      split <;> exact ⟨rfl, rfl, rfl⟩

end Registry.Counted

/-- A set-up that is accepted has an address that a device may use, or none. -/
theorem Config.exists_address? (config : Config) (h : config.validate = .ok ()) :
    ∃ mac, config.address? = .ok mac := by
  unfold validate at h
  split at h
  · cases h
  · split at h
    · cases h
    · split at h
      · cases h
      · split at h
        · cases h
        next mac hmac => exact ⟨mac, hmac⟩

/-- A fixed address is one that a device may use. -/
theorem Config.isValidUnicast_of_address? {config : Config} {mac : Mac}
    (h : config.address? = .ok (some mac)) : mac.isValidUnicast := by
  unfold address? at h
  split at h
  · cases h
  · split at h
    · cases h
    · split at h
      next hmac =>
        cases h
        exact hmac
      · cases h

namespace Device

/-- What can be asked of a device. -/
inductive Operation where
  | addSession (tag : Tag)
  | removeSession (tag : Tag)
  | removeSessions
  | transmit (memory : Memory) (frame : Frame)
  | receive (id : SessionId) (buffer : Bytes) (control : Bool)
  | setFlowControl (id : SessionId) (engage : Bool)
  | updateStats (id : SessionId) (bytes : UInt64) (direction : Direction)
  | changeMtu (mtu : Nat)
  | setMac (mac : Mac)
  | openUp
  | stop

inductive Reply where
  | channel (answer : Except MuxError ChannelId)
  | status (answer : Except MuxError TxStatus)
  | done (answer : Except MuxError Unit)
  /-- How many sessions went. -/
  | removed (sessions : Nat)
  deriving DecidableEq, Repr

variable {ω : Type} [Transport ω] [HostStack ω]

/-- One operation of a device: its answer, the signals of the transport on the way, and the device
after it. -/
def operate (operation : Operation) (d : Device ω) : Reply × List Signal × Device ω :=
  match operation with
  | .addSession tag => (.channel (d.addSession tag).1, [], (d.addSession tag).2)
  | .removeSession tag => (.done (d.removeSession tag).1, [], (d.removeSession tag).2)
  | .removeSessions => (.removed d.removeSessions.1, [], d.removeSessions.2)
  | .transmit memory frame =>
    match d.transmit memory frame with
    | (answer, signals, d) => (.status answer, signals, d)
  | .receive id buffer control =>
    (.done (d.receive id buffer control).1, [], (d.receive id buffer control).2)
  | .setFlowControl id engage =>
    (.done (d.setFlowControl id engage).1, [], (d.setFlowControl id engage).2)
  | .updateStats id bytes direction =>
    (.done (d.updateStats id bytes direction).1, [], (d.updateStats id bytes direction).2)
  | .changeMtu mtu => (.done (d.changeMtu mtu).1, [], (d.changeMtu mtu).2)
  | .setMac mac => (.done (d.setMac mac).1, [], (d.setMac mac).2)
  | .openUp => (.done d.openUp.1, [], d.openUp.2)
  | .stop => (.done (.ok ()), [], d.stop)

/-- Whether an operation only counts, delivers or sets up: it brings no session, takes none away and
asks nothing of one. -/
def Operation.isQuiet : Operation → Bool
  | .receive _ _ _ | .updateStats _ _ _ | .changeMtu _ | .setMac _ | .openUp | .stop => true
  | .addSession _ | .removeSession _ | .removeSessions => false
  | .transmit _ _ | .setFlowControl _ _ => false

variable {d : Device ω} {operation : Operation}

omit [Transport ω] in
/-- All that receiving a frame can do to the table is to count it. -/
theorem counted_receive (id : SessionId) (buffer : Bytes) (control : Bool) :
    Registry.Counted d.registry (d.receive id buffer control).2.registry := by
  unfold receive
  split
  · exact .same
  · split
    · exact .same
    · simp only
      split
      · exact .same
      · exact .count _ _ _

omit [Transport ω] [HostStack ω] in
/-- All that an update can do to the table is to count. -/
theorem counted_updateStats (id : SessionId) (bytes : UInt64) (direction : Direction) :
    Registry.Counted d.registry (d.updateStats id bytes direction).2.registry := by
  unfold updateStats
  split
  · exact .same
  · exact .count _ _ _

omit [Transport ω] [HostStack ω] in
theorem registry_changeMtu (mtu : Nat) : (d.changeMtu mtu).2.registry = d.registry := by
  unfold changeMtu
  split <;> rfl

omit [Transport ω] [HostStack ω] in
theorem registry_setMac (mac : Mac) : (d.setMac mac).2.registry = d.registry := by
  unfold setMac
  split
  · rfl
  · split <;> rfl

omit [Transport ω] [HostStack ω] in
theorem registry_openUp : d.openUp.2.registry = d.registry := by
  unfold openUp
  split <;> rfl

/-- A quiet operation does nothing to the table but count. -/
theorem counted_operate (h : operation.isQuiet) :
    Registry.Counted d.registry (d.operate operation).2.2.registry := by
  cases operation with
  | receive id buffer control => exact counted_receive id buffer control
  | updateStats id bytes direction => exact counted_updateStats id bytes direction
  | changeMtu mtu =>
    simp only [operate, registry_changeMtu]
    exact .same
  | setMac mac =>
    simp only [operate, registry_setMac]
    exact .same
  | openUp =>
    simp only [operate, registry_openUp]
    exact .same
  | stop => exact .same
  | _ => cases h

omit [HostStack ω] in
theorem registry_transmit (memory : Memory) (frame : Frame) :
    (d.transmit memory frame).2.2.registry = d.registry := by
  unfold transmit
  split <;> rfl

/-- Every operation keeps the session table sound. -/
theorem sound_operate (h : d.registry.Sound) (operation : Operation) :
    (d.operate operation).2.2.registry.Sound := by
  by_cases hquiet : operation.isQuiet
  · exact (counted_operate hquiet).sound h
  · cases operation with
    | addSession tag => exact (Registry.adds_add tag d.registry d.peers).sound h
    | removeSession tag => exact (Registry.removes_remove tag d.registry d.peers).sound h
    | removeSessions => exact h.removeEach d.registry.tags d.peers
    | transmit memory frame =>
      have : (d.operate (.transmit memory frame)).2.2.registry = d.registry :=
        registry_transmit memory frame
      rw [this]
      exact h
    | setFlowControl id engage => exact h.heed
    | _ => exact absurd rfl hquiet

/-- No operation changes how many IP sessions there may be, or ends the life of a device. -/
theorem lasting_operate (operation : Operation) (d : Device ω) :
    (d.operate operation).2.2.maxSessions = d.maxSessions ∧
      (d.operate operation).2.2.registered = d.registered := by
  cases operation with
  | addSession | removeSession | removeSessions | setFlowControl | stop => exact ⟨rfl, rfl⟩
  | transmit memory frame =>
    simp only [operate, transmit]
    split <;> exact ⟨rfl, rfl⟩
  | receive id buffer control =>
    simp only [operate, receive]
    split
    · exact ⟨rfl, rfl⟩
    · split
      · exact ⟨rfl, rfl⟩
      · split <;> exact ⟨rfl, rfl⟩
  | updateStats id bytes direction =>
    simp only [operate, updateStats]
    split <;> exact ⟨rfl, rfl⟩
  | changeMtu mtu =>
    simp only [operate, changeMtu]
    split <;> exact ⟨rfl, rfl⟩
  | setMac mac =>
    simp only [operate, setMac]
    split
    · exact ⟨rfl, rfl⟩
    · split <;> exact ⟨rfl, rfl⟩
  | openUp =>
    simp only [operate, openUp]
    split <;> exact ⟨rfl, rfl⟩

/-- What is no concern of the transport concerns a device only when it receives. -/
theorem part_operate {α : Type} {part : ω → α} (h : Transport.Spares part)
    (hoperation : ∀ id buffer control, operation ≠ .receive id buffer control) :
    part (d.operate operation).2.2.peers = part d.peers := by
  cases operation with
  | addSession tag => exact h.add tag d.registry d.peers
  | removeSession tag => exact h.remove tag d.registry d.peers
  | removeSessions => exact h.removeEach d.registry.tags d.registry d.peers
  | transmit memory frame =>
    simp only [operate, transmit]
    split
    · rfl
    · rfl
    next routed _ => exact h.submit routed.tag routed.channel routed.payload d.peers
  | receive id buffer control => exact absurd rfl (hoperation id buffer control)
  | setFlowControl | stop => rfl
  | updateStats id bytes direction =>
    simp only [operate, updateStats]
    split <;> rfl
  | changeMtu mtu =>
    simp only [operate, changeMtu]
    split <;> rfl
  | setMac mac =>
    simp only [operate, setMac]
    split
    · rfl
    · split <;> rfl
  | openUp =>
    simp only [operate, openUp]
    split <;> rfl

/-! ## The beginning -/

/-- What can become of setting up a device. -/
inductive Inits (config : Config) (spare : Mac) (peers : ω) :
    Except (MuxError × ω) (Device ω) → Prop
  /-- The set-up is refused, and nobody is asked. -/
  | invalid {e : MuxError} (hconfig : config.validate = .error e) :
      Inits config spare peers (.error (e, peers))
  /-- The host does not take the device. -/
  | rejected {mac : Option Mac} {reason : String} {peers' : ω}
      (hconfig : config.validate = .ok ()) (hmac : config.address? = .ok mac)
      (hattach : HostStack.attach (blank config (mac.getD spare) peers).info peers =
        (.error reason, peers')) :
      Inits config spare peers (.error (.hostRejected reason, peers'))
  | attached {mac : Option Mac} {peers' : ω}
      (hconfig : config.validate = .ok ()) (hmac : config.address? = .ok mac)
      (hattach : HostStack.attach (blank config (mac.getD spare) peers).info peers =
        (.ok (), peers')) :
      Inits config spare peers
        (.ok { blank config (mac.getD spare) peers with registered := true, peers := peers' })

omit [Transport ω] in
/-- Every way in which making a device can end is one of those listed. -/
theorem inits_init (config : Config) (spare : Mac) (peers : ω) :
    Inits config spare peers (init config spare peers) := by
  unfold init
  split
  next e hconfig => exact .invalid hconfig
  next hconfig =>
    obtain ⟨mac, hmac⟩ := config.exists_address? hconfig
    simp only [hmac]
    split
    next reason peers' hattach => exact .rejected hconfig hmac hattach
    next peers' hattach => exact .attached hconfig hmac hattach

omit [Transport ω] in
/-- A device that was just set up has an address that it may use, if there was one to spare. -/
theorem isValidUnicast_of_init {config : Config} {spare : Mac} {peers : ω}
    (h : init config spare peers = .ok d) (hspare : spare.isValidUnicast) :
    d.mac.isValidUnicast := by
  have hinits := inits_init config spare peers
  rw [h] at hinits
  cases hinits with
  | @attached mac _ _ hmac _ =>
    cases mac with
    | none => exact hspare
    | some mac => exact Config.isValidUnicast_of_address? hmac

/-! ## The end -/

theorem maxSessions_shutdown (d : Device ω) : d.shutdown.maxSessions = d.maxSessions := by
  unfold shutdown
  split <;> rfl

theorem registered_shutdown (d : Device ω) : d.shutdown.registered = false := by
  unfold shutdown
  split
  · rfl
  next hd => simpa using hd

/-- A device that was ended is not ended again when it is given up. -/
theorem deinit_eq_shutdown (d : Device ω) : d.deinit = d.shutdown := by
  have hd := d.registered_shutdown
  rw [deinit, drop, shutdown, if_neg (by simp [hd])]

end Device

end ModemMux

import ModemMux.Proofs.Device.Life
import ModemMux.Proofs.Device.Routing

/-!
# Transfer unit, address and administrative state

These three are the administrator's: no other operation and nothing from outside touches them, save
that the end of a device takes it down (`Device.standing_advance`). `Device.Administers` lists what
can become of a request for other settings. A refused request changes nothing, and while a device is
up its address can be taken from it but not changed. So `Device.Governed` relates the address to the
one with which the device was last opened, and `Device.standing_run` puts all this together.
-/

namespace ModemMux

namespace Mac

variable {mac : Mac}

/-- An address is a valid one unless it is zero, or that of a group. -/
theorem isValidUnicast_iff : mac.isValidUnicast ↔ mac ≠ .zero ∧ mac.isMulticast = false := by
  simp [isValidUnicast, isZero]

/-- An address that a device may have, or none, names no group of stations. -/
theorem isMulticast_eq_false (h : mac = .zero ∨ mac.isValidUnicast) : mac.isMulticast = false := by
  rcases h with rfl | h
  · rfl
  · exact (isValidUnicast_iff.1 h).2

end Mac

/-- A set-up that is accepted has a transfer unit in the range. -/
theorem Config.mtu_of_validate {config : Config} (h : config.validate = .ok ()) :
    leastMtu ≤ config.mtu ∧ config.mtu ≤ greatestMtu := by
  unfold validate at h
  split at h
  · cases h
  · split at h
    · cases h
    · split at h
      · cases h
      next hmtu => exact checkMtu_eq_ok_iff.1 hmtu

namespace Device

variable {ω : Type} {d : Device ω} {operation : Operation}

/-- What the administrator decides of a device: its transfer unit, its address, whether it is up. -/
def standing (d : Device ω) : Nat × Mac × Bool := (d.mtu, d.mac, d.up)

/-! ## Requests for other settings -/

def Operation.isSetting : Operation → Bool
  | .changeMtu _ | .setMac _ | .openUp | .stop => true
  | .addSession _ | .removeSession _ | .removeSessions => false
  | .transmit _ _ | .receive _ _ _ | .setFlowControl _ _ | .updateStats _ _ _ => false

/-- What can become of a request for other settings. -/
inductive Administers (d : Device ω) : Operation → Reply × List Signal × Device ω → Prop
  | resized {mtu : Nat} (hmtu : Config.leastMtu ≤ mtu ∧ mtu ≤ Config.greatestMtu) :
      Administers d (.changeMtu mtu) (.done (.ok ()), [], { d with mtu })
  | outOfRange {mtu : Nat} (hmtu : ¬(Config.leastMtu ≤ mtu ∧ mtu ≤ Config.greatestMtu)) :
      Administers d (.changeMtu mtu)
        (.done (.error (.outOfRange mtu Config.leastMtu Config.greatestMtu)), [], d)
  /-- The address can be taken away at any time. -/
  | cleared : Administers d (.setMac .zero) (.done (.ok ()), [], { d with mac := .zero })
  | readdressed {mac : Mac} (hup : d.up = false) (hmac : mac.isValidUnicast) :
      Administers d (.setMac mac) (.done (.ok ()), [], { d with mac })
  /-- A device that is up is busy, whatever the address is. -/
  | busy {mac : Mac} (hup : d.up) (hmac : mac ≠ .zero) :
      Administers d (.setMac mac) (.done (.error (.deviceBusy d.name)), [], d)
  | group {mac : Mac} (hup : d.up = false) (hmac : mac.isMulticast) :
      Administers d (.setMac mac) (.done (.error (.invalidAddress mac)), [], d)
  | opened (hmac : d.mac.isValidUnicast) :
      Administers d .openUp (.done (.ok ()), [], { d with up := true })
  | unaddressed (hmac : d.mac.isValidUnicast = false) :
      Administers d .openUp (.done (.error (.invalidAddress d.mac)), [], d)
  | stopped : Administers d .stop (.done (.ok ()), [], { d with up := false })

/-- A transfer unit is accepted if it is within the bounds. -/
theorem changeMtu_eq_ok_iff {mtu : Nat} : (d.changeMtu mtu).1 = .ok () ↔
    Config.leastMtu ≤ mtu ∧ mtu ≤ Config.greatestMtu := by
  rw [← Config.checkMtu_eq_ok_iff, changeMtu]
  split
  next hmtu => simp [hmtu]
  next hmtu => simp [hmtu]

/-- The zero address is always accepted, any other one while the device is down and unless it is
that of a group. -/
theorem setMac_eq_ok_iff {mac : Mac} : (d.setMac mac).1 = .ok () ↔
    mac = .zero ∨ d.up = false ∧ mac.isMulticast = false := by
  by_cases hmac : mac = .zero
  · subst hmac
    simp [setMac, Mac.isZero, Mac.isMulticast_eq_false (.inl rfl)]
  · cases hup : d.up <;> cases hgroup : mac.isMulticast <;>
      simp [setMac, Mac.isZero, hmac, hup, hgroup]

/-- A request that is refused changes nothing: the unit is out of range, an address is none that the
device may have, or the device is up. -/
theorem Administers.refused {outcome : Reply × List Signal × Device ω}
    (h : Administers d operation outcome) {e : MuxError} (he : outcome.1 = .done (.error e)) :
    outcome.2 = ([], d) ∧
      ((∃ mtu, e = .outOfRange mtu Config.leastMtu Config.greatestMtu) ∨
        (∃ mac, e = .invalidAddress mac) ∨ e = .deviceBusy d.name) := by
  cases h with
  | outOfRange | busy | group | unaddressed =>
    cases he
    exact ⟨rfl, by simp⟩
  | _ => cases he

variable [Transport ω] [HostStack ω]

theorem administers_changeMtu (mtu : Nat) (d : Device ω) :
    Administers d (.changeMtu mtu) (d.operate (.changeMtu mtu)) := by
  by_cases hmtu : Config.leastMtu ≤ mtu ∧ mtu ≤ Config.greatestMtu
  · simp only [operate, changeMtu, Config.checkMtu, if_pos hmtu]
    exact .resized hmtu
  · simp only [operate, changeMtu, Config.checkMtu, if_neg hmtu]
    exact .outOfRange hmtu

theorem administers_setMac (mac : Mac) (d : Device ω) :
    Administers d (.setMac mac) (d.operate (.setMac mac)) := by
  simp only [operate, setMac]
  split
  next hbusy =>
    have hmac : mac ≠ .zero := by simpa [Mac.isZero] using hbusy.1
    exact .busy hbusy.2 hmac
  next hfree =>
    split
    next hgroup =>
      have hmac : mac ≠ .zero := by
        rintro rfl
        exact absurd hgroup (by decide)
      exact .group (by simpa [Mac.isZero, hmac] using hfree) hgroup
    next hsingle =>
      by_cases hmac : mac = .zero
      · subst hmac
        exact .cleared
      · have hup : d.up = false := by simpa [Mac.isZero, hmac] using hfree
        exact .readdressed hup (Mac.isValidUnicast_iff.2 ⟨hmac, by simpa using hsingle⟩)

theorem administers_openUp (d : Device ω) : Administers d .openUp (d.operate .openUp) := by
  simp only [operate, openUp]
  split
  next hmac => exact .opened hmac
  next hmac => exact .unaddressed (by simpa using hmac)

/-- Every setting answers as it should, and changes only what it is about. -/
theorem administers_operate (h : operation.isSetting) (d : Device ω) :
    Administers d operation (d.operate operation) := by
  cases operation with
  | changeMtu mtu => exact administers_changeMtu mtu d
  | setMac mac => exact administers_setMac mac d
  | openUp => exact administers_openUp d
  | stop => exact .stopped
  | _ => cases h

/-! ## What leaves the settings alone -/

/-- Only a setting changes how the device stands. -/
theorem standing_operate (h : operation.isSetting = false) (d : Device ω) :
    (d.operate operation).2.2.standing = d.standing := by
  cases operation with
  | addSession | removeSession | removeSessions | setFlowControl => rfl
  | transmit memory frame =>
    have htransmits := transmits_transmit memory frame d
    simp only [operate]
    generalize d.transmit memory frame = outcome at htransmits
    cases htransmits <;> rfl
  | receive id buffer control =>
    have hreceives := receives_receive id buffer control d
    simp only [operate]
    generalize d.receive id buffer control = outcome at hreceives
    cases hreceives <;> rfl
  | updateStats id bytes direction =>
    simp only [operate, updateStats]
    split <;> rfl
  | _ => cases h

/-! ## The address of a device that is up -/

/-- The address with which a step opens the device, if it does. -/
def Step.opensWith? (step : Step ω) (d : Device ω) : Option Mac :=
  match step with
  | .operate .openUp => if (d.operate .openUp).1 = .done (.ok ()) then some d.mac else none
  | _ => none

/-- The address with which the device was last opened in a life. -/
def lastAddress? : List (Step ω) → Device ω → Option Mac
  | [], _ => none
  | step :: steps, d => (lastAddress? steps (d.advance step)).or (step.opensWith? d)

omit [Transport ω] [HostStack ω] in
/-- What holds of the settings at any time, if the device was last opened with a certain address. -/
structure Governed (opened : Option Mac) (d : Device ω) : Prop where
  mtu : Config.leastMtu ≤ d.mtu ∧ d.mtu ≤ Config.greatestMtu
  /-- The address is one that a device may have, or none. -/
  mac : d.mac = .zero ∨ d.mac.isValidUnicast
  /-- While the device is up, it keeps its address until that is taken away. -/
  up : d.up → ∃ mac, opened = some mac ∧ (d.mac = mac ∨ d.mac = .zero)

namespace Governed

variable {opened : Option Mac}

omit [Transport ω] [HostStack ω] in
/-- What governs the settings of a device governs any device that stands as it does. -/
theorem of_standing {d' : Device ω} (h : Governed opened d) (heq : d'.standing = d.standing) :
    Governed opened d' := by
  obtain ⟨hmtu, hmac, hup⟩ : d'.mtu = d.mtu ∧ d'.mac = d.mac ∧ d'.up = d.up := by
    simpa [standing] using heq
  exact ⟨by rw [hmtu]; exact h.mtu, by rw [hmac]; exact h.mac, by rw [hup, hmac]; exact h.up⟩

/-- One operation keeps to the address law. -/
theorem operate (h : Governed opened d) (operation : Operation) :
    Governed (((Step.operate operation).opensWith? d).or opened) (d.operate operation).2.2 := by
  cases hsetting : operation.isSetting with
  | false =>
    have hnone : (Step.operate operation).opensWith? d = none := by
      cases operation with
      | openUp => cases hsetting
      | _ => rfl
    rw [hnone]
    exact h.of_standing (standing_operate hsetting d)
  | true =>
    have hadministers := administers_operate hsetting d
    simp only [Step.opensWith?]
    generalize houtcome : d.operate operation = outcome at hadministers
    cases hadministers with
    | resized hmtu => exact ⟨hmtu, h.mac, h.up⟩
    | outOfRange | busy | group => exact h
    | cleared =>
      refine ⟨h.mtu, .inl rfl, fun hup ↦ ?_⟩
      obtain ⟨mac, hopened, -⟩ := h.up hup
      exact ⟨mac, hopened, .inr rfl⟩
    | readdressed hdown hmac =>
      exact ⟨h.mtu, .inr hmac, fun hup ↦ absurd (hup.symm.trans hdown) (by decide)⟩
    | opened hmac =>
      simp only [houtcome]
      exact ⟨h.mtu, .inr hmac, fun _ ↦ ⟨_, rfl, .inl rfl⟩⟩
    | unaddressed =>
      simp only [houtcome]
      exact h
    | stopped => exact ⟨h.mtu, h.mac, fun hup ↦ by cases hup⟩

theorem shutdown (h : Governed opened d) : Governed opened d.shutdown := by
  unfold Device.shutdown
  split
  · exact ⟨h.mtu, h.mac, fun hup ↦ by cases hup⟩
  · exact h

/-- One step keeps to the address law. -/
theorem advance (h : Governed opened d) (step : Step ω) :
    Governed ((step.opensWith? d).or opened) (d.advance step) := by
  cases step with
  | operate operation => exact h.operate operation
  | count | signal | changePeers => exact h.of_standing rfl
  | deinit | drop =>
    rw [advance_of_isEnd rfl]
    exact h.shutdown

/-- A whole run keeps to the address law. -/
theorem run (h : Governed opened d) (steps : List (Step ω)) :
    Governed ((d.lastAddress? steps).or opened) (d.run steps) := by
  induction steps generalizing d opened with
  | nil => exact h
  | cons step steps ih =>
    rw [lastAddress?, Option.or_assoc]
    exact ih (h.advance step)

omit [Transport ω] [HostStack ω] in
/-- A device can be opened if and only if it has an address. -/
theorem openUp_eq_ok_iff (h : Governed opened d) : d.openUp.1 = .ok () ↔ d.mac ≠ .zero := by
  unfold openUp
  split
  next hmac => simpa using (Mac.isValidUnicast_iff.1 hmac).1
  next hmac => simpa using h.mac.resolve_right hmac

end Governed

omit [Transport ω] in
/-- A device that was just made keeps to the address law, with no address opened. -/
theorem governed_of_init {config : Config} {spare : Mac} {peers : ω}
    (h : init config spare peers = .ok d) (hspare : spare.isValidUnicast) : Governed none d := by
  have hmac := isValidUnicast_of_init h hspare
  have hinits := inits_init config spare peers
  rw [h] at hinits
  cases hinits with
  | attached hconfig => exact ⟨Config.mtu_of_validate hconfig, .inr hmac, fun hup ↦ by cases hup⟩

def Step.takesDown : Step ω → Bool
  | .operate .stop | .deinit | .drop => true
  | .operate _ | .count _ _ _ | .signal _ | .changePeers _ => false

/-- A device that is up stays up until it is taken down, and keeps its address until that is taken
away. -/
theorem up_advance {step : Step ω} (hstep : step.takesDown = false) (hup : d.up) :
    (d.advance step).up ∧ ((d.advance step).mac = d.mac ∨ (d.advance step).mac = .zero) := by
  cases step with
  | operate operation =>
    cases hsetting : operation.isSetting with
    | false =>
      have heq := standing_operate hsetting d
      simp only [standing, Prod.mk.injEq] at heq
      obtain ⟨-, hmac, hup'⟩ := heq
      exact ⟨hup'.trans hup, .inl hmac⟩
    | true =>
      have hadministers := administers_operate hsetting d
      simp only [Device.advance]
      generalize d.operate operation = outcome at hadministers
      cases hadministers with
      | resized | outOfRange | busy | group | unaddressed => exact ⟨hup, .inl rfl⟩
      | cleared => exact ⟨hup, .inr rfl⟩
      | readdressed hdown => exact absurd (hup.symm.trans hdown) (by decide)
      | opened => exact ⟨rfl, .inl rfl⟩
      | stopped => cases hstep
  | count | signal | changePeers => exact ⟨hup, .inl rfl⟩
  | deinit | drop => cases hstep

/-- A device that is not taken down stays up, with the address that it has, or without any. -/
theorem up_run {steps : List (Step ω)} (hsteps : ∀ step ∈ steps, step.takesDown = false)
    (hup : d.up) : (d.run steps).up ∧ ((d.run steps).mac = d.mac ∨ (d.run steps).mac = .zero) := by
  refine run_induction (P := fun d' ↦ d'.up ∧ (d'.mac = d.mac ∨ d'.mac = .zero)) ?_ ⟨hup, .inl rfl⟩
  rintro step hstep d' ⟨hup', hmac⟩
  obtain ⟨hup'', hmac'⟩ := up_advance (hsteps step hstep) hup'
  refine ⟨hup'', ?_⟩
  rcases hmac' with hmac' | hmac'
  · rwa [hmac']
  · exact .inr hmac'

/-- The settings of a device at any time of its life, whether its first address was given or drawn
at random. The transfer unit is in its range. The address is never that of a group: the device
starts with one of its own, and later has none or one of its own. While the device is up its address
is the one with which it was last opened or has been taken away, and until the device is taken down
an address is only ever taken away and then stays away. It can be opened if and only if it has an
address. A request that is refused changes nothing, and in particular leaves a device up that was
up. -/
theorem standing_run {config : Config} {octets : Mac} {peers : ω} {device : Device ω}
    (h : init config octets.toLocal peers = .ok device) (steps : List (Step ω)) :
    let d := device.run steps
    (68 ≤ d.mtu ∧ d.mtu ≤ 1048576) ∧
    device.mac.isValidUnicast ∧ d.mac.isMulticast = false ∧
    (d.mac = .zero ∨ d.mac.isValidUnicast) ∧
    (d.up → ∃ mac, device.lastAddress? steps = some mac ∧ (d.mac = mac ∨ d.mac = .zero)) ∧
    (d.up → ∀ more, (∀ step ∈ more, step.takesDown = false) →
      (d.run more).up ∧ ((d.run more).mac = d.mac ∨ (d.run more).mac = .zero)) ∧
    (d.openUp.1 = .ok () ↔ d.mac ≠ .zero) ∧
    (∀ mtu, (d.changeMtu mtu).1 = .ok () ↔ 68 ≤ mtu ∧ mtu ≤ 1048576) ∧
    (∀ mac, (d.setMac mac).1 = .ok () ↔
      mac = .zero ∨ d.up = false ∧ mac.isMulticast = false) ∧
    (∀ operation e, operation.isSetting → (d.operate operation).1 = .done (.error e) →
      (d.operate operation).2 = ([], d) ∧
        ((∃ mtu, e = .outOfRange mtu 68 1048576) ∨ (∃ mac, e = .invalidAddress mac) ∨
          e = .deviceBusy d.name)) := by
  intro d
  have hspare := Mac.isValidUnicast_toLocal octets
  have hgoverned : Governed (device.lastAddress? steps) d := by
    simpa using (governed_of_init h hspare).run steps
  refine ⟨hgoverned.mtu, isValidUnicast_of_init h hspare,
    Mac.isMulticast_eq_false hgoverned.mac, hgoverned.mac, hgoverned.up,
    fun hup more hmore ↦ up_run hmore hup, hgoverned.openUp_eq_ok_iff,
    fun mtu ↦ changeMtu_eq_ok_iff, fun mac ↦ setMac_eq_ok_iff, ?_⟩
  intro operation e hsetting he
  exact (administers_operate hsetting d).refused he

/-- An address is taken away while the device is up; after a stop it gets another one. -/
def readdress : List (Step Testbed) :=
  [.operate .openUp, .operate (.setMac .zero), .operate .openUp,
    .operate (.setMac ⟨2, 0, 0, 0, 0, 7⟩), .operate .stop, .operate (.setMac ⟨2, 0, 0, 0, 0, 7⟩),
    .operate .openUp, .operate (.changeMtu 67)]

/-- The address that was taken away stays away for as long as the device is up, which cannot be
opened again; in the end the device is up with the new address. -/
theorem standing_readdress : ∃ device : Device Testbed,
    init {} (Mac.toLocal .zero) ⟨{}, {}⟩ = .ok device ∧
    let cleared := device.run (readdress.take 2)
    let d := device.run readdress
    (∀ step ∈ (readdress.drop 2).take 2, step.takesDown = false) ∧ cleared.up ∧
    (cleared.run ((readdress.drop 2).take 2)).mac = .zero ∧
    (cleared.operate .openUp).2 = ([], cleared) ∧
    d.up ∧ device.lastAddress? readdress = some d.mac ∧ d.mac = ⟨2, 0, 0, 0, 0, 7⟩ := by
  have h : init {} (Mac.toLocal .zero) (⟨{}, {}⟩ : Testbed) = .ok _ := rfl
  refine ⟨_, h, ?_⟩
  intro cleared d
  have hmore : ∀ step ∈ (readdress.drop 2).take 2, step.takesDown = false := by
    simp [readdress, Step.takesDown]
  obtain ⟨-, -, -, -, -, hstays, -, -, -, hrefused⟩ := standing_run h (readdress.take 2)
  obtain ⟨-, -, -, -, hlast, -⟩ := standing_run h readdress
  refine ⟨hmore, rfl, ?_, (hrefused .openUp _ rfl rfl).1, rfl, ?_, rfl⟩
  · have hzero : cleared.mac = .zero := rfl
    rcases (hstays rfl _ hmore).2 with hmac | hmac
    · exact hmac.trans hzero
    · exact hmac
  · obtain ⟨mac, hmac, rfl | hzero⟩ := hlast rfl
    · exact hmac
    · exact absurd hzero (by decide)

end Device

end ModemMux

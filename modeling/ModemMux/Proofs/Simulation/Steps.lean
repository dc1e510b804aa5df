import ModemMux.Proofs.Rig.Links
import ModemMux.Proofs.Simulation.Failure

/-!
# Steps as operations of the device

A step of a scenario comes to one operation of the device (`Rig.snd_perform_of_some`), to nothing if
its payload makes no sense (`Rig.perform_of_none`), or to a drain with an update of the counters for
each payload (`Rig.exists_complete`). So what the actions of a rig keep, the steps keep
(`Rig.perform_induction`).
-/

namespace ModemMux.Rig

variable {rig : Rig} {memory : Memory} {step : Step} {tag : Tag}

/-! ## Drains -/

/-- Nothing can be completed for a session that is not live. -/
theorem complete_of_notMem (h : tag ∉ rig.device.registry.tags) :
    rig.complete tag = (.error (.unknownSession tag), rig) := by
  have hnone : rig.device.registry.lookup tag = none := by
    rw [Registry.lookup, Registry.find?_eq_none_iff.2 h, Option.map_none]
  simp only [complete, hnone]

/-- A drain for a live session takes what waits on its channel, and counts all of it. -/
theorem exists_complete (hsound : rig.device.registry.Sound)
    (h : tag ∈ rig.device.registry.tags) :
    ∃ (s : Session) (id : SessionId), rig.device.registry.find? tag = some s ∧
      Tag.ofSession? id = some tag ∧
      let drained := rig.drain s.channel
      (drained.2.countEach id drained.1).1 = .ok () ∧
      rig.complete tag = (.ok drained.1, (drained.2.countEach id drained.1).2) := by
  obtain ⟨s, hs, rfl⟩ := Registry.mem_tags_iff.1 h
  obtain ⟨id, hid, hsession⟩ := Tag.exists_toSession? (hsound.isSession s hs)
  have hfind := hsound.find?_eq_some_iff.2 ⟨hs, rfl⟩
  have hlookup : rig.device.registry.lookup s.tag =
      some ⟨rig.device.registry.sessions.findIdx (·.tag == s.tag), s⟩ := by
    rw [Registry.lookup, hfind, Option.map_some]
  have hlive : s.tag ∈ (rig.drain s.channel).2.device.registry.tags := by rwa [tags_drain]
  have hcount := countEach_eq_ok hsession hlive (rig.drain s.channel).1
  refine ⟨s, id, hfind, hsession, hcount, ?_⟩
  have hpair : (rig.drain s.channel).2.countEach id (rig.drain s.channel).1 =
      (.ok (), ((rig.drain s.channel).2.countEach id (rig.drain s.channel).1).2) :=
    Prod.ext hcount rfl
  simp only [complete, hlookup, hid]
  rw [hpair]

/-! ## Steps as operations -/

/-- The operation of the device that a step comes to: none if it is a drain, or if its payload makes
no sense. -/
def operation? (memory : Memory) (rig : Rig) : Step → Option Device.Operation
  | .add tag => some (.addSession tag)
  | .remove tag => some (.removeSession tag)
  | .transmit tag payload inBand =>
    payload.bytes.toOption.map fun data ↦ .transmit memory (rig.outbound tag inBand data)
  | .receive id payload control =>
    payload.bytes.toOption.map fun data ↦ .receive id (inbound data) control
  | .flowControl id engage => some (.setFlowControl id engage)
  | .drain _ => none
  | .mtu mtu => some (.changeMtu mtu)
  | .openUp => some .openUp
  | .stop => some .stop

/-- A step that is an operation of the device does what the operation does. -/
theorem snd_perform_of_some {operation : Device.Operation}
    (h : rig.operation? memory step = some operation) :
    (rig.perform memory step).2 = (rig.act (.device operation)).2 := by
  cases step with
  | transmit tag payload inBand =>
    cases hbytes : payload.bytes with
    | error fault =>
      rw [operation?, hbytes] at h
      cases h
    | ok data =>
      rw [operation?, hbytes] at h
      cases h
      simp only [perform, hbytes, snd_conclude]
      rfl
  | receive id payload control =>
    cases hbytes : payload.bytes with
    | error fault =>
      rw [operation?, hbytes] at h
      cases h
    | ok data =>
      rw [operation?, hbytes] at h
      cases h
      simp only [perform, hbytes, snd_conclude]
      exact (heed_nil _).symm
  | drain tag => cases h
  | stop =>
    cases h
    exact (heed_nil _).symm
  | _ =>
    cases h
    simp only [perform, snd_conclude]
    exact (heed_nil _).symm

/-- A step that comes to no operation leaves the rig alone, unless it is a drain. -/
theorem perform_of_none (h : rig.operation? memory step = none)
    (hdrain : ∀ tag, step ≠ .drain tag) :
    ∃ fault, rig.perform memory step = (.error (.badPayload fault), rig) := by
  cases step with
  | transmit tag payload inBand =>
    cases hbytes : payload.bytes with
    | error fault => exact ⟨fault, by simp only [perform, hbytes]⟩
    | ok data =>
      rw [operation?, hbytes] at h
      cases h
  | receive id payload control =>
    cases hbytes : payload.bytes with
    | error fault => exact ⟨fault, by simp only [perform, hbytes]⟩
    | ok data =>
      rw [operation?, hbytes] at h
      cases h
  | drain tag => exact absurd rfl (hdrain tag)
  | _ => cases h

/-- What each update keeps, the counting of payloads keeps. -/
theorem countEach_induction {P : Rig → Prop} {id : SessionId}
    (update : ∀ rig bytes, P rig → P (rig.act (.device (.updateStats id bytes .uplink))).2)
    (payloads : List Bytes) {rig : Rig} (h : P rig) : P (rig.countEach id payloads).2 := by
  induction payloads generalizing rig with
  | nil => exact h
  | cons payload payloads ih =>
    have hfirst := update rig (UInt64.ofNat payload.length) h
    have hact : (rig.act (.device (.updateStats id (UInt64.ofNat payload.length) .uplink))).2 =
        (rig.apply (·.updateStats id (UInt64.ofNat payload.length) .uplink)).2 := heed_nil _
    rw [hact] at hfirst
    simp only [countEach]
    split
    next hrig =>
      rw [hrig] at hfirst
      exact hfirst
    next hrig =>
      rw [hrig] at hfirst
      exact ih hfirst

/-- What each loyal action keeps, a step keeps. -/
theorem perform_induction {P : Rig → Prop}
    (hact : ∀ (action : Action Collector) rig, action.isLoyal → P rig → P (rig.act action).2)
    (step : Step) {rig : Rig} (h : P rig) : P (rig.perform memory step).2 := by
  cases hoperation : rig.operation? memory step with
  | some operation =>
    rw [snd_perform_of_some hoperation]
    exact hact _ rig rfl h
  | none =>
    by_cases hdrain : ∃ tag, step = .drain tag
    · obtain ⟨tag, rfl⟩ := hdrain
      simp only [perform, snd_conclude, complete]
      split
      · exact h
      next entry _ =>
        have hdrained : P (rig.drain entry.session.channel).2 :=
          hact (.drain entry.session.channel) rig rfl h
        cases tag.toSession? with
        | none => exact hdrained
        | some id =>
          have hcounted := countEach_induction
            (fun rig bytes ↦ hact (.device (.updateStats id bytes .uplink)) rig rfl)
            (rig.drain entry.session.channel).1 hdrained
          simp only
          split <;>
          next hrig =>
            rw [hrig] at hcounted
            exact hcounted
    · obtain ⟨fault, hperform⟩ := perform_of_none hoperation fun tag htag ↦ hdrain ⟨tag, htag⟩
      rw [hperform]
      exact h

/-- What each loyal action keeps, a run of steps keeps. -/
theorem performAll_induction {P : Rig → Prop}
    (hact : ∀ (action : Action Collector) rig, action.isLoyal → P rig → P (rig.act action).2)
    (index : Nat) (steps : List Step) {rig : Rig} (h : P rig) :
    P (rig.performAll memory index steps).2 := by
  induction steps generalizing rig index with
  | nil => exact h
  | cons step steps ih => exact ih (index + 1) (perform_induction hact step h)

end ModemMux.Rig

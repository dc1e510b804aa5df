import ModemMux.Proofs.Loopback.Store
import ModemMux.Proofs.Registry.Outcome
import ModemMux.Testbed

/-!
# Requests that reach the modem

A testbed hands what is asked of the transport to its modem. `Adds` and `Removes` list what can
become of adding and removing a session over such a modem, whose ids always name channels: either
the modem stays as it is and so does the table, or both change.
-/

namespace ModemMux.Testbed

variable {η : Type} {r : Registry} {t t' : Testbed η} {tag : Tag} {channel : ChannelId}
  {payload : Bytes}

/-! ## Requests to the modem -/

/-- The testbed opens channels as its modem does. -/
theorem opens {answer : Except ChannelError ChannelId}
    (h : Transport.openChannel tag t = (answer, t')) :
    Loopback.Opens t.modem tag (answer, t'.modem) := by
  cases h
  exact Loopback.opens_openChannel t.modem tag

/-- The testbed closes channels as its modem does. -/
theorem closes {answer : Except ChannelError Unit}
    (h : Transport.closeChannel tag channel t = (answer, t')) :
    Loopback.Closes t.modem tag channel (answer, t'.modem) := by
  cases h
  exact Loopback.closes_closeChannel t.modem tag channel

/-- The testbed submits payloads as its modem does. -/
theorem submits {answer : Except ChannelError Submission} {signals : List Signal}
    (h : Transport.submit tag channel payload t = (answer, signals, t')) :
    Loopback.Submits t.modem tag channel payload (answer, signals, t'.modem) := by
  cases h
  exact Loopback.submits_submit t.modem tag channel payload

/-- The host is no concern of the modem. -/
theorem spares_host : Transport.Spares (Testbed.host : Testbed η → η) :=
  ⟨fun _ _ ↦ rfl, fun _ _ _ ↦ rfl, fun _ _ _ _ ↦ rfl⟩

theorem eq_of_modem_eq (hmodem : t'.modem = t.modem) (hhost : t'.host = t.host) : t' = t := by
  cases t
  cases t'
  cases hmodem
  cases hhost
  rfl

/-- A modem that hands a payload back hands back what it was given, and stays as it is. -/
theorem submit_retry {back : Bytes} {signals : List Signal}
    (h : Transport.submit tag channel payload t = (.ok (.retry back), signals, t')) :
    back = payload ∧ signals = [] ∧ t' = t := by
  have hhost := spares_host.submit tag channel payload t
  rw [h] at hhost
  obtain ⟨hback, hsignals, hmodem⟩ := (submits h).eq_of_retry
  exact ⟨hback, hsignals, eq_of_modem_eq hmodem hhost⟩

/-- A modem that refuses a request stays as it is. -/
theorem eq_of_openChannel_error {source : ChannelError}
    (h : Transport.openChannel tag t = (.error source, t')) : t' = t := by
  have hhost := spares_host.openChannel tag t
  rw [h] at hhost
  exact eq_of_modem_eq (opens h).eq_of_error hhost

/-- A closing that is refused changes nothing. -/
theorem eq_of_closeChannel_error {source : ChannelError}
    (h : Transport.closeChannel tag channel t = (.error source, t')) : t' = t := by
  have hhost := spares_host.closeChannel tag channel t
  rw [h] at hhost
  exact eq_of_modem_eq (closes h).eq_of_error hhost

/-- A submission that fails signals nothing, and changes nothing. -/
theorem eq_of_submit_error {source : ChannelError} {signals : List Signal}
    (h : Transport.submit tag channel payload t = (.error source, signals, t')) :
    signals = [] ∧ t' = t := by
  have hhost := spares_host.submit tag channel payload t
  rw [h] at hhost
  obtain ⟨hsignals, hmodem⟩ := (submits h).eq_of_error
  exact ⟨hsignals, eq_of_modem_eq hmodem hhost⟩

/-! ## Sessions that come and go -/

/-- What can become of adding a session. -/
inductive Adds (tag : Tag) (r : Registry) (t : Testbed η) :
    Except MuxError ChannelId × Registry × Testbed η → Prop
  | rejected {e : MuxError} {t' : Testbed η} (hmodem : t'.modem = t.modem) :
      Adds tag r t (.error e, r, t')
  | added {channel : ChannelId} {t' : Testbed η}
      (hopens : Loopback.Opens t.modem tag (.ok channel, t'.modem)) :
      Adds tag r t (.ok channel, r.insert tag channel, t')

theorem adds_add (tag : Tag) (r : Registry) (t : Testbed η) : Adds tag r t (r.add tag t) := by
  have hadds := Registry.adds_add tag r t
  generalize r.add tag t = outcome at hadds
  cases hadds with
  | invalidTag | sessionExists | full => exact .rejected rfl
  | refused _ _ _ hopen => exact .rejected (opens hopen).eq_of_error
  | unusable _ _ _ hopen hvalid =>
    rw [(opens hopen).isValid] at hvalid
    cases hvalid
  | added _ _ _ hopen _ => exact .added (opens hopen)

theorem Adds.config_eq {outcome : Except MuxError ChannelId × Registry × Testbed η}
    (h : Adds tag r t outcome) : outcome.2.2.modem.config = t.modem.config := by
  cases h with
  | rejected hmodem => exact congrArg _ hmodem
  | added hopens => exact hopens.config_eq

/-- A channel is refused only for want of permission or of ids. -/
theorem refusesOpens_or_full {tag' : Tag} {source : ChannelError}
    (hadd : (r.add tag t).1 = .error (.channelOpenFailed tag' source)) :
    t.modem.refusesOpens ∨ ∀ n < t.modem.idBound, t.modem.isOpen (.ofNat n) := by
  have hadds := Registry.adds_add tag r t
  generalize r.add tag t = outcome at hadd hadds
  cases hadds with
  | refused _ _ _ hopen => exact (opens hopen).refusesOpens_or_full
  | unusable _ _ _ hopen hvalid =>
    rw [(opens hopen).isValid] at hvalid
    cases hvalid
  | _ => cases hadd

/-- What can become of removing a session. -/
inductive Removes (tag : Tag) (r : Registry) (t : Testbed η) :
    Except MuxError Unit × Registry × Testbed η → Prop
  | rejected {e : MuxError} {t' : Testbed η} (hmodem : t'.modem = t.modem) :
      Removes tag r t (.error e, r, t')
  | removed {s : Session} {t' : Testbed η} (hs : r.find? tag = some s)
      (hcloses : Loopback.Closes t.modem tag s.channel (.ok (), t'.modem)) :
      Removes tag r t (.ok (), r.retire s, t')

theorem removes_remove (tag : Tag) (r : Registry) (t : Testbed η) :
    Removes tag r t (r.remove tag t) := by
  have hremoves := Registry.removes_remove tag r t
  generalize r.remove tag t = outcome at hremoves
  cases hremoves with
  | unknown | unusable => exact .rejected rfl
  | refused _ _ hclose => exact .rejected (closes hclose).eq_of_error
  | removed hs _ hclose => exact .removed hs (closes hclose)

variable {outcome : Except MuxError Unit × Registry × Testbed η}

theorem Removes.config_eq (h : Removes tag r t outcome) :
    outcome.2.2.modem.config = t.modem.config := by
  cases h with
  | rejected hmodem => exact congrArg _ hmodem
  | removed _ hcloses => exact hcloses.config_eq

/-- A removal opens no channel. -/
theorem Removes.channels_subset (h : Removes tag r t outcome) :
    outcome.2.2.modem.channels ⊆ t.modem.channels := by
  cases h with
  | rejected hmodem => exact hmodem ▸ List.Subset.refl _
  | removed _ hcloses => exact hcloses.channels_subset

end ModemMux.Testbed

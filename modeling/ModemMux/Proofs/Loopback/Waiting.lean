import Mathlib.Algebra.BigOperators.Group.List.Basic
import Mathlib.Algebra.GroupWithZero.Nat
import ModemMux.Proofs.Loopback.Store

/-!
# Payloads that wait in a modem

What waits on the channels of a modem grows by each payload that is taken, and shrinks by what is
drained and by what waits on a channel that is closed.
-/

namespace ModemMux.Loopback

variable {l : Loopback} {tag : Tag} {id : ChannelId} {c : OpenChannel}

/-- The number of payloads that wait on any channel. -/
def waiting (l : Loopback) : Nat := (l.channels.map (·.queue.length)).sum

theorem queued_of_channel? (hc : l.channel? id = some c) : l.queued id = c.queue.length := by
  rw [queued, hc]
  rfl

/-- The order of the channels does not count. -/
theorem waiting_of_perm {cs : List OpenChannel} (h : l.channels.Perm cs) :
    l.waiting = (cs.map (·.queue.length)).sum :=
  (h.map _).sum_eq

/-- The channel of an id apart from the others. -/
theorem Sound.exists_perm_cons (h : l.Sound) (hc : l.channel? id = some c) :
    ∃ rest, l.channels.Perm (c :: rest) ∧ ∀ d ∈ rest, d.id ≠ id := by
  have hperm := List.perm_cons_erase (mem_of_channel? hc)
  refine ⟨l.channels.erase c, hperm, fun d hd hid ↦ ?_⟩
  have hnodup := (hperm.map (·.id)).nodup_iff.1 h.nodup
  rw [List.map_cons, List.nodup_cons, id_of_channel? hc] at hnodup
  exact hnodup.1 (List.mem_map.2 ⟨d, hd, hid⟩)

/-- A change of one channel changes what waits by what it changes there. -/
theorem Sound.waiting_modify (h : l.Sound) (hc : l.channel? id = some c)
    (f : OpenChannel → OpenChannel) :
    (l.modify id f).waiting + c.queue.length = l.waiting + (f c).queue.length := by
  obtain ⟨rest, hperm, hrest⟩ := h.exists_perm_cons hc
  have hsame : rest.map (fun d ↦ if d.id == id then f d else d) = rest := by
    refine (List.map_congr_left fun d hd ↦ ?_).trans (List.map_id rest)
    simp [hrest d hd]
  have hchannels : (l.modify id f).channels.Perm (f c :: rest) := by
    have hmap := hperm.map fun d ↦ if d.id == id then f d else d
    rwa [List.map_cons, hsame, id_of_channel? hc, beq_self_eq_true, if_pos rfl] at hmap
  rw [waiting_of_perm hperm, waiting_of_perm hchannels, List.map_cons, List.map_cons,
    List.sum_cons, List.sum_cons]
  omega

/-- On a channel that was just opened nothing waits. -/
theorem Opens.waiting_eq {l' : Loopback} (h : Opens l tag (.ok id, l')) :
    l'.waiting = l.waiting := by
  cases h with
  | @opened n =>
    exact (waiting_of_perm (insertById_perm _ l.channels)).trans (Nat.zero_add _)

/-- What waits on a channel is lost when the channel is closed. -/
theorem Closes.waiting_add {l' : Loopback} (h : Closes l tag id (.ok (), l')) (hl : l.Sound) :
    l'.waiting + l.queued id = l.waiting := by
  cases h with
  | @closed c hc =>
    obtain ⟨rest, hperm, hrest⟩ := hl.exists_perm_cons hc
    have hchannels : (l.channels.filter (·.id != id)).Perm rest := by
      have hfilter := hperm.filter (·.id != id)
      have hself : rest.filter (·.id != id) = rest := by
        simpa [List.filter_eq_self] using hrest
      rwa [List.filter_cons_of_neg (by simp [id_of_channel? hc]), hself] at hfilter
    rw [queued_of_channel? hc, waiting_of_perm hperm, List.map_cons, List.sum_cons, Nat.add_comm]
    exact congrArg _ (waiting_of_perm hchannels)

/-- A payload waits from when it is taken. -/
theorem Submits.waiting_eq {payload : Bytes} {answer : Except ChannelError Submission}
    {signals : List Signal} {l' : Loopback} (h : Submits l tag id payload (answer, signals, l'))
    (hl : l.Sound) : l'.waiting = l.waiting + if answer = .ok .accepted then 1 else 0 := by
  cases h with
  | accepted _ hc =>
    have hmodify := hl.waiting_modify hc (·.push payload)
    rw [OpenChannel.queue_push, List.length_append, List.length_singleton] at hmodify
    rw [if_pos rfl]
    omega
  | _ => rfl

/-- What a drain takes no longer waits. -/
theorem waiting_drain (hl : l.Sound) (id : ChannelId) :
    (l.drain id).2.2.waiting + (l.drain id).1.length = l.waiting := by
  unfold drain
  split
  next => rfl
  next c hc => exact hl.waiting_modify hc (·.flush)

end ModemMux.Loopback

import ModemMux.Proofs.Counters
import ModemMux.Proofs.Registry.Outcome

/-!
# How a table comes from another

Whatever is asked of a table, few things happen to it: a session comes, a packet is counted, a
session is asked to stop or to restart, a session goes. `Evolves r gone counted r'` says that `r'`
has come from `r` by such changes, that the sessions `gone` were removed on the way, each listed as
it was just before, and that the packets `counted` were counted. Each request to a table evolves it
(`evolves_add` and the lemmas behind it), and what follows from an evolution follows of any run.
-/

namespace ModemMux.Registry

open Counters (Packet)

/-- A table that has come from another, with the sessions that were removed and the packets that
were counted on the way. -/
inductive Evolves (r : Registry) : List Session → List Packet → Registry → Prop
  | refl : Evolves r [] [] r
  | insert {gone : List Session} {counted : List Packet} {r' : Registry} {tag : Tag}
      {channel : ChannelId} (h : Evolves r gone counted r') (htag : tag.isSession)
      (hnew : tag ∉ r'.tags) (hroom : r'.length < r'.capacity) (hvalid : channel.isValid) :
      Evolves r gone counted (r'.insert tag channel)
  | count {gone : List Session} {counted : List Packet} {r' : Registry} {tag : Tag}
      {bytes : UInt64} {direction : Direction} (h : Evolves r gone counted r')
      (hlive : tag ∈ r'.tags) :
      Evolves r gone (counted ++ [⟨bytes, direction⟩]) (r'.count tag bytes direction).2
  | request {gone : List Session} {counted : List Packet} {r' : Registry} {tag : Tag}
      {engage : Bool} (h : Evolves r gone counted r') :
      Evolves r gone counted (r'.request tag engage).2
  | retire {gone : List Session} {counted : List Packet} {r' : Registry} {tag : Tag} {s : Session}
      (h : Evolves r gone counted r') (hs : r'.find? tag = some s) :
      Evolves r (gone ++ [s]) counted (r'.retire s)

variable {r r' r'' : Registry} {gone gone' : List Session} {counted counted' : List Packet}
  {tag : Tag} {bytes : UInt64} {direction : Direction} {engage : Bool}

namespace Evolves

theorem of_eq (h : r' = r) : Evolves r [] [] r' := by
  rw [h]
  exact .refl

/-- A change that follows another makes one change with it. -/
theorem trans (h : Evolves r gone counted r') (h' : Evolves r' gone' counted' r'') :
    Evolves r (gone ++ gone') (counted ++ counted') r'' := by
  induction h' with
  | refl =>
    rw [List.append_nil, List.append_nil]
    exact h
  | insert _ htag hnew hroom hvalid ih => exact ih.insert htag hnew hroom hvalid
  | count _ hlive ih =>
    rw [← List.append_assoc]
    exact ih.count hlive
  | request _ ih => exact ih.request
  | retire _ hs ih =>
    rw [← List.append_assoc]
    exact ih.retire hs

/-- No change of a table makes it unsound. -/
theorem sound (h : Evolves r gone counted r') (hr : r.Sound) : r'.Sound := by
  induction h with
  | refl => exact hr
  | insert _ htag hnew hroom hvalid ih => exact ih.insert htag hnew hroom hvalid
  | count _ _ ih => exact ih.count
  | request _ ih => exact ih.request
  | retire _ _ ih => exact ih.retire

/-- No change of a table changes how much it can hold. -/
theorem capacity_eq (h : Evolves r gone counted r') : r'.capacity = r.capacity := by
  induction h with
  | refl => rfl
  | insert _ _ _ _ _ ih => exact ih
  | count _ _ ih => exact capacity_count.trans ih
  | request _ ih => exact capacity_request.trans ih
  | retire _ _ ih => exact ih

end Evolves

/-! ## Requests to a table -/

/-- A packet is counted for a live session, and for no other. -/
theorem toBool_count : (r.count tag bytes direction).1.toBool = decide (tag ∈ r.tags) := by
  by_cases hlive : tag ∈ r.tags
  · rw [count_of_mem hlive, decide_eq_true hlive]
    rfl
  · rw [count_of_notMem hlive, decide_eq_false hlive]
    rfl

/-- Counting a packet is a change in which no session leaves. -/
theorem evolves_count (tag : Tag) (bytes : UInt64) (direction : Direction) (r : Registry) :
    Evolves r [] (if (r.count tag bytes direction).1.toBool then [⟨bytes, direction⟩] else [])
      (r.count tag bytes direction).2 := by
  rw [toBool_count]
  by_cases hlive : tag ∈ r.tags
  · rw [if_pos (decide_eq_true hlive)]
    exact Evolves.refl.count hlive
  · rw [if_neg (by simpa using hlive), count_of_notMem hlive]
    exact .refl

/-- Following a signal is a change in which no session leaves and nothing is counted. -/
theorem evolves_heed (signal : Signal) (r : Registry) : Evolves r [] [] (r.heed signal).2 := by
  unfold heed
  split
  · exact .refl
  · exact Evolves.refl.request

theorem evolves_heedAll (signals : List Signal) (r : Registry) :
    Evolves r [] [] (r.heedAll signals).2 := by
  induction signals generalizing r with
  | nil => exact .refl
  | cons signal signals ih => exact (evolves_heed signal r).trans (ih (r.heed signal).2)

variable {ω : Type} [Transport ω]

/-- Adding a session is a change in which none leaves and nothing is counted. -/
theorem evolves_add (tag : Tag) (r : Registry) (peers : ω) :
    Evolves r [] [] (r.add tag peers).2.1 := by
  have hadds := adds_add tag r peers
  generalize r.add tag peers = outcome at hadds
  cases hadds with
  | added htag hnew hroom _ hvalid => exact Evolves.refl.insert htag hnew hroom hvalid
  | _ => exact .refl

/-- The sessions that go when those of the given tags are removed one after the other, each as it
was just before. -/
def departures : List Tag → Registry → ω → List Session
  | [], _, _ => []
  | tag :: tags, r, peers =>
    match r.remove tag peers with
    | (answer, r', peers') =>
      (if answer.toBool then (r.find? tag).toList else []) ++ departures tags r' peers'

theorem departures_singleton (tag : Tag) (r : Registry) (peers : ω) :
    departures [tag] r peers =
      if (r.remove tag peers).1.toBool then (r.find? tag).toList else [] :=
  List.append_nil _

/-- Removing a session is a change in which it leaves, unless the transport refuses. -/
theorem evolves_remove (tag : Tag) (r : Registry) (peers : ω) :
    Evolves r (departures [tag] r peers) [] (r.remove tag peers).2.1 := by
  rw [departures_singleton]
  have hremoves := removes_remove tag r peers
  generalize r.remove tag peers = outcome at hremoves
  cases hremoves with
  | unknown | unusable | refused => exact .refl
  | removed hs =>
    simp only [Except.toBool, if_true, hs, Option.toList_some]
    exact Evolves.refl.retire hs

theorem evolves_removeEach (tags : List Tag) (r : Registry) (peers : ω) :
    Evolves r (departures tags r peers) [] (removeEach tags r peers).2.1 := by
  induction tags generalizing r peers with
  | nil => exact .refl
  | cons tag tags ih =>
    have hfirst := evolves_remove tag r peers
    rw [departures_singleton] at hfirst
    exact hfirst.trans (ih _ _)

end ModemMux.Registry

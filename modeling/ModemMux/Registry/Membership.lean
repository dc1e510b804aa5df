import ModemMux.Registry

/-!
# Adding and removing sessions

To add a session is to open a channel for its tag, to remove it is to close that channel. Where the
transport refuses, the table stays as it is.
-/

namespace ModemMux.Registry

variable {ω : Type} [Transport ω]

/-- The table with one more session, on an open channel. -/
def insert (tag : Tag) (channel : ChannelId) (r : Registry) : Registry :=
  { r with sessions := r.sessions ++ [.fresh r.issued tag channel], issued := r.issued + 1 }

/-- The table without one of its sessions, which loses its channel. -/
def retire (s : Session) (r : Registry) : Registry :=
  { r with sessions := r.sessions.eraseP (·.tag == s.tag), retired := s.unbind :: r.retired }

/-- The channel of a new session: an id below zero counts as a refusal. -/
def accept (tag : Tag) (channel : ChannelId) (r : Registry) :
    Except MuxError ChannelId × Registry :=
  if channel.isValid then (.ok channel, r.insert tag channel)
  else
    let reason := s!"transport returned channel id {channel.display}"
    (.error (.channelOpenFailed tag (.refused tag reason)), r)

/-- Adds a session. The transport is asked only if the tag is a session's, is not live and has
room. -/
def add (tag : Tag) (r : Registry) (peers : ω) : Except MuxError ChannelId × Registry × ω :=
  if tag.isSession = false then (.error (.invalidTag tag), r, peers)
  else if (r.find? tag).isSome then (.error (.sessionExists tag), r, peers)
  else if r.capacity ≤ r.length then (.error (.capacityExceeded r.capacity), r, peers)
  else match Transport.openChannel tag peers with
    | (.error source, peers) => (.error (.channelOpenFailed tag source), r, peers)
    | (.ok channel, peers) =>
      match r.accept tag channel with
      | (answer, r) => (answer, r, peers)

/-- Removes a session. One whose channel does not close stays in the table. -/
def remove (tag : Tag) (r : Registry) (peers : ω) : Except MuxError Unit × Registry × ω :=
  match r.find? tag with
  | none => (.error (.unknownSession tag), r, peers)
  | some s =>
    if s.channel.isValid = false then (.error (.invalidChannel tag), r, peers)
    else match Transport.closeChannel tag s.channel peers with
      | (.error source, peers) => (.error (.channelCloseFailed tag s.channel source), r, peers)
      | (.ok (), peers) => (.ok (), r.retire s, peers)

/-- Removes the sessions of the given tags one after the other, and says how many went. -/
def removeEach : List Tag → Registry → ω → Nat × Registry × ω
  | [], r, peers => (0, r, peers)
  | tag :: tags, r, peers =>
    match r.remove tag peers with
    | (answer, r, peers) =>
      match removeEach tags r peers with
      | (removed, r, peers) => (if answer.toBool then removed + 1 else removed, r, peers)

/-- Removes every session that can be removed. -/
def removeAll (r : Registry) (peers : ω) : Nat × Registry × ω := removeEach r.tags r peers

end ModemMux.Registry

import Vpsman.Lib.Machine
import Vpsman.Protocol.Transport

/-! # Two peers and the bytes between them

Each peer writes frames and reads those of the other. The network hands over any number of
the bytes that were written, in order; it can also hand over bytes that were never written, or
end the stream. A read that waits for bytes can be dropped and started again.
-/

namespace Vpsman.Protocol

open Vpsman.Lib

inductive Side where
  | client
  | server
  deriving Repr, DecidableEq

namespace Side

def peer : Side → Side
  | .client => .server
  | .server => .client

theorem peer_ne (side : Side) : side.peer ≠ side := by
  cases side <;> decide

theorem peer_peer (side : Side) : side.peer.peer = side := by
  cases side <;> rfl

theorem eq_or_eq_peer (actor side : Side) : actor = side ∨ actor = side.peer := by
  cases actor <;> cases side <;> decide

end Side

/-- A peer, with what it has done so far. -/
structure Endpoint (Cipher : Type) where
  stream : NoiseFrameStream Cipher
  /-- A call of `read_frame` waits for bytes. -/
  reading : Bool := false
  /-- Bytes it has written that have not arrived at the other peer. -/
  outgoing : List UInt8 := []
  /-- The frames it was told to write. -/
  written : List Frame := []
  writeErrors : List TransportError := []
  /-- The frames that `read_frame` has returned. -/
  returned : List Frame := []
  readErrors : List TransportError := []

variable {Cipher : Type}

namespace Endpoint

open NoiseFrameStream (Poll)

def writeFrame (noise : Noise Cipher) (endpoint : Endpoint Cipher) (frame : Frame) : Endpoint Cipher :=
  let (result, sent, stream) := endpoint.stream.writeFrame noise frame
  { endpoint with
    stream
    outgoing := endpoint.outgoing ++ sent
    written := endpoint.written ++ [frame]
    writeErrors := match result with
      | .ok () => endpoint.writeErrors
      | .error error => endpoint.writeErrors ++ [error] }

/-- Note what has become of a call of `read_frame`. -/
def settle (endpoint : Endpoint Cipher) : Poll × NoiseFrameStream Cipher → Endpoint Cipher
  | (.pending, stream) => { endpoint with stream, reading := true }
  | (.ready (.ok frame), stream) =>
    { endpoint with stream, reading := false, returned := endpoint.returned ++ [frame] }
  | (.ready (.error error), stream) =>
    { endpoint with stream, reading := false, readErrors := endpoint.readErrors ++ [error] }

def readFrame (noise : Noise Cipher) (endpoint : Endpoint Cipher) : Option (Endpoint Cipher) :=
  (endpoint.stream.call noise).map endpoint.settle

def receive (noise : Noise Cipher) (endpoint : Endpoint Cipher) (chunk : List UInt8) :
    Option (Endpoint Cipher) :=
  (endpoint.stream.wake noise chunk).map endpoint.settle

/-- `read_buf` has returned zero. -/
def endOfStream (endpoint : Endpoint Cipher) : Endpoint Cipher :=
  endpoint.settle
    (.ready (.error (.io "connection closed while reading Noise message")), endpoint.stream)

end Endpoint

abbrev Connection (Cipher : Type) := Side → Endpoint Cipher

inductive Action where
  | writeFrame (side : Side) (frame : Frame)
  | readFrame (side : Side)
  /-- The side gets this many of the bytes that its peer has written. -/
  | arrive (side : Side) (count : Nat)
  /-- The side drops the call that waits. -/
  | cancel (side : Side)
  /-- The side gets bytes that its peer did not write. -/
  | forge (side : Side) (bytes : List UInt8)
  | closed (side : Side)
  deriving Repr

/-- The side gets nothing but what its peer has written. -/
def Action.Unmodified (receiver : Side) : Action → Prop
  | .forge side _ => side ≠ receiver
  | .closed side => side ≠ receiver
  | .writeFrame .. | .readFrame .. | .arrive .. | .cancel .. => True

namespace Connection

/-- The connection after the handshakes. -/
def opened (transports : Side → TransportState Cipher) : Connection Cipher :=
  fun side => { stream := { transport := transports side } }

/-- Writing needs the stream that a waiting read borrows. -/
def step (noise : Noise Cipher) (connection : Connection Cipher) : Action → Option (Connection Cipher)
  | .writeFrame side frame =>
    if (connection side).reading then none
    else some (Function.update connection side ((connection side).writeFrame noise frame))
  | .readFrame side =>
    if (connection side).reading then none
    else ((connection side).readFrame noise).map (Function.update connection side)
  | .arrive side count =>
    let sender := connection side.peer
    if (connection side).reading ∧ 0 < count ∧ count ≤ sender.outgoing.length then
      let rest := Function.update connection side.peer
        { sender with outgoing := sender.outgoing.drop count }
      ((connection side).receive noise (sender.outgoing.take count)).map (Function.update rest side)
    else none
  | .cancel side =>
    if (connection side).reading then
      some (Function.update connection side { connection side with reading := false })
    else none
  | .forge side bytes =>
    if (connection side).reading ∧ bytes ≠ [] then
      ((connection side).receive noise bytes).map (Function.update connection side)
    else none
  | .closed side =>
    if (connection side).reading then
      some (Function.update connection side (connection side).endOfStream)
    else none

end Connection

/-- Per stream, each frame has a higher sequence number than those before it. -/
def Increasing (frames : List Frame) : Prop :=
  frames.Pairwise fun first second => first.streamId = second.streamId → first.seq < second.seq

namespace Endpoint

open NoiseFrameStream (Poll Carries Delivers)

variable {endpoint endpoint' : Endpoint Cipher} {noise : Noise Cipher}

/-! ## What an operation leaves alone -/

/-- Nothing has changed in what the other peer can get from this one. -/
structure SameSending (endpoint endpoint' : Endpoint Cipher) : Prop where
  cipher : endpoint'.stream.transport.sending = endpoint.stream.transport.sending
  outgoing : endpoint'.outgoing = endpoint.outgoing
  written : endpoint'.written = endpoint.written
  writeErrors : endpoint'.writeErrors = endpoint.writeErrors

/-- Nothing has changed in what this peer has got, except that a call may have been dropped. -/
structure SameReceiving (endpoint endpoint' : Endpoint Cipher) : Prop where
  cipher : endpoint'.stream.transport.receiving = endpoint.stream.transport.receiving
  wireReadBuf : endpoint'.stream.wireReadBuf = endpoint.stream.wireReadBuf
  plaintextBuf : endpoint'.stream.plaintextBuf = endpoint.stream.plaintextBuf
  seqs : endpoint'.stream.highestInboundSeq = endpoint.stream.highestInboundSeq
  reading : endpoint'.reading = true → endpoint.reading = true
  returned : endpoint'.returned = endpoint.returned
  readErrors : endpoint'.readErrors = endpoint.readErrors

theorem SameSending.refl : SameSending endpoint endpoint :=
  ⟨rfl, rfl, rfl, rfl⟩

theorem SameReceiving.refl : SameReceiving endpoint endpoint :=
  ⟨rfl, rfl, rfl, rfl, id, rfl, rfl⟩

theorem writeFrame_receiving (noise : Noise Cipher) (endpoint : Endpoint Cipher) (frame : Frame) :
    SameReceiving endpoint (endpoint.writeFrame noise frame) := by
  obtain ⟨sending, stream⟩ := endpoint.stream.writeFrame_stream
  have same : (endpoint.writeFrame noise frame).stream =
      { endpoint.stream with transport := { endpoint.stream.transport with sending } } := stream
  refine ⟨?_, ?_, ?_, ?_, id, rfl, rfl⟩
  all_goals rw [same]

variable {stream : NoiseFrameStream Cipher}

theorem settle_sending (outcome : endpoint.stream.Outcome poll stream) :
    SameSending endpoint (endpoint.settle (poll, stream)) := by
  cases outcome with
  | pending sending => exact ⟨sending, rfl, rfl, rfl⟩
  | failed _ sending => exact ⟨sending, rfl, rfl, rfl⟩
  | returned _ sending => exact ⟨sending, rfl, rfl, rfl⟩

/-! ## Stale frames -/

/-- The highest number of each stream is that of a frame returned, and none is above it. -/
structure Ordered (endpoint : Endpoint Cipher) : Prop where
  increasing : Increasing endpoint.returned
  covered : ∀ frame ∈ endpoint.returned, ∃ lastSeq,
    endpoint.stream.highestInboundSeq.lookup frame.streamId = some lastSeq ∧ frame.seq ≤ lastSeq
  reached : ∀ streamId lastSeq, endpoint.stream.highestInboundSeq.lookup streamId = some lastSeq →
    ∃ frame ∈ endpoint.returned, frame.streamId = streamId ∧ frame.seq = lastSeq
  drained : endpoint.reading = true → endpoint.stream.Drained

theorem Ordered.settle (ordered : endpoint.Ordered)
    (outcome : endpoint.stream.Outcome poll stream) : (endpoint.settle (poll, stream)).Ordered := by
  cases outcome with
  | pending _ seqs drained =>
    refine ⟨ordered.increasing, ?_, ?_, fun _ => drained⟩
    · exact seqs ▸ ordered.covered
    · exact seqs ▸ ordered.reached
  | failed _ _ seqs =>
    refine ⟨ordered.increasing, ?_, ?_, fun reading => nomatch reading⟩
    · exact seqs ▸ ordered.covered
    · exact seqs ▸ ordered.reached
  | returned frame _ later seqs =>
    have lookup (streamId : UInt32) : stream.highestInboundSeq.lookup streamId =
        if streamId = frame.streamId then some frame.seq
        else endpoint.stream.highestInboundSeq.lookup streamId := by
      rw [seqs, HashMap.lookup_insert_eq]
    refine ⟨?_, ?_, ?_, fun reading => nomatch reading⟩
    · refine List.pairwise_append.mpr ⟨ordered.increasing, List.pairwise_singleton _ _, ?_⟩
      intro earlier member other here same
      obtain rfl := List.mem_singleton.mp here
      obtain ⟨lastSeq, found, below⟩ := ordered.covered earlier member
      rw [same] at found
      exact UInt64.lt_of_le_of_lt below (later lastSeq found)
    · intro earlier member
      rcases List.mem_append.mp member with before | now
      · obtain ⟨lastSeq, found, below⟩ := ordered.covered earlier before
        by_cases same : earlier.streamId = frame.streamId
        · refine ⟨frame.seq, ?_, ?_⟩
          · exact (lookup _).trans (if_pos same)
          · rw [same] at found
            exact UInt64.le_of_lt (UInt64.lt_of_le_of_lt below (later lastSeq found))
        · exact ⟨lastSeq, ((lookup _).trans (if_neg same)).trans found, below⟩
      · obtain rfl := List.mem_singleton.mp now
        exact ⟨earlier.seq, (lookup _).trans (if_pos rfl), UInt64.le_refl _⟩
    · intro streamId lastSeq found
      have found := (lookup streamId).symm.trans found
      by_cases same : streamId = frame.streamId
      · rw [if_pos same, Option.some_inj] at found
        exact ⟨frame, List.mem_append_right _ List.mem_cons_self, same.symm, found⟩
      · rw [if_neg same] at found
        obtain ⟨earlier, member, facts⟩ := ordered.reached streamId lastSeq found
        exact ⟨earlier, List.mem_append_left _ member, facts⟩

theorem readFrame_eq_some (read : endpoint.readFrame noise = some endpoint') :
    ∃ poll stream, endpoint.stream.call noise = some (poll, stream) ∧
      endpoint.stream.Outcome poll stream ∧ endpoint' = endpoint.settle (poll, stream) := by
  rw [readFrame, Option.map_eq_some_iff] at read
  obtain ⟨⟨poll, stream⟩, called, rfl⟩ := read
  exact ⟨poll, stream, called, NoiseFrameStream.call_outcome called, rfl⟩

theorem receive_eq_some (drained : endpoint.stream.Drained)
    (received : endpoint.receive noise chunk = some endpoint') :
    ∃ poll stream, endpoint.stream.wake noise chunk = some (poll, stream) ∧
      endpoint.stream.Outcome poll stream ∧ endpoint' = endpoint.settle (poll, stream) := by
  rw [receive, Option.map_eq_some_iff] at received
  obtain ⟨⟨poll, stream⟩, woken, rfl⟩ := received
  exact ⟨poll, stream, woken, NoiseFrameStream.wake_outcome drained.plaintext woken, rfl⟩

theorem Ordered.congr (ordered : endpoint.Ordered) (same : SameReceiving endpoint endpoint') :
    endpoint'.Ordered := by
  refine ⟨?_, ?_, ?_, ?_⟩
  · rw [same.returned]
    exact ordered.increasing
  · rw [same.returned, same.seqs]
    exact ordered.covered
  · rw [same.returned, same.seqs]
    exact ordered.reached
  · intro reading
    obtain ⟨plaintext, wire⟩ := ordered.drained (same.reading reading)
    rw [← same.plaintextBuf] at plaintext
    rw [← same.wireReadBuf] at wire
    exact ⟨plaintext, wire⟩

/-! ## Frames under way -/

/-- What the second peer has not returned of the frames of the first is under way. -/
structure Delivering (noise : Noise Cipher) (paired : Cipher → Cipher → Prop)
    (sender receiver : Endpoint Cipher) : Prop where
  underWay : ∃ coming, sender.written = receiver.returned ++ coming ∧
    Carries noise paired sender.stream.transport.sending sender.outgoing receiver.stream coming
  writeErrors : sender.writeErrors = []
  readErrors : receiver.readErrors = []

/-- The frames can be written and are not stale. -/
structure Deliverable (frames : List Frame) : Prop where
  encodable : ∀ frame ∈ frames, frame.Encodable
  increasing : Increasing frames

theorem Deliverable.of_append (deliverable : Deliverable (frames ++ others)) : Deliverable frames :=
  ⟨fun frame member => deliverable.encodable frame (List.mem_append_left others member),
    (List.pairwise_append.mp deliverable.increasing).1⟩

variable {paired : Cipher → Cipher → Prop} {sender sender' receiver receiver' : Endpoint Cipher}

theorem Delivering.congr (delivering : Delivering noise paired sender receiver)
    (sending : SameSending sender sender') (receiving : SameReceiving receiver receiver') :
    Delivering noise paired sender' receiver' := by
  obtain ⟨coming, written, carried⟩ := delivering.underWay
  refine ⟨⟨coming, ?_, ?_⟩, ?_, ?_⟩
  · rw [sending.written, receiving.returned, written]
  · rw [sending.cipher, sending.outgoing]
    exact carried.congr receiving.cipher receiving.wireReadBuf receiving.plaintextBuf
  · rw [sending.writeErrors, delivering.writeErrors]
  · rw [receiving.readErrors, delivering.readErrors]

theorem Delivering.writeFrame (opens : noise.Opens paired)
    (delivering : Delivering noise paired sender receiver) (encodable : frame.Encodable) :
    Delivering noise paired (sender.writeFrame noise frame) receiver := by
  obtain ⟨coming, written, carried⟩ := delivering.underWay
  obtain ⟨sent, stream, wrote, carried'⟩ := carried.write opens encodable
  rw [Endpoint.writeFrame, wrote]
  refine ⟨⟨coming ++ [frame], ?_, carried'⟩, delivering.writeErrors, delivering.readErrors⟩
  rw [written, List.append_assoc]

/-- A call that is given the first of the frames under way returns it: its number is above
    those of the frames returned before. -/
theorem Ordered.accept (ordered : receiver.Ordered)
    (increasing : Increasing (receiver.returned ++ frame :: later))
    (seqs : stream.highestInboundSeq = receiver.stream.highestInboundSeq) :
    NoiseFrameStream.accept frame stream = (.ready (.ok frame), { stream with
      highestInboundSeq := stream.highestInboundSeq.insert frame.streamId frame.seq }) := by
  refine NoiseFrameStream.accept_later ?_
  intro lastSeq found
  rw [seqs] at found
  obtain ⟨earlier, member, sameStream, rfl⟩ := ordered.reached frame.streamId lastSeq found
  exact (List.pairwise_append.mp increasing).2.2 earlier member frame List.mem_cons_self sameStream

theorem Delivering.settle (ordered : receiver.Ordered)
    (written : sender.written = receiver.returned ++ coming) (increasing : Increasing sender.written)
    (writeErrors : sender.writeErrors = []) (readErrors : receiver.readErrors = [])
    (delivered : Delivers noise paired sender.stream.transport.sending sender.outgoing receiver.stream
      coming (some result)) : Delivering noise paired sender (receiver.settle result) := by
  generalize whole : some result = given at delivered
  cases delivered with
  | waits carried =>
    cases whole
    exact ⟨⟨coming, written, carried⟩, writeErrors, readErrors⟩
  | arrived first carried seqs =>
    rename_i frame later next
    subst first
    rw [ordered.accept (written ▸ increasing) seqs, Option.some_inj] at whole
    subst whole
    refine ⟨⟨later, ?_, carried.congr rfl rfl rfl⟩, writeErrors, readErrors⟩
    rw [written, List.append_cons]
    rfl

theorem Delivering.complete (delivering : Delivering noise paired sender receiver)
    (encodable : ∀ frame ∈ sender.written, frame.Encodable) (arrived : sender.outgoing = [])
    (drained : receiver.stream.Drained) : receiver.returned = sender.written := by
  obtain ⟨coming, written, carried⟩ := delivering.underWay
  rw [arrived] at carried
  have none : coming = [] := carried.none_left
    (fun frame member => encodable frame (written ▸ List.mem_append_right _ member)) drained
  rw [written, none, List.append_nil]

/-- Once all bytes have arrived, a call returns the next frame at once. -/
theorem Delivering.next (delivering : Delivering noise paired sender receiver) (ordered : receiver.Ordered)
    (deliverable : Deliverable sender.written) (arrived : sender.outgoing = [])
    (written : sender.written = receiver.returned ++ frame :: later) :
    ∃ receiver', receiver.readFrame noise = some receiver' ∧
      receiver'.returned = receiver.returned ++ [frame] := by
  obtain ⟨coming, split, carried⟩ := delivering.underWay
  obtain rfl : coming = frame :: later := List.append_cancel_left (split.symm.trans written)
  rw [arrived] at carried
  have encodable : ∀ other ∈ frame :: later, other.Encodable := fun other member =>
    deliverable.encodable other (written ▸ List.mem_append_right _ member)
  obtain ⟨⟨poll, stream⟩, called⟩ := Option.isSome_iff_exists.mp NoiseFrameStream.call_isSome
  have outcome := NoiseFrameStream.call_outcome called
  have delivered := carried.readFrame encodable (Nat.lt_succ_self _)
  change Delivers _ _ _ _ _ _ (receiver.stream.call noise) at delivered
  rw [called] at delivered
  refine ⟨receiver.settle (poll, stream), by rw [Endpoint.readFrame, called]; rfl, ?_⟩
  generalize whole : some (poll, stream) = given at delivered
  cases delivered with
  | waits carried =>
    cases whole
    cases outcome with
    | pending _ _ drained => cases carried.none_left encodable drained
  | arrived first _ seqs =>
    cases first
    rw [ordered.accept (written ▸ deliverable.increasing) seqs, Option.some_inj] at whole
    rw [whole]
    rfl

end Endpoint

namespace Connection

open Endpoint
open NoiseFrameStream (Poll Carries Delivers)

variable {noise : Noise Cipher} {connection connection' : Connection Cipher} {action : Action}

/-! ## Runs -/

/-- What a step means for the frames that one side sends to its peer. -/
inductive Effect (noise : Noise Cipher) (connection connection' : Connection Cipher) (action : Action)
    (side : Side) : Prop where
  | wrote (frame : Frame) (sender : connection' side = (connection side).writeFrame noise frame)
      (receiver : connection' side.peer = connection side.peer)
  | read {poll : Poll} {stream : NoiseFrameStream Cipher}
      (called : (connection side.peer).stream.call noise = some (poll, stream))
      (sender : connection' side = connection side)
      (receiver : connection' side.peer = (connection side.peer).settle (poll, stream))
  | arrived {poll : Poll} {stream : NoiseFrameStream Cipher} (chunk rest : List UInt8)
      (outgoing : (connection side).outgoing = chunk ++ rest)
      (reading : (connection side.peer).reading = true)
      (woken : (connection side.peer).stream.wake noise chunk = some (poll, stream))
      (sender : connection' side = { connection side with outgoing := rest })
      (receiver : connection' side.peer = (connection side.peer).settle (poll, stream))
  | modified {poll : Poll} {stream : NoiseFrameStream Cipher} (unasked : ¬ action.Unmodified side.peer)
      (outcome : (connection side.peer).stream.Outcome poll stream)
      (sender : connection' side = connection side)
      (receiver : connection' side.peer = (connection side.peer).settle (poll, stream))
  | apart (sender : SameSending (connection side) (connection' side))
      (receiver : SameReceiving (connection side.peer) (connection' side.peer))

theorem update_side :
    Function.update connection side endpoint side = endpoint ∧
      Function.update connection side endpoint side.peer = connection side.peer :=
  ⟨Function.update_self .., Function.update_of_ne side.peer_ne ..⟩

theorem update_peer :
    Function.update connection side.peer endpoint side = connection side ∧
      Function.update connection side.peer endpoint side.peer = endpoint :=
  ⟨Function.update_of_ne side.peer_ne.symm .., Function.update_self ..⟩

variable {side : Side}

theorem Effect.apart_side (sending : SameSending (connection side) endpoint) :
    Effect noise connection (Function.update connection side endpoint) action side := by
  obtain ⟨own, other⟩ := update_side
  refine .apart ?_ ?_
  · rw [own]
    exact sending
  · rw [other]
    exact .refl

theorem Effect.apart_peer (receiving : SameReceiving (connection side.peer) endpoint) :
    Effect noise connection (Function.update connection side.peer endpoint) action side := by
  obtain ⟨other, own⟩ := update_peer
  refine .apart ?_ ?_
  · rw [other]
    exact .refl
  · rw [own]
    exact receiving

theorem step_effect (ordered : ∀ side, (connection side).Ordered)
    (moved : step noise connection action = some connection') :
    Effect noise connection connection' action side := by
  cases action with
  | writeFrame actor frame =>
    rw [step, Option.ite_none_left_eq_some, Option.some_inj] at moved
    obtain ⟨_, rfl⟩ := moved
    rcases actor.eq_or_eq_peer side with rfl | rfl
    · obtain ⟨own, other⟩ := update_side
      exact .wrote frame own other
    · exact .apart_peer (writeFrame_receiving ..)
  | readFrame actor =>
    rw [step, Option.ite_none_left_eq_some, Option.map_eq_some_iff] at moved
    obtain ⟨_, endpoint, read, rfl⟩ := moved
    obtain ⟨poll, stream, called, outcome, rfl⟩ := readFrame_eq_some read
    rcases actor.eq_or_eq_peer side with rfl | rfl
    · exact .apart_side (settle_sending outcome)
    · obtain ⟨other, own⟩ := update_peer
      exact .read called other own
  | arrive actor count =>
    rw [step, Option.ite_none_right_eq_some, Option.map_eq_some_iff] at moved
    obtain ⟨⟨reading, _, _⟩, endpoint, received, rfl⟩ := moved
    obtain ⟨poll, stream, woken, outcome, rfl⟩ :=
      receive_eq_some ((ordered actor).drained reading) received
    rcases actor.eq_or_eq_peer side with rfl | rfl
    · refine .apart ?_ ?_
      · rw [Function.update_self]
        exact settle_sending outcome
      · rw [Function.update_of_ne actor.peer_ne, Function.update_self]
        exact ⟨rfl, rfl, rfl, rfl, id, rfl, rfl⟩
    · rw [side.peer_peer] at woken
      refine .arrived _ ((connection side).outgoing.drop count)
        (List.take_append_drop count _).symm reading woken ?_ ?_
      · rw [Function.update_of_ne side.peer_ne.symm, side.peer_peer, Function.update_self]
      · rw [Function.update_self]
  | cancel actor =>
    obtain ⟨_, rfl⟩ := guard_some moved
    rcases actor.eq_or_eq_peer side with rfl | rfl
    · exact .apart_side ⟨rfl, rfl, rfl, rfl⟩
    · exact .apart_peer ⟨rfl, rfl, rfl, rfl, (fun reading => nomatch reading), rfl, rfl⟩
  | forge actor =>
    rw [step, Option.ite_none_right_eq_some, Option.map_eq_some_iff] at moved
    obtain ⟨⟨reading, _⟩, endpoint, received, rfl⟩ := moved
    obtain ⟨poll, stream, _, outcome, rfl⟩ :=
      receive_eq_some ((ordered actor).drained reading) received
    rcases actor.eq_or_eq_peer side with rfl | rfl
    · exact .apart_side (settle_sending outcome)
    · obtain ⟨other, own⟩ := update_peer
      exact .modified (fun different => different rfl) outcome other own
  | closed actor =>
    obtain ⟨_, rfl⟩ := guard_some moved
    rcases actor.eq_or_eq_peer side with rfl | rfl
    · exact .apart_side (settle_sending (.failed _ rfl rfl))
    · obtain ⟨other, own⟩ := update_peer
      exact .modified (fun different => different rfl) (.failed _ rfl rfl) other own

theorem step_ordered (ordered : ∀ side, (connection side).Ordered)
    (moved : step noise connection action = some connection') (side : Side) :
    (connection' side).Ordered := by
  rw [← side.peer_peer]
  cases step_effect ordered moved with
  | wrote _ _ receiver => exact receiver ▸ ordered _
  | read called _ receiver =>
    rw [receiver]
    exact (ordered _).settle (NoiseFrameStream.call_outcome called)
  | arrived _ _ _ reading woken _ receiver =>
    rw [receiver]
    have drained := (ordered _).drained reading
    exact (ordered _).settle (NoiseFrameStream.wake_outcome drained.plaintext woken)
  | modified _ outcome _ receiver =>
    rw [receiver]
    exact (ordered _).settle outcome
  | apart _ receiver => exact (ordered _).congr receiver

theorem opened_ordered (transports : Side → TransportState Cipher) (side : Side) :
    (opened transports side).Ordered where
  increasing := .nil
  covered := fun _ member => absurd member List.not_mem_nil
  reached := fun _ _ found => nomatch found
  drained := fun reading => nomatch reading

variable {transports : Side → TransportState Cipher}

/-- What a peer has returned is in order in every run, whatever bytes it was given. -/
theorem run_ordered (ran : run (step noise) (opened transports) actions = some final) :
    ∀ side, (final side).Ordered := by
  have kept : ∀ connection action connection', (∀ side, (connection side : Endpoint Cipher).Ordered) →
      True → step noise connection action = some connection' → ∀ side, (connection' side).Ordered :=
    fun _ _ _ ordered _ moved => step_ordered ordered moved
  exact run_preserves kept (opened_ordered transports) (fun _ _ => trivial) ran

variable {paired : Cipher → Cipher → Prop} {side : Side}

theorem step_delivering (opens : noise.Opens paired) (ordered : ∀ side, (connection side).Ordered)
    (delivering : Deliverable (connection side).written →
      Delivering noise paired (connection side) (connection side.peer))
    (unmodified : action.Unmodified side.peer)
    (moved : step noise connection action = some connection')
    (deliverable : Deliverable (connection' side).written) :
    Delivering noise paired (connection' side) (connection' side.peer) := by
  cases step_effect ordered moved with
  | wrote frame sender receiver =>
    rw [sender] at deliverable
    have last : frame ∈ ((connection side).writeFrame noise frame).written :=
      List.mem_append_right _ List.mem_cons_self
    rw [sender, receiver]
    exact (delivering deliverable.of_append).writeFrame opens (deliverable.encodable frame last)
  | read called sender receiver =>
    rw [sender] at deliverable
    obtain ⟨⟨coming, written, carried⟩, writeErrors, readErrors⟩ := delivering deliverable
    have encodable : ∀ frame ∈ coming, frame.Encodable := fun frame member =>
      deliverable.encodable frame (written ▸ List.mem_append_right _ member)
    rw [sender, receiver]
    refine .settle (ordered _) written deliverable.increasing writeErrors readErrors ?_
    rw [← called]
    exact carried.readFrame encodable (Nat.lt_succ_self _)
  | arrived chunk _ outgoing _ woken sender receiver =>
    rw [sender] at deliverable
    obtain ⟨⟨coming, written, carried⟩, writeErrors, readErrors⟩ := delivering deliverable
    have encodable : ∀ frame ∈ coming, frame.Encodable := fun frame member =>
      deliverable.encodable frame (written ▸ List.mem_append_right _ member)
    rw [outgoing] at carried
    have delivered := carried.arrive.resume fun next carried shorter =>
      carried.readFrame encodable (Nat.lt_succ_of_lt shorter)
    change Delivers _ _ _ _ _ _ ((connection side.peer).stream.wake noise chunk) at delivered
    rw [woken] at delivered
    rw [sender, receiver]
    refine .settle (ordered _) ?_ ?_ ?_ readErrors (delivered.congr rfl)
    · exact written
    · exact deliverable.increasing
    · exact writeErrors
  | modified unasked => exact absurd unmodified unasked
  | apart sender receiver =>
    rw [sender.written] at deliverable
    exact (delivering deliverable).congr sender receiver

/-- What a side has written reaches its peer in every run that leaves the bytes as they are. -/
theorem run_delivering (opens : noise.Opens paired)
    (inStep : paired (transports side).sending (transports side.peer).receiving)
    (unmodified : ∀ action ∈ actions, action.Unmodified side.peer)
    (ran : run (step noise) (opened transports) actions = some final)
    (deliverable : Deliverable (final side).written) :
    Delivering noise paired (final side) (final side.peer) := by
  let inv (connection : Connection Cipher) := (∀ side, (connection side).Ordered) ∧
    (Deliverable (connection side).written →
      Delivering noise paired (connection side) (connection side.peer))
  have kept : ∀ connection action connection', inv connection → action.Unmodified side.peer →
      step noise connection action = some connection' → inv connection' :=
    fun _ _ _ holds unmodified moved =>
      ⟨step_ordered holds.1 moved, step_delivering opens holds.1 holds.2 unmodified moved⟩
  have start : inv (opened transports) :=
    ⟨opened_ordered transports, fun _ => ⟨⟨[], rfl, .fresh _ inStep⟩, rfl, rfl⟩⟩
  exact (run_preserves kept start unmodified ran).2 deliverable

theorem step_readFrame_isSome (idle : (connection side).reading = false) :
    (step noise connection (.readFrame side)).isSome := by
  obtain ⟨result, called⟩ := Option.isSome_iff_exists.mp NoiseFrameStream.call_isSome
  rw [step, if_neg (by rw [idle]; exact Bool.false_ne_true), Endpoint.readFrame, called]
  rfl

theorem step_arrive_isSome (reading : (connection side).reading = true) (positive : 0 < count)
    (present : count ≤ (connection side.peer).outgoing.length) :
    (step noise connection (.arrive side count)).isSome := by
  obtain ⟨result, woken⟩ := Option.isSome_iff_exists.mp NoiseFrameStream.wake_isSome
  rw [step, if_pos ⟨reading, positive, present⟩, Endpoint.receive, woken]
  rfl

/-- Frames that can be written, with increasing numbers on each stream, are returned by the
    other peer in the order of writing, none of them lost or changed, however their bytes were
    handed over and whichever reads were dropped; and no peer ever returns a stale frame. -/
theorem frames_delivered_in_order (noise : Noise Cipher) (transports : Side → TransportState Cipher)
    (actions : List Action) (final : Connection Cipher)
    (ran : run (step noise) (opened transports) actions = some final) (side : Side) :
    (∀ paired : Cipher → Cipher → Prop, noise.Opens paired →
      paired (transports side).sending (transports side.peer).receiving →
      (∀ action ∈ actions, action.Unmodified side.peer) →
      (∀ frame ∈ (final side).written, frame.Encodable) → Increasing (final side).written →
      (final side).writeErrors = [] ∧ (final side.peer).readErrors = [] ∧
      (final side.peer).returned <+: (final side).written ∧
      ((final side).outgoing = [] →
        ((final side.peer).reading = true → (final side.peer).returned = (final side).written) ∧
        ((final side.peer).reading = false →
          ∀ frame later, (final side).written = (final side.peer).returned ++ frame :: later →
          ∃ next, step noise final (.readFrame side.peer) = some next ∧
            (next side.peer).returned = (final side.peer).returned ++ [frame]))) ∧
    Increasing (final side).returned ∧
    ((final side).reading = false → (step noise final (.readFrame side)).isSome) ∧
    ((final side).reading = true → ∀ count, 0 < count → count ≤ (final side.peer).outgoing.length →
      (step noise final (.arrive side count)).isSome) := by
  have ordered := run_ordered ran
  refine ⟨?_, (ordered side).increasing, step_readFrame_isSome,
    fun reading _ => step_arrive_isSome reading⟩
  intro paired opens inStep unmodified encodable increasing
  have delivering := run_delivering opens inStep unmodified ran ⟨encodable, increasing⟩
  obtain ⟨coming, written, _⟩ := delivering.underWay
  refine ⟨delivering.writeErrors, delivering.readErrors, ⟨coming, written.symm⟩, ?_⟩
  intro arrived
  refine ⟨?_, ?_⟩
  · intro reading
    exact delivering.complete encodable arrived ((ordered side.peer).drained reading)
  intro idle frame later split
  obtain ⟨receiver, read, returned⟩ :=
    delivering.next (ordered side.peer) ⟨encodable, increasing⟩ arrived split
  refine ⟨Function.update final side.peer receiver, ?_, ?_⟩
  · rw [step, if_neg (by rw [idle]; exact Bool.false_ne_true), read]
    rfl
  · rw [update_peer.2, returned]

/-- A cipher that only counts: the number of the message is its tag. -/
def counting : Noise Nat where
  writeMessage := fun count payload room =>
    if payload.length + noiseTagOverhead ≤ room then
      some (payload ++ putBE noiseTagOverhead count, count + 1)
    else none
  readMessage := fun count message room =>
    let payload := message.take (message.length - noiseTagOverhead)
    if message = payload ++ putBE noiseTagOverhead count ∧ payload.length ≤ room then
      some (payload, count + 1)
    else none

theorem counting_opens : counting.Opens Eq where
  message := by
    rintro count _ rfl payload room fits bound
    have length : (payload ++ putBE noiseTagOverhead count).length =
        payload.length + noiseTagOverhead := by
      rw [List.length_append, length_putBE]
    have front : (payload ++ putBE noiseTagOverhead count).take
        ((payload ++ putBE noiseTagOverhead count).length - noiseTagOverhead) = payload := by
      rw [length, Nat.add_sub_cancel, List.take_left]
    refine ⟨payload ++ putBE noiseTagOverhead count, count + 1, count + 1, if_pos fits, length, ?_, rfl⟩
    change (if _ ∧ _ then some (_, count + 1) else none) = _
    rw [front, if_pos ⟨rfl, by omega⟩]

def countingTransports (_ : Side) : TransportState Nat := ⟨0, 0⟩

def firstSample : Frame := { kind := .telemetry, streamId := 1, seq := 1, payload := [] }

def secondSample : Frame := { kind := .command, streamId := 1, seq := 5, payload := [0x2a] }

/-- A read gets a first byte and is dropped; the next one gets the rest of both frames. -/
def sampleActions : List Action :=
  [.writeFrame .client firstSample, .readFrame .server, .arrive .server 1, .cancel .server,
    .writeFrame .client secondSample, .readFrame .server, .arrive .server 20, .arrive .server 64,
    .readFrame .server, .readFrame .server]

theorem sample_delivered :
    ∃ final, run (step counting) (opened countingTransports) sampleActions = some final ∧
      (final .client).written = [firstSample, secondSample] ∧
      (final .server).returned = [firstSample, secondSample] ∧ Increasing (final .server).returned := by
  have reached : ((run (step counting) (opened countingTransports) sampleActions).map fun final =>
      ((final .client).written, (final .client).outgoing, (final .server).reading)) =
      some ([firstSample, secondSample], [], true) := by decide +kernel
  obtain ⟨final, ran, facts⟩ := Option.map_eq_some_iff.mp reached
  obtain ⟨written, outgoing, reading⟩ : (final .client).written = [firstSample, secondSample] ∧
      (final .client).outgoing = [] ∧ (final .server).reading = true := by
    simpa using facts
  have encodable : ∀ frame ∈ (final .client).written, frame.Encodable := by
    rw [written]
    intro frame member
    rcases List.mem_cons.mp member with rfl | member
    · exact ⟨rfl, by decide, fun _ named => nomatch named⟩
    · rw [List.mem_singleton.mp member]
      exact ⟨rfl, by decide, fun _ named => nomatch named⟩
  have increasing : Increasing (final .client).written := by
    rw [written]
    exact List.pairwise_pair.mpr fun _ => by decide
  have unmodified : ∀ action ∈ sampleActions, action.Unmodified .server := by
    intro action member
    simp only [sampleActions, List.mem_cons, List.not_mem_nil, or_false] at member
    rcases member with rfl | rfl | rfl | rfl | rfl | rfl | rfl | rfl | rfl | rfl <;> trivial
  have delivered := (frames_delivered_in_order counting countingTransports sampleActions final ran
    .client).1 Eq counting_opens rfl unmodified encodable increasing
  have returned := (delivered.2.2.2 outgoing).1 reading
  have inOrder := (frames_delivered_in_order counting countingTransports sampleActions final ran
    .server).2.1
  exact ⟨final, ran, written, returned.trans written, inOrder⟩

/-- A kind that hides the code of a named one. -/
def hiddenKind : Frame := { kind := .unknown 1, streamId := 0, seq := 1, payload := [] }

def otherVersion : Frame := { version := 2, kind := .keepalive, streamId := 0, seq := 1, payload := [] }

/-- Such a kind comes back as the named one, and a frame of another version is not written. -/
theorem hidden_kind_comes_back_named :
    counting.Opens Eq ∧ hiddenKind.payload.length ≤ maxPayloadLen ∧
    otherVersion.payload.length ≤ maxPayloadLen ∧
    (∃ final, run (step counting) (opened countingTransports)
        [.writeFrame .client hiddenKind, .readFrame .server, .arrive .server 42, .readFrame .server] =
        some final ∧ (final .client).written = [hiddenKind] ∧ (final .client).outgoing = [] ∧
      (final .server).reading = true ∧ (final .server).returned = [{ hiddenKind with kind := .clientHello }]) ∧
    ∃ final, run (step counting) (opened countingTransports)
        [.writeFrame .client otherVersion, .readFrame .server] = some final ∧
      (final .client).written = [otherVersion] ∧ (final .client).outgoing = [] ∧
      (final .client).writeErrors = [.protocol (.unsupportedVersion 2)] ∧
      (final .server).reading = true ∧ (final .server).returned = [] := by
  refine ⟨counting_opens, by decide, by decide, ?_, ?_⟩
  · exact ⟨_, rfl, rfl, rfl, rfl, rfl⟩
  · exact ⟨_, rfl, rfl, rfl, rfl, rfl, rfl⟩

end Connection
end Vpsman.Protocol

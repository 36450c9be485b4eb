import Vpsman.Lib.HashMap
import Vpsman.Protocol.Tlv

/-! # Frames over a Noise transport

An encoded frame is cut into pieces, each piece is encrypted, and the ciphertexts go over the
wire behind their lengths. A reader stages wire bytes and decrypted bytes in two buffers that
outlive the call. The Noise cipher is a parameter.
-/

namespace Vpsman.Protocol

open Vpsman.Lib

def maxNoiseMessageLen : Nat := 65535

def maxNoisePlaintextChunk : Nat := 16 * 1024

def noiseTagOverhead : Nat := 16

inductive TransportError where
  | io (message : String)
  | noise
  | protocol (error : ProtocolError)
  | noiseMessageTooLarge (length : Nat)
  | staleFrame (streamId : UInt32) (seq lastSeq : UInt64)
  deriving Repr, DecidableEq

/-- The ciphers that a Noise implementation has for each direction. Both operations are given
    the room in the buffer for their output. -/
structure Noise (Cipher : Type) where
  writeMessage : Cipher → (payload : List UInt8) → (room : Nat) → Option (List UInt8 × Cipher)
  readMessage : Cipher → (message : List UInt8) → (room : Nat) → Option (List UInt8 × Cipher)

/-- What one cipher of a pair encrypts is decrypted by the other, in order. -/
structure Noise.Opens {Cipher : Type} (noise : Noise Cipher) (paired : Cipher → Cipher → Prop) : Prop where
  message : ∀ {sending receiving}, paired sending receiving → ∀ (payload : List UInt8) (room : Nat),
    payload.length + noiseTagOverhead ≤ room → room ≤ maxNoiseMessageLen →
    ∃ message sending' receiving', noise.writeMessage sending payload room = some (message, sending') ∧
      message.length = payload.length + noiseTagOverhead ∧
      noise.readMessage receiving message maxNoiseMessageLen = some (payload, receiving') ∧
      paired sending' receiving'

structure TransportState (Cipher : Type) where
  sending : Cipher
  receiving : Cipher
  deriving Repr, DecidableEq

structure NoiseFrameStream (Cipher : Type) where
  transport : TransportState Cipher
  wireReadBuf : List UInt8 := []
  plaintextBuf : List UInt8 := []
  highestInboundSeq : HashMap UInt32 UInt64 := ∅

/-! ## Writing -/

/-- The bytes that go over the wire for one message. -/
def writeNoiseMessage (message : List UInt8) : Except TransportError (List UInt8) :=
  if maxNoiseMessageLen < message.length then .error (.noiseMessageTooLarge message.length)
  else .ok (putBE 2 message.length ++ message)

variable {Cipher : Type}

namespace NoiseFrameStream

/-- Encrypt and write one piece after the other. What was written before an error stays
    written. -/
def writeChunks (noise : Noise Cipher) :
    List (List UInt8) → Cipher → Except TransportError Unit × List UInt8 × Cipher
  | [], sending => (.ok (), [], sending)
  | chunk :: chunks, sending =>
    match noise.writeMessage sending chunk (maxNoisePlaintextChunk + noiseTagOverhead) with
    | none => (.error .noise, [], sending)
    | some (message, sending) =>
      match writeNoiseMessage message with
      | .error error => (.error error, [], sending)
      | .ok record =>
        let (result, sent, sending) := writeChunks noise chunks sending
        (result, record ++ sent, sending)

/-- Returns the bytes written as well. -/
def writeFrame (noise : Noise Cipher) (stream : NoiseFrameStream Cipher) (frame : Frame) :
    Except TransportError Unit × List UInt8 × NoiseFrameStream Cipher :=
  match frame.encode [] with
  | .error error => (.error (.protocol error), [], stream)
  | .ok plaintext =>
    let (result, sent, sending) :=
      writeChunks noise (pieces maxNoisePlaintextChunk plaintext) stream.transport.sending
    (result, sent, { stream with transport := { stream.transport with sending } })

theorem writeFrame_stream (stream : NoiseFrameStream Cipher) :
    ∃ sending, (stream.writeFrame noise frame).2.2 =
      { stream with transport := { stream.transport with sending } } := by
  unfold writeFrame
  split
  · exact ⟨stream.transport.sending, rfl⟩
  · exact ⟨_, rfl⟩

/-! ## Reading -/

/-- A round of the loop that collects a message: the message, if the buffer has all of it. -/
def readNoiseMessageBuffered (wireReadBuf : List UInt8) :
    Except TransportError (Option (List UInt8)) × List UInt8 :=
  if 2 ≤ wireReadBuf.length then
    let len := getBE [wireReadBuf.getD 0 0, wireReadBuf.getD 1 0]
    if maxNoiseMessageLen < len then (.error (.noiseMessageTooLarge len), wireReadBuf)
    else
      let recordLen := 2 + len
      if recordLen ≤ wireReadBuf.length then
        let record := wireReadBuf.take recordLen
        (.ok (some (record.drop 2)), wireReadBuf.drop recordLen)
      else (.ok none, wireReadBuf)
  else (.ok none, wireReadBuf)

def validateInboundFrame (stream : NoiseFrameStream Cipher) (frame : Frame) :
    Except TransportError Unit × NoiseFrameStream Cipher :=
  let seen := { stream with
    highestInboundSeq := stream.highestInboundSeq.insert frame.streamId frame.seq }
  match stream.highestInboundSeq.lookup frame.streamId with
  | some lastSeq =>
    if frame.seq ≤ lastSeq then (.error (.staleFrame frame.streamId frame.seq lastSeq), stream)
    else (.ok (), seen)
  | none => (.ok (), seen)

/-- Where a call of `read_frame` is after the work it can do with the bytes it has. -/
inductive Poll where
  | pending
  | ready (result : Except TransportError Frame)
  deriving Repr

/-- The last part of a call: a frame is returned if it is not stale. -/
def accept (frame : Frame) (stream : NoiseFrameStream Cipher) : Poll × NoiseFrameStream Cipher :=
  match validateInboundFrame stream frame with
  | (.error error, stream) => (.ready (.error error), stream)
  | (.ok (), stream) => (.ready (.ok frame), stream)

/-- From the point where a call waits for bytes: look for a whole message, and go on with it
    decrypted. -/
def resume (noise : Noise Cipher)
    (readOn : NoiseFrameStream Cipher → Option (Poll × NoiseFrameStream Cipher))
    (stream : NoiseFrameStream Cipher) : Option (Poll × NoiseFrameStream Cipher) :=
  match readNoiseMessageBuffered stream.wireReadBuf with
  | (.error error, wireReadBuf) => some (.ready (.error error), { stream with wireReadBuf })
  | (.ok none, wireReadBuf) => some (.pending, { stream with wireReadBuf })
  | (.ok (some encrypted), wireReadBuf) =>
    match noise.readMessage stream.transport.receiving encrypted maxNoiseMessageLen with
    | none => some (.ready (.error .noise), { stream with wireReadBuf })
    | some (plaintext, receiving) =>
      readOn { stream with
        transport := { stream.transport with receiving }
        wireReadBuf
        plaintextBuf := stream.plaintextBuf ++ plaintext }

/-- The loop of `read_frame`, until it returns or waits for bytes. -/
def readFrame (noise : Noise Cipher) :
    (fuel : Nat) → NoiseFrameStream Cipher → Option (Poll × NoiseFrameStream Cipher)
  | 0, _ => none
  | fuel + 1, stream =>
    match Frame.decode stream.plaintextBuf with
    | (.error error, plaintextBuf) =>
      some (.ready (.error (.protocol error)), { stream with plaintextBuf })
    | (.ok (some frame), plaintextBuf) => some (accept frame { stream with plaintextBuf })
    | (.ok none, plaintextBuf) => resume noise (readFrame noise fuel) { stream with plaintextBuf }

/-- A call of `read_frame`. -/
def call (noise : Noise Cipher) (stream : NoiseFrameStream Cipher) :
    Option (Poll × NoiseFrameStream Cipher) :=
  readFrame noise (stream.wireReadBuf.length + 1) stream

/-- A waiting call gets bytes. -/
def wake (noise : Noise Cipher) (stream : NoiseFrameStream Cipher) (chunk : List UInt8) :
    Option (Poll × NoiseFrameStream Cipher) :=
  let stream := { stream with wireReadBuf := stream.wireReadBuf ++ chunk }
  resume noise (readFrame noise (stream.wireReadBuf.length + 1)) stream

/-! ## Messages on the wire -/

def records : Framing (List UInt8) UInt8 TransportError where
  encode := fun message => putBE 2 message.length ++ message
  decode := readNoiseMessageBuffered

theorem records_encode : records.encode message = putBE 2 message.length ++ message := rfl

theorem records_decode (wireReadBuf : List UInt8) :
    records.decode wireReadBuf = readNoiseMessageBuffered wireReadBuf := rfl

theorem writeNoiseMessage_ok (size : message.length ≤ maxNoiseMessageLen) :
    writeNoiseMessage message = .ok (records.encode message) := by
  rw [writeNoiseMessage, if_neg (Nat.not_lt.mpr size), records_encode]

/-- With the length of a message in front, the reader waits for the message and then takes it. -/
theorem readNoiseMessageBuffered_length {message : List UInt8}
    (size : message.length ≤ maxNoiseMessageLen) (rest : List UInt8) :
    readNoiseMessageBuffered (putBE 2 message.length ++ rest) =
      if message.length ≤ rest.length then
        (.ok (some (rest.take message.length)), rest.drop message.length)
      else (.ok none, putBE 2 message.length ++ rest) := by
  have small : message.length < 256 ^ 2 := Nat.lt_succ_of_le size
  have length : (putBE 2 message.length ++ rest).length = 2 + rest.length := by
    rw [List.length_append, length_putBE]
  have field : [(putBE 2 message.length ++ rest).getD 0 0, (putBE 2 message.length ++ rest).getD 1 0] =
      putBE 2 message.length := rfl
  have body (count : Nat) : (putBE 2 message.length ++ rest).drop (2 + count) = rest.drop count := by
    rw [← List.drop_drop, List.drop_left' (length_putBE 2 _)]
  unfold readNoiseMessageBuffered
  rw [if_pos (by omega)]
  dsimp only
  rw [field, getBE_putBE small, if_neg (Nat.not_lt.mpr size), length]
  by_cases whole : message.length ≤ rest.length
  · rw [if_pos (Nat.add_le_add_left whole 2), if_pos whole, body, List.drop_take,
      List.drop_left' (length_putBE 2 _), Nat.add_sub_cancel_left]
  · rw [if_neg whole, if_neg (by omega)]

theorem records_exact : records.Exact fun message => message.length ≤ maxNoiseMessageLen where
  inhabited := by
    intro message _ empty
    have length := congrArg List.length empty
    rw [records_encode, List.length_append, length_putBE, List.length_nil] at length
    omega
  empty := rfl
  whole := by
    intro message size rest
    have read := readNoiseMessageBuffered_length size (message ++ rest)
    rw [if_pos (by simp), List.take_left, List.drop_left] at read
    rw [records_decode, records_encode, List.append_assoc, read]
  partially := by
    intro message size part missing unfinished split
    rw [records_encode] at split
    rw [records_decode]
    have positive := List.length_pos_of_ne_nil unfinished
    have total := congrArg List.length split
    rw [List.length_append, List.length_append, length_putBE] at total
    by_cases short : 2 ≤ part.length
    · obtain ⟨rest, rfl⟩ : putBE 2 message.length <+: part :=
        List.prefix_of_prefix_length_le (List.prefix_append _ message)
          (split ▸ List.prefix_append part missing) (by rwa [length_putBE])
      have read := readNoiseMessageBuffered_length size rest
      rw [List.length_append, length_putBE] at total
      rwa [if_neg (by omega)] at read
    · rw [readNoiseMessageBuffered, if_neg short]

/-! ## What a call can do -/

/-- The buffers hold neither a whole frame nor a whole message. -/
structure Drained (stream : NoiseFrameStream Cipher) : Prop where
  plaintext : Frame.decode stream.plaintextBuf = (.ok none, stream.plaintextBuf)
  wire : readNoiseMessageBuffered stream.wireReadBuf = (.ok none, stream.wireReadBuf)

/-- The effect of a call on everything but the buffers. -/
inductive Outcome (stream : NoiseFrameStream Cipher) : Poll → NoiseFrameStream Cipher → Prop where
  | pending {stream'} (sending : stream'.transport.sending = stream.transport.sending)
      (seqs : stream'.highestInboundSeq = stream.highestInboundSeq) (drained : stream'.Drained) :
      Outcome stream .pending stream'
  | failed {stream'} (error : TransportError)
      (sending : stream'.transport.sending = stream.transport.sending)
      (seqs : stream'.highestInboundSeq = stream.highestInboundSeq) :
      Outcome stream (.ready (.error error)) stream'
  | returned {stream'} (frame : Frame)
      (sending : stream'.transport.sending = stream.transport.sending)
      (later : ∀ lastSeq, stream.highestInboundSeq.lookup frame.streamId = some lastSeq →
        lastSeq < frame.seq)
      (seqs : stream'.highestInboundSeq =
        stream.highestInboundSeq.insert frame.streamId frame.seq) :
      Outcome stream (.ready (.ok frame)) stream'

variable {poll : Poll}

theorem Outcome.congr {stream next stream' : NoiseFrameStream Cipher}
    (outcome : Outcome next poll stream')
    (sending : next.transport.sending = stream.transport.sending)
    (seqs : next.highestInboundSeq = stream.highestInboundSeq) : Outcome stream poll stream' := by
  cases outcome with
  | pending sending' seqs' drained => exact .pending (sending'.trans sending) (seqs'.trans seqs) drained
  | failed error sending' seqs' => exact .failed error (sending'.trans sending) (seqs'.trans seqs)
  | returned frame sending' later seqs' =>
    rw [seqs] at later seqs'
    exact .returned frame (sending'.trans sending) later seqs'

theorem readNoiseMessageBuffered_buffer {wireReadBuf buffer : List UInt8}
    (read : readNoiseMessageBuffered wireReadBuf = (.ok none, buffer)) : buffer = wireReadBuf := by
  unfold readNoiseMessageBuffered at read
  dsimp only at read
  split at read
  · split at read
    · cases (Prod.mk.inj read).1
    · split at read
      · cases (Prod.mk.inj read).1
      · exact (Prod.mk.inj read).2.symm
  · exact (Prod.mk.inj read).2.symm

theorem readNoiseMessageBuffered_shorter {wireReadBuf buffer message : List UInt8}
    (read : readNoiseMessageBuffered wireReadBuf = (.ok (some message), buffer)) :
    buffer.length < wireReadBuf.length := by
  unfold readNoiseMessageBuffered at read
  dsimp only at read
  split at read
  · split at read
    · cases (Prod.mk.inj read).1
    · split at read
      · obtain ⟨_, rfl⟩ := Prod.mk.inj read
        rw [List.length_drop]
        omega
      · cases (Prod.mk.inj read).1
  · cases (Prod.mk.inj read).1

theorem accept_outcome (frame : Frame) (stream : NoiseFrameStream Cipher) :
    Outcome stream (accept frame stream).1 (accept frame stream).2 := by
  unfold accept validateInboundFrame
  cases found : stream.highestInboundSeq.lookup frame.streamId with
  | none => exact .returned frame rfl (fun lastSeq seen => nomatch found.symm.trans seen) rfl
  | some lastSeq =>
    dsimp only
    by_cases stale : frame.seq ≤ lastSeq
    · rw [if_pos stale]
      exact .failed _ rfl rfl
    · rw [if_neg stale]
      refine .returned frame rfl ?_ rfl
      intro last seen
      cases found.symm.trans seen
      exact UInt64.not_le.mp stale

theorem accept_later {stream : NoiseFrameStream Cipher}
    (later : ∀ lastSeq, stream.highestInboundSeq.lookup frame.streamId = some lastSeq →
      lastSeq < frame.seq) :
    accept frame stream = (.ready (.ok frame), { stream with
      highestInboundSeq := stream.highestInboundSeq.insert frame.streamId frame.seq }) := by
  unfold accept validateInboundFrame
  cases found : stream.highestInboundSeq.lookup frame.streamId with
  | none => rfl
  | some lastSeq =>
    dsimp only
    rw [if_neg (UInt64.not_le.mpr (later lastSeq found))]

variable {stream stream' : NoiseFrameStream Cipher} {noise : Noise Cipher}
  {readOn : NoiseFrameStream Cipher → Option (Poll × NoiseFrameStream Cipher)}

theorem resume_outcome (waits : Frame.decode stream.plaintextBuf = (.ok none, stream.plaintextBuf))
    (goesOn : ∀ next, readOn next = some (poll, stream') → Outcome next poll stream')
    (resumed : resume noise readOn stream = some (poll, stream')) :
    Outcome stream poll stream' := by
  unfold resume at resumed
  split at resumed
  · cases resumed
    exact .failed _ rfl rfl
  next wireReadBuf read =>
    cases resumed
    obtain rfl := readNoiseMessageBuffered_buffer read
    exact .pending rfl rfl ⟨waits, read⟩
  · split at resumed
    · cases resumed
      exact .failed _ rfl rfl
    · exact (goesOn _ resumed).congr rfl rfl

theorem readFrame_outcome (read : readFrame noise fuel stream = some (poll, stream')) :
    Outcome stream poll stream' := by
  induction fuel generalizing stream with
  | zero => cases read
  | succ _ ih =>
    rw [readFrame] at read
    split at read
    · cases read
      exact .failed _ rfl rfl
    next frame plaintextBuf _ =>
      have outcome := accept_outcome frame { stream with plaintextBuf }
      rw [Option.some_inj.mp read] at outcome
      exact outcome.congr rfl rfl
    next plaintextBuf decoded =>
      obtain rfl := Frame.decode_buffer decoded (.inl rfl)
      exact resume_outcome decoded (fun next => ih) read

theorem resume_isSome
    (goesOn : ∀ next : NoiseFrameStream Cipher, next.wireReadBuf.length < stream.wireReadBuf.length →
      (readOn next).isSome) : (resume noise readOn stream).isSome := by
  unfold resume
  split
  · rfl
  · rfl
  next read =>
    split
    · rfl
    · exact goesOn _ (readNoiseMessageBuffered_shorter read)

theorem readFrame_isSome
    (enough : stream.wireReadBuf.length < fuel) : (readFrame noise fuel stream).isSome := by
  induction fuel generalizing stream with
  | zero => exact absurd enough (Nat.not_lt_zero _)
  | succ _ ih =>
    rw [readFrame]
    split
    · rfl
    · rfl
    · exact resume_isSome fun next shorter =>
        ih (Nat.lt_of_lt_of_le shorter (Nat.le_of_lt_succ enough))

theorem call_isSome : (stream.call noise).isSome :=
  readFrame_isSome (Nat.lt_succ_self _)

theorem wake_isSome : (stream.wake noise chunk).isSome :=
  resume_isSome fun _ shorter => readFrame_isSome (Nat.lt_succ_of_lt shorter)

theorem call_outcome (called : stream.call noise = some (poll, stream')) :
    Outcome stream poll stream' :=
  readFrame_outcome called

/-- A waiting call goes on like a new one: there was no frame to return before. -/
theorem wake_outcome (waits : Frame.decode stream.plaintextBuf = (.ok none, stream.plaintextBuf))
    (woken : stream.wake noise chunk = some (poll, stream')) : Outcome stream poll stream' := by
  let longer := { stream with wireReadBuf := stream.wireReadBuf ++ chunk }
  have outcome : Outcome longer poll stream' := resume_outcome waits (fun _ => readFrame_outcome) woken
  exact outcome.congr rfl rfl

/-! ## Messages under way -/

/-- The messages decrypt to the plaintext, and leave the cipher in its last state. -/
inductive Decrypts (noise : Noise Cipher) : Cipher → List (List UInt8) → List UInt8 → Cipher → Prop where
  | nil (cipher : Cipher) : Decrypts noise cipher [] [] cipher
  | cons {cipher next last : Cipher} {message payload plaintext : List UInt8}
      {messages : List (List UInt8)}
      (read : noise.readMessage cipher message maxNoiseMessageLen = some (payload, next))
      (rest : Decrypts noise next messages plaintext last) :
      Decrypts noise cipher (message :: messages) (payload ++ plaintext) last

theorem Decrypts.append (first : Decrypts noise cipher messages plaintext middle)
    (second : Decrypts noise middle others more last) :
    Decrypts noise cipher (messages ++ others) (plaintext ++ more) last := by
  induction first with
  | nil => exact second
  | cons read _ ih =>
    rw [List.append_assoc]
    exact .cons read (ih second)

/-- The frames are under way: their bytes are in the buffers of the reader or on the wire, and
    the messages with what is not decrypted yet are meant for the reader's cipher. -/
inductive Carries (noise : Noise Cipher) (paired : Cipher → Cipher → Prop) (sending : Cipher)
    (onWire : List UInt8) (stream : NoiseFrameStream Cipher) (frames : List Frame) : Prop where
  | intro {messages : List (List UInt8)} {plaintext : List UInt8} {last : Cipher}
      (decrypts : Decrypts noise stream.transport.receiving messages plaintext last)
      (inStep : paired sending last)
      (sizes : ∀ message ∈ messages, message.length ≤ maxNoiseMessageLen)
      (wire : stream.wireReadBuf ++ onWire = records.encodeAll messages)
      (whole : stream.plaintextBuf ++ plaintext = Frame.framing.encodeAll frames)

section

variable {noise : Noise Cipher} {paired : Cipher → Cipher → Prop} {sending last : Cipher}
  {onWire : List UInt8} {stream stream' : NoiseFrameStream Cipher} {frames : List Frame}

theorem Carries.fresh (transport : TransportState Cipher) (inStep : paired sending transport.receiving) :
    Carries noise paired sending [] { transport } [] :=
  .intro (.nil _) inStep (fun _ member => absurd member List.not_mem_nil) rfl rfl

theorem Carries.congr (carried : Carries noise paired sending onWire stream frames)
    (receiving : stream'.transport.receiving = stream.transport.receiving)
    (wireReadBuf : stream'.wireReadBuf = stream.wireReadBuf)
    (plaintextBuf : stream'.plaintextBuf = stream.plaintextBuf) :
    Carries noise paired sending onWire stream' frames := by
  obtain ⟨decrypts, inStep, sizes, wire, whole⟩ := carried
  rw [← receiving] at decrypts
  rw [← wireReadBuf] at wire
  rw [← plaintextBuf] at whole
  exact .intro decrypts inStep sizes wire whole

theorem Carries.arrive (carried : Carries noise paired sending (chunk ++ rest) stream frames) :
    Carries noise paired sending rest { stream with wireReadBuf := stream.wireReadBuf ++ chunk } frames := by
  obtain ⟨decrypts, inStep, sizes, wire, whole⟩ := carried
  rw [← List.append_assoc] at wire
  exact .intro decrypts inStep sizes wire whole

theorem writeChunks_decrypts (opens : noise.Opens paired)
    (inStep : paired sending last) (sizes : ∀ chunk ∈ chunks, chunk.length ≤ maxNoisePlaintextChunk) :
    ∃ messages sending' last',
      writeChunks noise chunks sending = (.ok (), records.encodeAll messages, sending') ∧
      Decrypts noise last messages chunks.flatten last' ∧ paired sending' last' ∧
      ∀ message ∈ messages, message.length ≤ maxNoiseMessageLen := by
  induction chunks generalizing sending last with
  | nil =>
    exact ⟨[], sending, last, rfl, .nil last, inStep, fun _ member => absurd member List.not_mem_nil⟩
  | cons chunk _ ih =>
    have size := sizes chunk List.mem_cons_self
    obtain ⟨message, sending₁, last₁, sealed, length, read, inStep₁⟩ := opens.message inStep chunk
      (maxNoisePlaintextChunk + noiseTagOverhead) (Nat.add_le_add_right size _) (by decide)
    obtain ⟨messages, sending₂, last₂, written, decrypts, inStep₂, sizes₂⟩ :=
      ih inStep₁ fun other member => sizes other (List.mem_cons_of_mem chunk member)
    have fits : message.length ≤ maxNoiseMessageLen := by
      rw [length]
      exact Nat.le_trans (Nat.add_le_add_right size _) (by decide)
    refine ⟨message :: messages, sending₂, last₂, ?_, .cons read decrypts, inStep₂, ?_⟩
    · rw [writeChunks, sealed]
      dsimp only
      rw [writeNoiseMessage_ok fits, written]
      rfl
    · intro other member
      rcases List.mem_cons.mp member with rfl | later
      · exact fits
      · exact sizes₂ other later

theorem Carries.write (opens : noise.Opens paired) {writer : NoiseFrameStream Cipher}
    (carried : Carries noise paired writer.transport.sending onWire stream frames)
    (encodable : frame.Encodable) :
    ∃ sent writer', writer.writeFrame noise frame = (.ok (), sent, writer') ∧
      Carries noise paired writer'.transport.sending (onWire ++ sent) stream (frames ++ [frame]) := by
  obtain ⟨decrypts, inStep, sizes, wire, whole⟩ := carried
  obtain ⟨messages, sending', last', written, decrypts', inStep', sizes'⟩ :=
    writeChunks_decrypts opens inStep
      fun chunk (member : chunk ∈ pieces maxNoisePlaintextChunk (Frame.framing.encode frame)) =>
        length_of_mem_pieces member
  rw [flatten_pieces (by decide)] at decrypts'
  let writer' := { writer with transport := { writer.transport with sending := sending' } }
  refine ⟨records.encodeAll messages, writer', ?_, .intro (decrypts.append decrypts') inStep' ?_ ?_ ?_⟩
  · rw [writeFrame, encodable.encode]
    dsimp only
    rw [List.nil_append, written]
  · intro message member
    rcases List.mem_append.mp member with before | now
    · exact sizes message before
    · exact sizes' message now
  · rw [← List.append_assoc, wire, Framing.encodeAll_append]
  · rw [← List.append_assoc, whole, Framing.encodeAll_append, Framing.encodeAll_singleton]

/-- What a call gets when nothing but the frames is on its way: it waits, or it has the first
    of them. -/
inductive Delivers (noise : Noise Cipher) (paired : Cipher → Cipher → Prop) (sending : Cipher)
    (onWire : List UInt8) (stream : NoiseFrameStream Cipher) (frames : List Frame) :
    Option (Poll × NoiseFrameStream Cipher) → Prop where
  | waits {next} (carried : Carries noise paired sending onWire next frames) :
      Delivers noise paired sending onWire stream frames (some (.pending, next))
  | arrived {frame later next} (first : frames = frame :: later)
      (carried : Carries noise paired sending onWire next later)
      (seqs : next.highestInboundSeq = stream.highestInboundSeq) :
      Delivers noise paired sending onWire stream frames (some (accept frame next))

theorem Delivers.congr (delivered : Delivers noise paired sending onWire stream' frames result)
    (seqs : stream'.highestInboundSeq = stream.highestInboundSeq) :
    Delivers noise paired sending onWire stream frames result := by
  cases delivered with
  | waits carried => exact .waits carried
  | arrived first carried seqs' => exact .arrived first carried (seqs'.trans seqs)

theorem Carries.resume (carried : Carries noise paired sending onWire stream frames)
    (goesOn : ∀ next, Carries noise paired sending onWire next frames →
      next.wireReadBuf.length < stream.wireReadBuf.length →
      Delivers noise paired sending onWire next frames (readOn next)) :
    Delivers noise paired sending onWire stream frames (resume noise readOn stream) := by
  obtain ⟨decrypts, inStep, sizes, wire, whole⟩ := carried
  rcases records_exact.next sizes wire with
    ⟨waits, _⟩ | ⟨message, later, rest, rfl, _, read, remaining⟩
  · rw [records_decode] at waits
    rw [NoiseFrameStream.resume, waits]
    exact .waits (.intro decrypts inStep sizes wire whole)
  · rw [records_decode] at read
    cases decrypts with
    | cons opened decrypts =>
      rename_i receiving payload plaintext
      rw [NoiseFrameStream.resume, read]
      dsimp only
      rw [opened]
      let next : NoiseFrameStream Cipher := { stream with
        transport := { stream.transport with receiving }
        wireReadBuf := rest
        plaintextBuf := stream.plaintextBuf ++ payload }
      have carried : Carries noise paired sending onWire next frames := by
        refine .intro decrypts inStep ?_ remaining ?_
        · exact fun other member => sizes other (List.mem_cons_of_mem message member)
        · rw [← whole, ← List.append_assoc]
      exact (goesOn next carried (readNoiseMessageBuffered_shorter read)).congr rfl

theorem Carries.readFrame (carried : Carries noise paired sending onWire stream frames)
    (encodable : ∀ frame ∈ frames, frame.Encodable) (enough : stream.wireReadBuf.length < fuel) :
    Delivers noise paired sending onWire stream frames (readFrame noise fuel stream) := by
  induction fuel generalizing stream with
  | zero => exact absurd enough (Nat.not_lt_zero _)
  | succ fuel ih =>
    have goesOn : Delivers noise paired sending onWire stream frames
        (NoiseFrameStream.resume noise (NoiseFrameStream.readFrame noise fuel) stream) :=
      carried.resume fun next carried shorter =>
        ih carried (Nat.lt_of_lt_of_le shorter (Nat.le_of_lt_succ enough))
    obtain ⟨decrypts, inStep, sizes, wire, whole⟩ := carried
    rcases Frame.framing_exact.next encodable whole with
      ⟨waits, _⟩ | ⟨frame, later, rest, rfl, _, decoded, remaining⟩
    · rw [Frame.framing_decode] at waits
      rw [NoiseFrameStream.readFrame, waits]
      exact goesOn
    · rw [Frame.framing_decode] at decoded
      rw [NoiseFrameStream.readFrame, decoded]
      exact .arrived rfl (.intro decrypts inStep sizes wire remaining) rfl

/-- When the reader has worked through its buffers and the wire is empty, no frame is under
    way. -/
theorem Carries.none_left (carried : Carries noise paired sending [] stream frames)
    (encodable : ∀ frame ∈ frames, frame.Encodable) (drained : stream.Drained) : frames = [] := by
  obtain ⟨decrypts, inStep, sizes, wire, whole⟩ := carried
  rcases records_exact.next sizes wire with ⟨_, read⟩ | ⟨_, _, _, _, _, read, _⟩
  · obtain rfl := read rfl
    cases decrypts with
    | nil =>
      rcases Frame.framing_exact.next encodable whole with ⟨_, decoded⟩ | ⟨_, _, _, _, _, decoded, _⟩
      · exact decoded rfl
      · rw [Frame.framing_decode, drained.plaintext] at decoded
        cases (Prod.mk.inj decoded).1
  · rw [records_decode, drained.wire] at read
    cases (Prod.mk.inj read).1

end

end NoiseFrameStream
end Vpsman.Protocol

import Vpsman.Lib.Framing

/-! # Frames on the wire

A frame is a header of 24 bytes and a payload whose length the header gives. The decoder
works on a buffer that grows as bytes arrive.
-/

namespace Vpsman.Protocol

open Vpsman.Lib

/-- The text `VPSM`. -/
def magic : List UInt8 := [0x56, 0x50, 0x53, 0x4d]

def currentVersion : UInt8 := 1

def headerLen : Nat := 24

def maxPayloadLen : Nat := 16 * 1024 * 1024

inductive ProtocolError where
  | invalidMagic
  | unsupportedVersion (version : UInt8)
  | payloadTooLarge (length : Nat)
  | decompressedPayloadTooLarge (length : Nat)
  | compression (message : String)
  deriving Repr, DecidableEq

inductive MessageKind where
  | clientHello
  | serverHello
  | telemetry
  | command
  | commandAck
  | commandCancel
  | commandCancelAck
  | commandOutput
  | commandResume
  | terminalStreamOutput
  | agentSessionDisconnect
  | agentUpdateVerificationRequest
  | agentUpdateVerificationResult
  | terminalControl
  | terminalControlAck
  | fileChunk
  | configUpdate
  | keepalive
  | error
  | unknown (code : UInt16)
  deriving Repr, DecidableEq

namespace MessageKind

def fromU16 (value : UInt16) : MessageKind :=
  match value.toNat with
  | 1 => .clientHello
  | 2 => .serverHello
  | 16 => .telemetry
  | 32 => .command
  | 33 => .commandAck
  | 35 => .commandCancel
  | 37 => .commandCancelAck
  | 34 => .commandOutput
  | 38 => .commandResume
  | 36 => .terminalStreamOutput
  | 39 => .agentSessionDisconnect
  | 40 => .agentUpdateVerificationRequest
  | 41 => .agentUpdateVerificationResult
  | 42 => .terminalControl
  | 43 => .terminalControlAck
  | 48 => .fileChunk
  | 49 => .configUpdate
  | 64 => .keepalive
  | 255 => .error
  | _ => .unknown value

def asU16 : MessageKind → UInt16
  | .clientHello => 1
  | .serverHello => 2
  | .telemetry => 16
  | .command => 32
  | .commandAck => 33
  | .commandCancel => 35
  | .commandCancelAck => 37
  | .commandOutput => 34
  | .commandResume => 38
  | .terminalStreamOutput => 36
  | .agentSessionDisconnect => 39
  | .agentUpdateVerificationRequest => 40
  | .agentUpdateVerificationResult => 41
  | .terminalControl => 42
  | .terminalControlAck => 43
  | .fileChunk => 48
  | .configUpdate => 49
  | .keepalive => 64
  | .error => 255
  | .unknown code => code

/-- The code of an unknown kind is not the code of a named one. -/
def Canonical (kind : MessageKind) : Prop :=
  ∀ code, kind = .unknown code → fromU16 code = .unknown code

theorem fromU16_asU16 (canonical : kind.Canonical) : fromU16 kind.asU16 = kind := by
  cases kind with
  | unknown code => exact canonical code rfl
  | clientHello | serverHello | telemetry | command | commandAck | commandCancel | commandCancelAck
  | commandOutput | commandResume | terminalStreamOutput | agentSessionDisconnect
  | agentUpdateVerificationRequest | agentUpdateVerificationResult | terminalControl
  | terminalControlAck | fileChunk | configUpdate | keepalive | error => rfl

theorem asU16_fromU16 : (fromU16 value).asU16 = value := by
  have named {code : Nat} (same : value.toNat = code) : UInt16.ofNat code = value := by
    rw [← same, UInt16.ofNat_toNat]
  unfold fromU16
  split <;> rename_i same
  all_goals first
    | exact named same
    | rfl

theorem canonical_fromU16 : (fromU16 value).Canonical := by
  intro code unknown
  have same := congrArg asU16 unknown
  rw [asU16_fromU16] at same
  rw [← unknown]
  exact congrArg fromU16 same.symm

end MessageKind

structure Frame where
  version : UInt8 := currentVersion
  flags : UInt8 := 0
  kind : MessageKind
  streamId : UInt32
  seq : UInt64
  payload : List UInt8
  deriving Repr, DecidableEq

/-! ## Reading from the front of a buffer -/

def getU8 (src : List UInt8) : UInt8 × List UInt8 := (src.headD 0, src.tail)

def getU16 (src : List UInt8) : UInt16 × List UInt8 := (UInt16.ofNat (getBE (src.take 2)), src.drop 2)

def getU32 (src : List UInt8) : UInt32 × List UInt8 := (UInt32.ofNat (getBE (src.take 4)), src.drop 4)

def getU64 (src : List UInt8) : UInt64 × List UInt8 := (UInt64.ofNat (getBE (src.take 8)), src.drop 8)

theorem getU8_cons : getU8 (byte :: rest) = (byte, rest) := rfl

theorem getU16_putBE : getU16 (putBE 2 value.toNat ++ rest) = (value, rest) := by
  have fits : value.toNat < 256 ^ 2 := UInt16.toNat_lt value
  have width := length_putBE 2 value.toNat
  rw [getU16, List.take_left' width, List.drop_left' width, getBE_putBE fits, UInt16.ofNat_toNat]

theorem getU32_putBE : getU32 (putBE 4 value.toNat ++ rest) = (value, rest) := by
  have fits : value.toNat < 256 ^ 4 := UInt32.toNat_lt value
  have width := length_putBE 4 value.toNat
  rw [getU32, List.take_left' width, List.drop_left' width, getBE_putBE fits, UInt32.ofNat_toNat]

theorem getU64_putBE : getU64 (putBE 8 value.toNat ++ rest) = (value, rest) := by
  have fits : value.toNat < 256 ^ 8 := UInt64.toNat_lt value
  have width := length_putBE 8 value.toNat
  rw [getU64, List.take_left' width, List.drop_left' width, getBE_putBE fits, UInt64.ofNat_toNat]

namespace Frame

def header (frame : Frame) : List UInt8 :=
  magic ++ [frame.version] ++ [frame.flags] ++ putBE 2 frame.kind.asU16.toNat ++
    putBE 4 frame.streamId.toNat ++ putBE 8 frame.seq.toNat ++ putBE 4 frame.payload.length

/-- Append the frame to what was written before. -/
def encode (frame : Frame) (dst : List UInt8) : Except ProtocolError (List UInt8) :=
  if frame.version ≠ currentVersion then .error (.unsupportedVersion frame.version)
  else if maxPayloadLen < frame.payload.length then .error (.payloadTooLarge frame.payload.length)
  else .ok (dst ++ frame.header ++ frame.payload)

/-- The part of `decode` behind its checks: read the fields one after the other. -/
def take (src : List UInt8) : Frame × List UInt8 :=
  let src := src.drop 4
  let (version, src) := getU8 src
  let (flags, src) := getU8 src
  let (kind, src) := getU16 src
  let (streamId, src) := getU32 src
  let (seq, src) := getU64 src
  let (payloadLen, src) := getU32 src
  let payload := src.take payloadLen.toNat
  (⟨version, flags, .fromU16 kind, streamId, seq, payload⟩, src.drop payloadLen.toNat)

/-- Take a frame off the front of the buffer, and return what is left of it. -/
def decode (src : List UInt8) : Except ProtocolError (Option Frame) × List UInt8 :=
  if src.length < headerLen then (.ok none, src)
  else if src.take 4 ≠ magic then (.error .invalidMagic, src)
  else
    let version := src.getD 4 0
    if version ≠ currentVersion then (.error (.unsupportedVersion version), src)
    else
      let payloadLen := getBE [src.getD 20 0, src.getD 21 0, src.getD 22 0, src.getD 23 0]
      if maxPayloadLen < payloadLen then (.error (.payloadTooLarge payloadLen), src)
      else if src.length < headerLen + payloadLen then (.ok none, src)
      else
        let (frame, src) := take src
        (.ok (some frame), src)

/-- The frame can be written, and its kind has only this form. -/
structure Encodable (frame : Frame) : Prop where
  version : frame.version = currentVersion
  size : frame.payload.length ≤ maxPayloadLen
  kind : frame.kind.Canonical

/-! ## Decoding what was encoded -/

theorem length_header (frame : Frame) : frame.header.length = headerLen := by
  simp [header, magic, headerLen]

variable {frame : Frame}

theorem payload_length_lt (size : frame.payload.length ≤ maxPayloadLen) :
    frame.payload.length < 256 ^ 4 := by
  unfold maxPayloadLen at size
  omega

theorem take_header (encodable : frame.Encodable) :
    take (frame.header ++ rest) =
      ({ frame with payload := rest.take frame.payload.length }, rest.drop frame.payload.length) := by
  have small := payload_length_lt encodable.size
  have fields : (frame.header ++ rest).drop 4 = frame.version :: frame.flags ::
      (putBE 2 frame.kind.asU16.toNat ++ (putBE 4 frame.streamId.toNat ++ (putBE 8 frame.seq.toNat ++
        (putBE 4 (UInt32.ofNat frame.payload.length).toNat ++ rest)))) := by
    rw [UInt32.toNat_ofNat_of_lt' small]
    simp [header, magic]
  rw [take, fields]
  simp only [getU8_cons, getU16_putBE, getU32_putBE, getU64_putBE,
    MessageKind.fromU16_asU16 encodable.kind]
  rw [UInt32.toNat_ofNat_of_lt' small]

theorem header_length :
    [(frame.header ++ rest).getD 20 0, (frame.header ++ rest).getD 21 0,
      (frame.header ++ rest).getD 22 0, (frame.header ++ rest).getD 23 0] =
      putBE 4 frame.payload.length := by
  obtain ⟨l₃, l₂, l₁, l₀, field⟩ : ∃ l₃ l₂ l₁ l₀, putBE 4 frame.payload.length = [l₃, l₂, l₁, l₀] :=
    ⟨_, _, _, _, rfl⟩
  have fields : frame.header = (magic ++ [frame.version] ++ [frame.flags] ++
      putBE 2 frame.kind.asU16.toNat ++ putBE 4 frame.streamId.toNat ++ putBE 8 frame.seq.toNat) ++
      [l₃, l₂, l₁, l₀] := by rw [header, field]
  simp [fields, field, magic, List.getElem?_append]

/-- With the header of a frame in front, the decoder waits for the payload and then takes it. -/
theorem decode_header (encodable : frame.Encodable) (rest : List UInt8) :
    decode (frame.header ++ rest) =
      if rest.length < frame.payload.length then (.ok none, frame.header ++ rest)
      else (.ok (some { frame with payload := rest.take frame.payload.length }),
        rest.drop frame.payload.length) := by
  have long : ¬ (frame.header ++ rest).length < headerLen := by
    rw [List.length_append, length_header]
    omega
  have front : (frame.header ++ rest).take 4 = magic := by simp [header, magic]
  have version : (frame.header ++ rest).getD 4 0 = currentVersion := by
    simp [header, magic, encodable.version]
  unfold decode
  rw [if_neg long, if_neg (not_not.mpr front)]
  rw [if_neg (not_not.mpr version), header_length,
    getBE_putBE (payload_length_lt encodable.size), if_neg (Nat.not_lt.mpr encodable.size),
    List.length_append, length_header]
  by_cases short : rest.length < frame.payload.length
  · rw [if_pos short, if_pos (Nat.add_lt_add_left short headerLen)]
  · rw [if_neg short, if_neg (by omega)]
    rw [take_header encodable]

def framing : Framing Frame UInt8 ProtocolError where
  encode := fun frame => frame.header ++ frame.payload
  decode := decode

theorem framing_encode : framing.encode frame = frame.header ++ frame.payload := rfl

theorem framing_decode : framing.decode src = decode src := rfl

/-- The decoder takes off exactly the frames that can be written. -/
theorem framing_exact : framing.Exact Encodable where
  inhabited := by
    intro frame _ empty
    have length := congrArg List.length empty
    rw [framing_encode, List.length_append, length_header, List.length_nil, headerLen] at length
    omega
  empty := rfl
  whole := by
    intro frame encodable rest
    have decoded := decode_header encodable (frame.payload ++ rest)
    rw [if_neg (by simp), List.take_left, List.drop_left] at decoded
    rw [framing_decode, framing_encode, List.append_assoc, decoded]
  partially := by
    intro frame encodable part missing unfinished split
    rw [framing_decode]
    by_cases short : part.length < headerLen
    · rw [decode, if_pos short]
    -- the header is complete, and the payload is not
    obtain ⟨rest, rfl, payload⟩ : ∃ rest, part = frame.header ++ rest ∧
        rest ++ missing = frame.payload := by
      rcases List.append_eq_append_iff.mp split with ⟨absent, here, there⟩ | ⟨rest, here, there⟩
      · have length := congrArg List.length here
        rw [length_header, List.length_append] at length
        obtain rfl : absent = [] := List.eq_nil_of_length_eq_zero (by omega)
        rw [List.append_nil] at here
        exact ⟨[], by rw [here, List.append_nil], there⟩
      · exact ⟨rest, here, there.symm⟩
    have decoded := decode_header encodable rest
    have positive := List.length_pos_of_ne_nil unfinished
    rwa [if_pos (by rw [← payload, List.length_append]; omega)] at decoded

theorem encode_eq_ok (encoded : frame.encode dst = .ok bytes) :
    frame.version = currentVersion ∧ frame.payload.length ≤ maxPayloadLen ∧
      bytes = dst ++ framing.encode frame := by
  unfold encode at encoded
  split at encoded
  · cases encoded
  next version =>
    split at encoded
    · cases encoded
    next size =>
      cases encoded
      exact ⟨not_not.mp version, Nat.not_lt.mp size, List.append_assoc _ _ _⟩

/-- What can be written is read back, with its kind in the form the receiver uses. -/
theorem decode_encode (encoded : frame.encode [] = .ok bytes) :
    decode bytes = (.ok (some { frame with kind := .fromU16 frame.kind.asU16 }), []) := by
  obtain ⟨version, size, rfl⟩ := encode_eq_ok encoded
  let named : Frame := { frame with kind := .fromU16 frame.kind.asU16 }
  have header : named.header = frame.header := by
    rw [Frame.header, MessageKind.asU16_fromU16]
    rfl
  have encodable : named.Encodable := ⟨version, size, MessageKind.canonical_fromU16⟩
  have decoded := framing_exact.whole named encodable []
  rwa [List.append_nil, framing_decode, framing_encode, header] at decoded

/-- A buffer from which no frame was taken is left as it was. -/
theorem decode_buffer (decoded : decode src = (result, buffer))
    (noFrame : result = .ok none ∨ ∃ error, result = .error error) : buffer = src := by
  unfold decode at decoded
  dsimp only at decoded
  -- the five ways out before a frame is taken
  iterate 5
    split at decoded
    · exact (Prod.mk.inj decoded).2.symm
  · obtain ⟨rfl, _⟩ := Prod.mk.inj decoded
    rcases noFrame with none | ⟨error, failed⟩
    · cases none
    · cases failed

/-! ## Streams of frames -/

/-- Write the frames one after the other. -/
def encodeAll (frames : List Frame) (dst : List UInt8) : Except ProtocolError (List UInt8) :=
  frames.foldlM (fun dst frame => frame.encode dst) dst

theorem Encodable.encode (encodable : frame.Encodable) (dst : List UInt8) :
    frame.encode dst = .ok (dst ++ framing.encode frame) := by
  rw [Frame.encode, if_neg (not_not.mpr encodable.version), if_neg (Nat.not_lt.mpr encodable.size),
    framing_encode, List.append_assoc]

theorem encodeAll_eq_ok (encoded : encodeAll frames dst = .ok bytes) :
    (∀ frame ∈ frames, frame.version = currentVersion ∧ frame.payload.length ≤ maxPayloadLen) ∧
      bytes = dst ++ framing.encodeAll frames := by
  induction frames generalizing dst with
  | nil =>
    cases encoded
    exact ⟨fun _ member => absurd member List.not_mem_nil, (List.append_nil _).symm⟩
  | cons frame _ ih =>
    rw [encodeAll, List.foldlM_cons] at encoded
    cases first : frame.encode dst with
    | error =>
      rw [first] at encoded
      cases encoded
    | ok =>
      rw [first] at encoded
      obtain ⟨version, size, rfl⟩ := encode_eq_ok first
      obtain ⟨others, rfl⟩ := ih encoded
      refine ⟨?_, ?_⟩
      · intro other member
        rcases List.mem_cons.mp member with rfl | later
        · exact ⟨version, size⟩
        · exact others other later
      · rw [List.append_assoc]
        rfl

/-- Frames that could be written come back one by one from any chunks of the bytes, with
    nothing left over; and a buffer from which no frame can be taken is left as it was. -/
theorem frames_survive_chunking :
    (∀ (frames : List Frame) (bytes : List UInt8) (chunks : List (List UInt8)),
      (∀ frame ∈ frames, frame.kind.Canonical) → encodeAll frames [] = .ok bytes →
      chunks.flatten = bytes → framing.receive [] chunks = some (.ok frames, [])) ∧
    ∀ (src buffer : List UInt8) (result : Except ProtocolError (Option Frame)),
      decode src = (result, buffer) → (result = .ok none ∨ ∃ error, result = .error error) →
      buffer = src := by
  refine ⟨?_, fun _ _ _ => decode_buffer⟩
  intro frames bytes chunks canonical encoded split
  obtain ⟨writable, same⟩ := encodeAll_eq_ok encoded
  have encodable : ∀ frame ∈ frames, frame.Encodable := by
    intro frame member
    obtain ⟨version, size⟩ := writable frame member
    exact ⟨version, size, canonical frame member⟩
  exact framing_exact.receive encodable framing_exact.empty (split.trans same)

/-- A keepalive, and a frame of a kind that is not named. -/
def sampleFrames : List Frame :=
  [{ kind := .keepalive, streamId := 0, seq := 1, payload := [] },
    { kind := .unknown 7, streamId := 3, seq := 2, payload := [0x68, 0x69] }]

/-- The bytes of the sample, cut within the first header and within the last payload. -/
def sampleChunks : List (List UInt8) :=
  [[0x56, 0x50, 0x53], [0x4d, 1, 0, 0, 64, 0, 0, 0, 0, 0, 0, 0, 0, 0, 0, 0, 1, 0, 0, 0, 0, 0x56, 0x50,
    0x53, 0x4d, 1, 0, 0, 7, 0, 0, 0, 3, 0, 0, 0, 0, 0, 0, 0, 2, 0, 0, 0, 2, 0x68], [], [0x69]]

theorem sample_survives_chunking :
    encodeAll sampleFrames [] = .ok sampleChunks.flatten ∧
      framing.receive [] sampleChunks = some (.ok sampleFrames, []) ∧
      ∀ buffer, decode [0x56, 0x50] = (.ok none, buffer) → buffer = [0x56, 0x50] := by
  have encoded : encodeAll sampleFrames [] = .ok sampleChunks.flatten := rfl
  have canonical : ∀ frame ∈ sampleFrames, frame.kind.Canonical := by
    intro frame member
    rcases List.mem_cons.mp member with rfl | member
    · exact fun _ named => nomatch named
    · rw [List.mem_singleton.mp member]
      intro code same
      injection same with same
      subst same
      rfl
  exact ⟨encoded, frames_survive_chunking.1 sampleFrames _ sampleChunks canonical encoded rfl,
    fun buffer decoded => frames_survive_chunking.2 _ buffer _ decoded (.inl rfl)⟩

theorem exists_header (long : headerLen ≤ src.length) (front : src.take 4 = magic) :
    ∃ (frame : Frame) (rest : List UInt8), src = frame.header ++ rest ∧ frame.kind.Canonical ∧
      frame.payload.length < 256 ^ 4 := by
  unfold headerLen at long
  obtain ⟨version, -, rest, fields, length⟩ := @exists_putBE 1 (src.drop 4) (by simp; omega)
  rw [List.length_drop] at length
  obtain ⟨flags, -, rest, rfl, length⟩ := @exists_putBE 1 rest (by omega)
  obtain ⟨kind, kindFits, rest, rfl, length⟩ := @exists_putBE 2 rest (by omega)
  obtain ⟨stream, streamFits, rest, rfl, length⟩ := @exists_putBE 4 rest (by omega)
  obtain ⟨seq, seqFits, rest, rfl, length⟩ := @exists_putBE 8 rest (by omega)
  obtain ⟨size, sizeFits, rest, rfl, length⟩ := @exists_putBE 4 rest (by omega)
  refine ⟨⟨.ofNat version, .ofNat flags, .fromU16 (.ofNat kind), .ofNat stream, .ofNat seq,
    .replicate size 0⟩, rest, ?_, MessageKind.canonical_fromU16, by simpa using sizeFits⟩
  rw [← List.take_append_drop 4 src, front, fields]
  simp [header, putBE, MessageKind.asU16_fromU16, UInt16.toNat_ofNat_of_lt' kindFits,
    UInt32.toNat_ofNat_of_lt' streamFits, UInt64.toNat_ofNat_of_lt' seqFits]

/-- The decoder takes nothing off a buffer but frames that can be written, as they are written. -/
theorem decode_takes (decoded : decode src = (.ok (some frame), rest)) :
    frame.Encodable ∧ framing.encode frame ++ rest = src := by
  unfold decode at decoded
  dsimp only at decoded
  split_ifs at decoded with short other version large part
  all_goals cases decoded
  obtain ⟨shape, after, rfl, canonical, fits⟩ := exists_header (not_lt.mp short) (not_not.mp other)
  have field : (shape.header ++ after).getD 4 0 = shape.version := by simp [header, magic]
  rw [field] at version
  rw [header_length, getBE_putBE fits] at large part
  rw [List.length_append, length_header] at part
  rw [take_header ⟨not_not.mp version, not_lt.mp large, canonical⟩]
  have length : (after.take shape.payload.length).length = shape.payload.length := by
    rw [List.length_take]
    omega
  refine ⟨⟨not_not.mp version, length.trans_le (not_lt.mp large), canonical⟩, ?_⟩
  simp [framing_encode, header, length]

/-- Whatever arrives, and in whatever chunks: the frames that are received can be written, and
    written one after the other they are the bytes that arrived, up to those left over. -/
theorem received_frames_encode (received : framing.receive [] chunks = some (.ok frames, rest)) :
    (∀ frame ∈ frames, frame.Encodable) ∧ framing.encodeAll frames ++ rest = chunks.flatten :=
  Framing.receive_takes decode_takes (decode_buffer · (.inl rfl)) received

theorem sample_encodes : framing.encodeAll sampleFrames ++ [0x56] = sampleChunks.flatten ++ [0x56] :=
  (@received_frames_encode (sampleChunks ++ [[0x56]]) _ _ rfl).2.trans rfl

end Frame
end Vpsman.Protocol

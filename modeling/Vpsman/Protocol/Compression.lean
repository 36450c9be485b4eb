import Vpsman.Protocol.Tlv

/-! # Compressed payloads

A sender compresses a payload when that makes it shorter. The limit on payloads is checked
for the bytes of a frame when it is written, and for the payload itself when it is read. The
compression is a parameter.
-/

namespace Vpsman.Protocol

open Vpsman.Lib

def flagCompressedLz4 : UInt8 := 0b0000_0001

/-- The functions of the compression library that store the length of the payload in front. -/
structure Lz4 where
  compressPrependSize : List UInt8 → List UInt8
  decompressSizePrepended : List UInt8 → Except String (List UInt8)

/-- The four bytes in front are the length, and what fits them is restored. -/
structure Lz4.Lawful (lz4 : Lz4) : Prop where
  size : ∀ payload : List UInt8,
    (lz4.compressPrependSize payload).take 4 = (putBE 4 payload.length).reverse
  inverse : ∀ payload : List UInt8, payload.length < 256 ^ 4 →
    lz4.decompressSizePrepended (lz4.compressPrependSize payload) = .ok payload

/-- The flags and the payload for a frame. -/
def maybeCompressPayload (lz4 : Lz4) (payload : List UInt8) (threshold : Nat) :
    Except ProtocolError (UInt8 × List UInt8) :=
  if payload.length < threshold then .ok (0, payload)
  else
    let compressed := lz4.compressPrependSize payload
    if payload.length ≤ compressed.length then .ok (0, payload)
    else .ok (flagCompressedLz4, compressed)

def decompressedLenPrefix (payload : List UInt8) : Except ProtocolError Nat :=
  if payload.length < 4 then .error (.compression "missing size prefix")
  else .ok (getBE (payload.take 4).reverse)

namespace Frame

def decodedPayload (lz4 : Lz4) (frame : Frame) : Except ProtocolError (List UInt8) :=
  if frame.flags &&& flagCompressedLz4 = 0 then .ok frame.payload
  else do
    let decompressedLen ← decompressedLenPrefix frame.payload
    if maxPayloadLen < decompressedLen then .error (.decompressedPayloadTooLarge decompressedLen)
    else (lz4.decompressSizePrepended frame.payload).mapError .compression

variable {lz4 : Lz4} {frame : Frame} {payload : List UInt8}

theorem decompressedLenPrefix_compressed (lawful : lz4.Lawful) (small : payload.length < 256 ^ 4) :
    decompressedLenPrefix (lz4.compressPrependSize payload) = .ok payload.length := by
  have size := lawful.size payload
  have long : ¬ (lz4.compressPrependSize payload).length < 4 := by
    have length := congrArg List.length size
    rw [List.length_take, List.length_reverse, length_putBE] at length
    omega
  rw [decompressedLenPrefix, if_neg long, size, List.reverse_reverse, getBE_putBE small]

theorem decodedPayload_compressed (lawful : lz4.Lawful) (small : payload.length < 256 ^ 4)
    (flags : frame.flags = flagCompressedLz4) (compressed : frame.payload = lz4.compressPrependSize payload) :
    frame.decodedPayload lz4 = if maxPayloadLen < payload.length then
      .error (.decompressedPayloadTooLarge payload.length) else .ok payload := by
  rw [decodedPayload, flags, if_neg (by decide), compressed,
    decompressedLenPrefix_compressed lawful small]
  rw [lawful.inverse payload small]
  rfl

/-- What the receiver makes of a frame that the sender could write. -/
theorem decodedPayload_sent (lawful : lz4.Lawful) (small : payload.length < 256 ^ 4)
    (sent : maybeCompressPayload lz4 payload threshold = .ok (frame.flags, frame.payload))
    (written : frame.payload.length ≤ maxPayloadLen) :
    frame.decodedPayload lz4 = if maxPayloadLen < payload.length then
      .error (.decompressedPayloadTooLarge payload.length) else .ok payload := by
  have plain (unchanged : Except.ok (0, payload) =
      (Except.ok (frame.flags, frame.payload) : Except ProtocolError _)) :
      frame.decodedPayload lz4 = if maxPayloadLen < payload.length then
        .error (.decompressedPayloadTooLarge payload.length) else .ok payload := by
    obtain ⟨flags, same⟩ := Prod.mk.inj (Except.ok.inj unchanged)
    rw [decodedPayload, ← flags, if_pos (by decide), same, if_neg (Nat.not_lt.mpr written)]
  unfold maybeCompressPayload at sent
  dsimp only at sent
  split at sent
  · exact plain sent
  split at sent
  · exact plain sent
  obtain ⟨flags, same⟩ := Prod.mk.inj (Except.ok.inj sent)
  exact decodedPayload_compressed lawful small flags.symm same.symm

/-- What the sender can put into a frame is what the receiver reads from it, compressed or not,
    exactly if the payload itself is within the limit. -/
theorem payload_read_back_iff (lz4 : Lz4) (lawful : lz4.Lawful) (payload : List UInt8)
    (threshold : Nat) (frame : Frame) (bytes : List UInt8) (small : payload.length < 2 ^ 32)
    (sent : maybeCompressPayload lz4 payload threshold = .ok (frame.flags, frame.payload))
    (encoded : frame.encode [] = .ok bytes) :
    (∃ received, decode bytes = (.ok (some received), []) ∧
      received.decodedPayload lz4 = .ok payload) ↔ payload.length ≤ maxPayloadLen := by
  let received : Frame := { frame with kind := .fromU16 frame.kind.asU16 }
  have read : received.decodedPayload lz4 = _ :=
    decodedPayload_sent lawful small sent (encode_eq_ok encoded).2.1
  rw [decode_encode encoded]
  constructor
  · rintro ⟨_, ⟨⟩, whole⟩
    by_contra beyond
    rw [read, if_pos (Nat.lt_of_not_le beyond)] at whole
    cases whole
  · intro within
    exact ⟨received, rfl, read.trans (if_neg (Nat.not_lt.mpr within))⟩

/-- A compression that leaves out payloads of zeros, of which the length says everything. -/
def zeroRuns : Lz4 where
  compressPrependSize := fun payload =>
    (putBE 4 payload.length).reverse ++ if payload.all (· = 0) then [] else payload
  decompressSizePrepended := fun bytes =>
    let rest := bytes.drop 4
    .ok (if rest = [] then List.replicate (getBE (bytes.take 4).reverse) 0 else rest)

theorem zeroRuns_lawful : zeroRuns.Lawful := by
  have width (payload : List UInt8) : (putBE 4 payload.length).reverse.length = 4 := by
    rw [List.length_reverse, length_putBE]
  refine ⟨fun payload => List.take_left' (width payload), ?_⟩
  intro payload small
  change Except.ok (if ((putBE 4 payload.length).reverse ++ _).drop 4 = [] then
    List.replicate (getBE (((putBE 4 payload.length).reverse ++ _).take 4).reverse) 0
    else ((putBE 4 payload.length).reverse ++ _).drop 4) = _
  rw [List.drop_left' (width payload), List.take_left' (width payload), List.reverse_reverse,
    getBE_putBE small]
  by_cases zeros : payload.all (· = 0) = true
  · have all : ∀ byte ∈ payload, byte = 0 := by simpa using zeros
    rw [if_pos zeros, if_pos rfl, ← List.eq_replicate_of_mem all]
  · have nonempty : payload ≠ [] := by
      rintro rfl
      exact zeros rfl
    rw [if_neg zeros, if_neg nonempty]

def sampleTelemetry : Frame :=
  { flags := flagCompressedLz4, kind := .telemetry, streamId := 0, seq := 1, payload := [8, 0, 0, 0] }

theorem sample_payload_read_back :
    ∃ received, decode (sampleTelemetry.header ++ [8, 0, 0, 0]) = (.ok (some received), []) ∧
      received.decodedPayload zeroRuns = .ok (List.replicate 8 0) :=
  (payload_read_back_iff zeroRuns zeroRuns_lawful (List.replicate 8 0) 8 sampleTelemetry _
    (by decide) rfl rfl).mpr (by decide)

def oversizedPayload : List UInt8 := List.replicate (maxPayloadLen + 1) 0

def oversizedTelemetry : Frame :=
  { sampleTelemetry with payload := (putBE 4 (maxPayloadLen + 1)).reverse }

/-- A payload one byte above the limit goes into a short frame, and the receiver refuses it. -/
theorem oversized_payload_refused :
    zeroRuns.Lawful ∧
    maybeCompressPayload zeroRuns oversizedPayload 1024 =
      .ok (oversizedTelemetry.flags, oversizedTelemetry.payload) ∧
    oversizedTelemetry.encode [] = .ok (oversizedTelemetry.header ++ oversizedTelemetry.payload) ∧
    decode (oversizedTelemetry.header ++ oversizedTelemetry.payload) =
      (.ok (some oversizedTelemetry), []) ∧
    oversizedTelemetry.decodedPayload zeroRuns =
      .error (.decompressedPayloadTooLarge (maxPayloadLen + 1)) := by
  have length : oversizedPayload.length = maxPayloadLen + 1 := List.length_replicate
  have compressed : zeroRuns.compressPrependSize oversizedPayload = oversizedTelemetry.payload := by
    have zeros : oversizedPayload.all (· = 0) = true := by simp [oversizedPayload]
    change (putBE 4 oversizedPayload.length).reverse ++ (if _ then _ else _) = _
    rw [if_pos zeros, List.append_nil, length]
    rfl
  have short : ¬ oversizedPayload.length ≤ oversizedTelemetry.payload.length := by
    rw [length]
    decide
  have small : oversizedPayload.length < 256 ^ 4 := by
    rw [length]
    decide
  have above : ¬ oversizedPayload.length < 1024 := by
    rw [length, maxPayloadLen]
    omega
  have encodable : oversizedTelemetry.Encodable :=
    ⟨rfl, by decide, fun _ named => nomatch named⟩
  have encoded := encodable.encode []
  refine ⟨zeroRuns_lawful, ?_, encoded, decode_encode encoded, ?_⟩
  · rw [maybeCompressPayload, if_neg above]
    rw [compressed, if_neg short]
    rfl
  · rw [decodedPayload_compressed zeroRuns_lawful small rfl compressed.symm, length,
      if_pos (Nat.lt_succ_self _)]

end Frame
end Vpsman.Protocol

import Mathlib.Algebra.Order.Ring.Int
import Mathlib.Data.List.Basic

/-! # Framing of items in a stream

A framing writes items one after the other and takes them off the front of a buffer that
may hold any part of what was written. If it recognises whole items and waits for the rest
of partial ones, then a receiver that works through its buffer after every chunk gets the
items back, however the stream was cut into chunks.
-/

namespace Vpsman.Lib

variable {α β ε : Type}

/-! ## Numbers in network order -/

/-- The last `width` bytes of a number, the most significant one first. -/
def putBE : (width : Nat) → (number : Nat) → List UInt8
  | 0, _ => []
  | width + 1, number => putBE width (number / 256) ++ [UInt8.ofNat number]

def getBE (bytes : List UInt8) : Nat :=
  bytes.foldl (fun number byte => number * 256 + byte.toNat) 0

@[simp] theorem length_putBE (width number : Nat) : (putBE width number).length = width := by
  induction width generalizing number with
  | zero => rfl
  | succ _ ih => simp [putBE, ih]

theorem getBE_putBE (fits : number < 256 ^ width) : getBE (putBE width number) = number := by
  induction width generalizing number with
  | zero =>
    exact (Nat.lt_one_iff.mp fits).symm
  | succ width ih =>
    have smaller : number / 256 < 256 ^ width := by
      rw [Nat.div_lt_iff_lt_mul (by decide)]
      rwa [Nat.pow_succ] at fits
    have start := ih smaller
    unfold getBE at start ⊢
    rw [putBE, List.foldl_append, start, List.foldl_cons, List.foldl_nil, UInt8.toNat_ofNat']
    omega

/-- Every buffer begins with a number. -/
theorem exists_putBE {src : List UInt8} (long : width ≤ src.length) :
    ∃ number < 256 ^ width, ∃ rest, src = putBE width number ++ rest ∧
      rest.length + width = src.length := by
  induction width with
  | zero => exact ⟨0, Nat.one_pos, src, rfl, rfl⟩
  | succ width ih =>
    obtain ⟨number, fits, _ | ⟨byte, rest⟩, rfl, length⟩ := ih (by omega)
    · rw [List.append_nil, length_putBE] at long
      omega
    have small := byte.toNat_lt
    have front : (number * 256 + byte.toNat) / 256 = number := by omega
    refine ⟨number * 256 + byte.toNat, by rw [Nat.pow_succ]; omega, rest, ?_, by simp_all; omega⟩
    simp [putBE, front]

/-! ## Pieces of bounded length -/

def piecesWithin (size : Nat) : (fuel : Nat) → List β → List (List β)
  | 0, _ => []
  | _, [] => []
  | fuel + 1, first :: rest =>
    (first :: rest).take size :: piecesWithin size fuel ((first :: rest).drop size)

/-- Cut a list into pieces of the given size, the last of which may be shorter. -/
def pieces (size : Nat) (list : List β) : List (List β) := piecesWithin size list.length list

theorem flatten_piecesWithin (positive : 0 < size) {list : List β}
    (enough : list.length ≤ fuel) : (piecesWithin size fuel list).flatten = list := by
  induction fuel generalizing list with
  | zero => exact (List.length_eq_zero_iff.mp (Nat.le_zero.mp enough)).symm
  | succ fuel ih =>
    cases list with
    | nil => rfl
    | cons first rest =>
      have shorter : ((first :: rest).drop size).length ≤ fuel := by
        rw [List.length_drop]
        omega
      rw [piecesWithin, List.flatten_cons, ih shorter, List.take_append_drop]

theorem flatten_pieces (positive : 0 < size) (list : List β) : (pieces size list).flatten = list :=
  flatten_piecesWithin positive (Nat.le_refl _)

theorem length_of_mem_pieces {list piece : List β} (member : piece ∈ pieces size list) :
    piece.length ≤ size := by
  unfold pieces at member
  generalize list.length = fuel at member
  induction fuel generalizing list with
  | zero => exact absurd member List.not_mem_nil
  | succ _ ih =>
    cases list with
    | nil => exact absurd member List.not_mem_nil
    | cons =>
      rcases List.mem_cons.mp member with rfl | later
      · exact List.length_take_le size _
      · exact ih later

/-! ## Framings -/

structure Framing (α β ε : Type) where
  encode : α → List β
  /-- What the front of the buffer holds, if it is complete, and the buffer afterwards. -/
  decode : List β → Except ε (Option α) × List β

namespace Framing

/-- Whole items are taken off the buffer, and for partial ones the buffer has to wait. -/
structure Exact (framing : Framing α β ε) (good : α → Prop) : Prop where
  inhabited : ∀ item, good item → framing.encode item ≠ []
  empty : framing.decode [] = (.ok none, [])
  whole : ∀ item, good item → ∀ rest,
    framing.decode (framing.encode item ++ rest) = (.ok (some item), rest)
  partially : ∀ item, good item → ∀ part missing, missing ≠ [] → part ++ missing = framing.encode item →
    framing.decode part = (.ok none, part)

def encodeAll (framing : Framing α β ε) (items : List α) : List β :=
  items.flatMap framing.encode

theorem encodeAll_append (framing : Framing α β ε) :
    framing.encodeAll (first ++ second) = framing.encodeAll first ++ framing.encodeAll second :=
  List.flatMap_append

theorem encodeAll_singleton (framing : Framing α β ε) :
    framing.encodeAll [item] = framing.encode item :=
  List.flatMap_singleton _ _

/-- Take items off the buffer until there is no whole one left. -/
def drain (framing : Framing α β ε) : (fuel : Nat) → List β → Option (Except ε (List α) × List β)
  | 0, _ => none
  | fuel + 1, buffer =>
    match framing.decode buffer with
    | (.error error, buffer) => some (.error error, buffer)
    | (.ok none, buffer) => some (.ok [], buffer)
    | (.ok (some item), buffer) =>
      (framing.drain fuel buffer).map fun (result, final) => (result.map (item :: ·), final)

/-- Append chunk after chunk to the buffer, draining it each time. -/
def receive (framing : Framing α β ε) :
    List β → List (List β) → Option (Except ε (List α) × List β)
  | buffer, [] => some (.ok [], buffer)
  | buffer, chunk :: chunks =>
    match framing.drain ((buffer ++ chunk).length + 1) (buffer ++ chunk) with
    | some (.ok items, buffer) =>
      (framing.receive buffer chunks).map fun (result, final) => (result.map (items ++ ·), final)
    | stopped => stopped

variable {framing : Framing α β ε} {good : α → Prop} {items : List α} {buffer missing : List β}

/-- What is at the front of a buffer that holds the first part of some items. -/
theorem Exact.next (framed : framing.Exact good) (allGood : ∀ item ∈ items, good item)
    (split : buffer ++ missing = framing.encodeAll items) :
    (framing.decode buffer = (.ok none, buffer) ∧ (missing = [] → items = [])) ∨
    ∃ item later rest, items = item :: later ∧ buffer = framing.encode item ++ rest ∧
      framing.decode buffer = (.ok (some item), rest) ∧ rest ++ missing = framing.encodeAll later := by
  cases items with
  | nil =>
    obtain ⟨rfl, _⟩ := List.append_eq_nil_iff.mp split
    exact .inl ⟨framed.empty, fun _ => rfl⟩
  | cons item later =>
    have goodItem := allGood item List.mem_cons_self
    rcases List.append_eq_append_iff.mp split with ⟨unsent, here, there⟩ | ⟨rest, here, there⟩
    · cases unsent with
      | nil =>
        -- the buffer holds exactly the first item
        rw [List.append_nil] at here
        refine .inr ⟨item, later, [], rfl, by rw [here, List.append_nil], ?_, there⟩
        have decoded := framed.whole item goodItem []
        rwa [List.append_nil, here] at decoded
      | cons next others =>
        refine .inl ⟨framed.partially item goodItem buffer _ (List.cons_ne_nil next others)
          here.symm, ?_⟩
        rintro rfl
        simp at there
    · refine .inr ⟨item, later, rest, rfl, here, ?_, there.symm⟩
      rw [here]
      exact framed.whole item goodItem rest

/-- Draining takes off the whole items and leaves a part of the next one. -/
theorem Exact.drain (framed : framing.Exact good) (allGood : ∀ item ∈ items, good item)
    (split : buffer ++ missing = framing.encodeAll items) (enough : buffer.length < fuel) :
    ∃ whole later rest, items = whole ++ later ∧
      framing.drain fuel buffer = some (.ok whole, rest) ∧
      framing.decode rest = (.ok none, rest) ∧ rest ++ missing = framing.encodeAll later := by
  induction fuel generalizing items buffer with
  | zero => exact absurd enough (Nat.not_lt_zero _)
  | succ fuel ih =>
    rw [Framing.drain]
    rcases framed.next allGood split with ⟨waits, _⟩ | ⟨item, later, rest, rfl, cut, decoded, left⟩
    · refine ⟨[], items, buffer, rfl, ?_, waits, split⟩
      rw [waits]
    have goodItem := allGood item List.mem_cons_self
    have shorter : rest.length < fuel := by
      have positive := List.length_pos_of_ne_nil (framed.inhabited item goodItem)
      rw [cut, List.length_append] at enough
      omega
    obtain ⟨whole, todo, final, rfl, drained, waits, remaining⟩ :=
      ih (fun other member => allGood other (List.mem_cons_of_mem item member)) left shorter
    refine ⟨item :: whole, todo, final, rfl, ?_, waits, remaining⟩
    rw [decoded]
    dsimp only
    rw [drained]
    rfl

/-- However the stream is cut into chunks, the receiver gets the items and nothing is left. -/
theorem Exact.receive (framed : framing.Exact good) (allGood : ∀ item ∈ items, good item)
    (waits : framing.decode buffer = (.ok none, buffer))
    (split : buffer ++ chunks.flatten = framing.encodeAll items) :
    framing.receive buffer chunks = some (.ok items, []) := by
  induction chunks generalizing items buffer with
  | nil =>
    rcases framed.next allGood split with ⟨_, done⟩ | ⟨item, later, rest, _, _, decoded, _⟩
    · obtain rfl := done rfl
      obtain ⟨rfl, _⟩ := List.append_eq_nil_iff.mp split
      rfl
    · rw [waits] at decoded
      cases (Prod.mk.inj decoded).1
  | cons _ _ ih =>
    rw [List.flatten_cons, ← List.append_assoc] at split
    obtain ⟨whole, later, rest, rfl, drained, waits, left⟩ :=
      framed.drain allGood split (Nat.lt_succ_self _)
    have received := ih (fun item member => allGood item (List.mem_append_right whole member))
      waits left
    rw [Framing.receive, drained]
    dsimp only
    rw [received]
    rfl

section

variable (takes : ∀ {src item rest}, framing.decode src = (.ok (some item), rest) →
    good item ∧ framing.encode item ++ rest = src)
  (waits : ∀ {src rest}, framing.decode src = (.ok none, rest) → rest = src)
include takes waits

theorem drain_takes (drained : framing.drain fuel buffer = some (.ok items, rest)) :
    (∀ item ∈ items, good item) ∧ framing.encodeAll items ++ rest = buffer := by
  induction fuel generalizing buffer items with
  | zero => cases drained
  | succ fuel ih =>
    rw [drain] at drained
    split at drained
    · cases drained
    next decoded =>
      cases drained
      exact ⟨by simp, waits decoded⟩
    next decoded =>
      obtain ⟨⟨_ | _, _⟩, more, ⟨⟩⟩ := Option.map_eq_some_iff.mp drained
      obtain ⟨first, rfl⟩ := takes decoded
      obtain ⟨later, rfl⟩ := ih more
      exact ⟨List.forall_mem_cons.mpr ⟨first, later⟩, by simp [encodeAll]⟩

/-- Whatever arrives, what is received and what is left over are the bytes that arrived. -/
theorem receive_takes (received : framing.receive buffer chunks = some (.ok items, rest)) :
    (∀ item ∈ items, good item) ∧ framing.encodeAll items ++ rest = buffer ++ chunks.flatten := by
  induction chunks generalizing buffer items with
  | nil =>
    cases received
    simp [encodeAll]
  | cons chunk chunks ih =>
    rw [receive] at received
    split at received
    next drained =>
      obtain ⟨⟨_ | _, _⟩, more, ⟨⟩⟩ := Option.map_eq_some_iff.mp received
      obtain ⟨first, split⟩ := drain_takes takes waits drained
      obtain ⟨later, joined⟩ := ih more
      refine ⟨List.forall_mem_append.mpr ⟨first, later⟩, ?_⟩
      rw [encodeAll_append, List.append_assoc, joined, ← List.append_assoc, split,
        List.append_assoc, List.flatten_cons]
    next stopped => exact absurd received (stopped _ _)

end

end Framing
end Vpsman.Lib

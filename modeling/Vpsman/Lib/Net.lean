import Mathlib.Data.List.Basic

/-! # Addresses, transports and port ranges -/

namespace Vpsman.Lib

inductive Family where
  | ipv4
  | ipv6
  deriving Repr, DecidableEq

inductive Transport where
  | tcp
  | udp
  deriving Repr, DecidableEq

def Transport.text : Transport → String
  | .tcp => "tcp"
  | .udp => "udp"

def Family.text : Family → String
  | .ipv4 => "ipv4"
  | .ipv6 => "ipv6"

inductive IpAddr where
  | v4 (address : BitVec 32)
  | v6 (address : BitVec 128)
  deriving Repr, DecidableEq

namespace IpAddr

def family : IpAddr → Family
  | .v4 _ => .ipv4
  | .v6 _ => .ipv6

def isUnspecified : IpAddr → Bool
  | .v4 address => address == 0
  | .v6 address => address == 0

/-- 127.0.0.0/8, or ::1. -/
def isLoopback : IpAddr → Bool
  | .v4 address => address >>> 24 == 127
  | .v6 address => address == 1

/-- 224.0.0.0/4, or ff00::/8. -/
def isMulticast : IpAddr → Bool
  | .v4 address => address >>> 28 == 0xe
  | .v6 address => address >>> 120 == 0xff

/-- 169.254.0.0/16, or fe80::/10. -/
def isLinkLocal : IpAddr → Bool
  | .v4 address => address >>> 16 == 0xa9fe
  | .v6 address => address >>> 118 == 0x3fa

/-- 255.255.255.255. -/
def isBroadcast : IpAddr → Bool
  | .v4 address => address == 0xffffffff
  | .v6 _ => false

/-- Four decimal numbers with dots. -/
def dotted (address : BitVec 32) : String :=
  ".".intercalate <| [24, 16, 8, 0].map fun shift => toString ((address >>> shift).toNat % 256)

def segments (address : BitVec 128) : List Nat :=
  [112, 96, 80, 64, 48, 32, 16, 0].map fun shift => (address >>> shift).toNat % 65536

def hexGroups (groups : List Nat) : String :=
  ":".intercalate <| groups.map fun group => String.ofList (Nat.toDigits 16 group)

/-- Start and length of the first longest run of zero groups from `index` on. -/
def longestZeroRun (groups : List Nat) (index : Nat) : Nat × Nat :=
  match groups with
  | [] => (index, 0)
  | group :: rest =>
    let here := ((group :: rest).takeWhile (· == 0)).length
    let later := longestZeroRun rest (index + 1)
    if later.2 ≤ here then (index, here) else later

/-- `Ipv6Addr` as it is displayed: the longest run of at least two zero groups is
    abbreviated, and an address that carries an IPv4 one shows it. -/
def colonHex (address : BitVec 128) : String :=
  if address >>> 32 == 0xffff then "::ffff:" ++ dotted (address.truncate 32)
  else
    let groups := segments address
    let (start, length) := longestZeroRun groups 0
    if 1 < length then
      hexGroups (groups.take start) ++ "::" ++ hexGroups (groups.drop (start + length))
    else hexGroups groups

def text : IpAddr → String
  | .v4 address => dotted address
  | .v6 address => colonHex address

end IpAddr

/-- The numbers from `start` to `end_`, both included. -/
structure Range where
  start : Nat
  end_ : Nat
  deriving Repr, DecidableEq

namespace Range

def Contains (range : Range) (number : Nat) : Prop := range.start ≤ number ∧ number ≤ range.end_

instance (range : Range) (number : Nat) : Decidable (range.Contains number) :=
  inferInstanceAs (Decidable (_ ∧ _))

def Overlaps (left right : Range) : Prop := left.start ≤ right.end_ ∧ right.start ≤ left.end_

instance (left right : Range) : Decidable (left.Overlaps right) :=
  inferInstanceAs (Decidable (_ ∧ _))

theorem Overlaps.symm {left right : Range} (overlaps : left.Overlaps right) : right.Overlaps left :=
  ⟨overlaps.2, overlaps.1⟩

theorem overlaps_of_contains {left right : Range} (inLeft : left.Contains number)
    (inRight : right.Contains number) : left.Overlaps right :=
  ⟨Nat.le_trans inLeft.1 inRight.2, Nat.le_trans inRight.1 inLeft.2⟩

end Range
end Vpsman.Lib

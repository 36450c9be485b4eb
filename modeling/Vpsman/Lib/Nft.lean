import Vpsman.Lib.Net

/-! # NAT tables of nftables

The part of the nft language that destination NAT programs use, with names of maps and
chains from arbitrary types, and what such a table does with the first packet of a flow.
A lookup that misses makes its statement not match; a NAT statement that matches ends the
evaluation of the hook; a chain that comes to its end returns to its caller.
-/

namespace Vpsman.Lib.Nft

/-- The elements of a map by what they map: a port to a chain to jump to, a port to a
    port, or a selector value to an endpoint. -/
inductive MapBody (Chain : Type) where
  | verdicts (elements : List (Range × Chain))
  | services (interval : Bool) (elements : List (Range × Nat))
  | endpoints (family : Family) (elements : List (Range × IpAddr × Nat))
  deriving Repr, DecidableEq

/-- Where a translation sends a packet: to an address, or to the host itself. -/
inductive NatTarget where
  | address (ip : IpAddr)
  | here
  deriving Repr, DecidableEq

inductive Selector where
  | numgenInc
  | numgenRandom
  | jhash (family : Family) (seed : Nat)
  deriving Repr, DecidableEq

inductive Statement (Map Chain : Type) where
  /-- `fib daddr type local jump chain`. -/
  | jumpIfLocal (chain : Chain)
  /-- `meta nfproto family transport dport vmap @map`. -/
  | dispatch (family : Family) (transport : Transport) (map : Map)
  /-- `counter`, and with `track` also `add @owned_flows`. -/
  | counter (track : Bool) (comment : String)
  /-- `transport dport { ranges }` and a translation that keeps the port. -/
  | nat (transport : Transport) (ranges : List Range) (target : NatTarget)
  /-- `meta l4proto transport` and a translation to the port `transport dport map @map`. -/
  | natMapped (transport : Transport) (target : NatTarget) (map : Map)
  /-- `meta l4proto transport` and a translation to `selector mod modulus map @map`. -/
  | natPool (transport : Transport) (family : Family) (selector : Selector) (modulus : Nat)
      (map : Map)
  /-- `ct id @owned_flows counter masquerade`. -/
  | masqueradeOwned
  deriving Repr, DecidableEq

inductive Hook where
  | prerouting
  | output
  | postrouting
  deriving Repr, DecidableEq

structure ChainBody (Map Chain : Type) where
  name : Chain
  hook : Option Hook
  statements : List (Statement Map Chain)
  deriving Repr, DecidableEq

structure Table (Map Chain : Type) where
  comment : String
  tracksFlows : Bool
  maps : List (Map × MapBody Chain)
  chains : List (ChainBody Map Chain)
  deriving Repr, DecidableEq

structure Packet where
  family : Family
  transport : Transport
  port : Nat
  /-- The destination address belongs to the host. -/
  toLocal : Bool
  /-- The number that `numgen` or `jhash` yields for the packet, before `mod`. -/
  draw : Nat
  deriving Repr, DecidableEq

structure Translation where
  target : NatTarget
  port : Nat
  deriving Repr, DecidableEq

/-- What was decided about the flow of a packet. -/
structure Flow where
  owned : Bool := false
  translation : Option Translation := none
  masqueraded : Bool := false
  deriving Repr, DecidableEq

inductive Outcome where
  /-- The end of the chain was reached. -/
  | next (flow : Flow)
  /-- A statement ended the evaluation of the hook. -/
  | verdict (flow : Flow)
  /-- The table refers to a map or chain it does not have, or nests too many jumps. -/
  | invalid
  deriving Repr, DecidableEq

/-- The value of the element that contains the key. -/
def lookup {α : Type} (elements : List (Range × α)) (key : Nat) : Option α :=
  (elements.find? fun element => element.1.Contains key).map (·.2)

theorem lookup_cons (value : α) :
    lookup ((range, value) :: rest) key =
      if range.Contains key then some value else lookup rest key := by
  by_cases contains : range.Contains key <;> simp [lookup, contains]

theorem find?_eq_some_of_unique {α : Type} {elements : List α} {p : α → Bool} {element : α}
    (member : element ∈ elements) (holds : p element)
    (unique : ∀ other ∈ elements, p other → other = element) : elements.find? p = some element := by
  cases found : elements.find? p with
  | none => exact absurd holds (by simpa using List.find?_eq_none.mp found element member)
  | some other =>
    rw [unique other (List.mem_of_find?_eq_some found) (List.find?_some found)]

theorem lookup_eq_some {elements : List (Range × α)}
    {value : α} (member : (range, value) ∈ elements) (contains : range.Contains key)
    (unique : ∀ element ∈ elements, element.1.Contains key → element.2 = value) :
    lookup elements key = some value := by
  unfold lookup
  cases found : elements.find? fun element => element.1.Contains key with
  | none =>
    have missed := List.find?_eq_none.mp found _ member
    exact absurd contains (by simpa using missed)
  | some element =>
    have inside := List.find?_some found
    rw [Option.map_some, unique element (List.mem_of_find?_eq_some found) (by simpa using inside)]

theorem lookup_eq_none {elements : List (Range × α)}
    (missed : ∀ element ∈ elements, ¬ element.1.Contains key) : lookup elements key = none := by
  rw [lookup, List.find?_eq_none.mpr fun element member => by simpa using missed element member]
  rfl

namespace Table

variable {Map Chain : Type} (table : Table Map Chain)

def map? [DecidableEq Map] (name : Map) : Option (MapBody Chain) :=
  (table.maps.find? fun entry => entry.1 = name).map (·.2)

def chain? [DecidableEq Chain] (name : Chain) : Option (ChainBody Map Chain) :=
  table.chains.find? fun chain => chain.name = name

/-- A translation of the flow, for packets of the family of the target address. -/
def translate (packet : Packet) (target : NatTarget) (port : Nat) (flow : Flow) : Outcome :=
  match target with
  | .address ip =>
    if packet.family = ip.family then .verdict { flow with translation := some ⟨target, port⟩ }
    else .next flow
  | .here => .verdict { flow with translation := some ⟨target, port⟩ }

section

variable [DecidableEq Map]

/-- One statement, given what a jump to a chain does. -/
def runStatement (call : Chain → Flow → Outcome) (packet : Packet) (flow : Flow) :
    Statement Map Chain → Outcome
  | .jumpIfLocal chain => if packet.toLocal then call chain flow else .next flow
  | .dispatch family transport map =>
    if packet.family = family ∧ packet.transport = transport then
      match table.map? map with
      | some (.verdicts elements) =>
        match lookup elements packet.port with
        | some chain => call chain flow
        | none => .next flow
      | _ => .invalid
    else .next flow
  | .counter track _ => .next { flow with owned := flow.owned || track }
  | .nat transport ranges target =>
    if packet.transport = transport ∧ ∃ range ∈ ranges, range.Contains packet.port then
      translate packet target packet.port flow
    else .next flow
  | .natMapped transport target map =>
    if packet.transport = transport then
      match table.map? map with
      | some (.services _ elements) =>
        match lookup elements packet.port with
        | some port => translate packet target port flow
        | none => .next flow
      | _ => .invalid
    else .next flow
  | .natPool transport _ _ modulus map =>
    if packet.transport = transport then
      match table.map? map with
      | some (.endpoints _ elements) =>
        match lookup elements (packet.draw % modulus) with
        | some (ip, port) => translate packet (.address ip) port flow
        | none => .next flow
      | _ => .invalid
    else .next flow
  | .masqueradeOwned => if flow.owned then .verdict { flow with masqueraded := true } else .next flow

def runStatements (call : Chain → Flow → Outcome) (packet : Packet) :
    List (Statement Map Chain) → Flow → Outcome
  | [], flow => .next flow
  | statement :: rest, flow =>
    match table.runStatement call packet flow statement with
    | .next flow => runStatements call packet rest flow
    | outcome => outcome

variable [DecidableEq Chain]

/-- A chain, with room for `depth` nested jumps. -/
def runChain (packet : Packet) : Nat → Chain → Flow → Outcome
  | 0, _, _ => .invalid
  | depth + 1, name, flow =>
    match table.chain? name with
    | some chain => table.runStatements (runChain packet depth) packet chain.statements flow
    | none => .invalid

/-- The size of the jump stack of the kernel. -/
def jumpDepth : Nat := 16

/-- The base chain of a hook, if the table has one. -/
def runHook (hook : Hook) (packet : Packet) (flow : Flow) : Outcome :=
  match table.chains.find? fun chain => chain.hook = some hook with
  | some chain => table.runStatements (table.runChain packet jumpDepth) packet chain.statements flow
  | none => .next flow

/-- What becomes of a new flow that enters at `hook` and leaves through postrouting. -/
def deliver (hook : Hook) (packet : Packet) : Option Flow :=
  match table.runHook hook packet {} with
  | .invalid => none
  | .next flow | .verdict flow =>
    match table.runHook .postrouting packet flow with
    | .invalid => none
    | .next flow | .verdict flow => some flow

end

theorem map?_eq_some [DecidableEq Map] (member : (name, body) ∈ table.maps)
    (unique : ∀ other, (name, other) ∈ table.maps → other = body) :
    table.map? name = some body := by
  rw [map?, find?_eq_some_of_unique member (by simp)]
  · rfl
  · rintro ⟨other, found⟩ present same
    obtain rfl := of_decide_eq_true same
    rw [unique found present]

theorem chain?_eq_some [DecidableEq Chain] (member : chain ∈ table.chains)
    (unique : ∀ other ∈ table.chains, other.name = chain.name → other = chain) :
    table.chain? chain.name = some chain :=
  find?_eq_some_of_unique member (by simp) fun other present same =>
    unique other present (by simpa using same)

variable [DecidableEq Map] {table} {call : Chain → Flow → Outcome} {packet : Packet} {flow flow' : Flow}
  {first second : List (Statement Map Chain)}

/-- Statements after a part that reaches its end go on from where it left the flow. -/
theorem runStatements_append (passed : table.runStatements call packet first flow = .next flow') :
    table.runStatements call packet (first ++ second) flow =
      table.runStatements call packet second flow' := by
  induction first generalizing flow with
  | nil =>
    obtain rfl : flow = flow' := by simpa [runStatements] using passed
    rfl
  | cons statement _ ih =>
    rw [List.cons_append, runStatements]
    rw [runStatements] at passed
    cases result : table.runStatement call packet flow statement with
    | next =>
      rw [result] at passed
      exact ih passed
    | verdict | invalid => simp [result] at passed

theorem runStatements_append_verdict
    (ended : table.runStatements call packet first flow = .verdict flow') :
    table.runStatements call packet (first ++ second) flow = .verdict flow' := by
  induction first generalizing flow with
  | nil => simp [runStatements] at ended
  | cons statement _ ih =>
    rw [List.cons_append, runStatements]
    rw [runStatements] at ended
    cases result : table.runStatement call packet flow statement with
    | next =>
      rw [result] at ended
      exact ih ended
    | verdict =>
      rw [result] at ended
      exact ended
    | invalid => simp [result] at ended

theorem runStatements_next
    (passed : ∀ statement ∈ statements, table.runStatement call packet flow statement = .next flow) :
    table.runStatements call packet statements flow = .next flow := by
  induction statements with
  | nil => rfl
  | cons statement _ ih =>
    rw [runStatements, passed statement List.mem_cons_self]
    exact ih fun other member => passed other (List.mem_cons_of_mem _ member)

theorem runStatements_optional_next {condition : Bool}
    (passed : condition → table.runStatement call packet flow statement = .next flow) :
    table.runStatements call packet (if condition then [statement] else []) flow = .next flow := by
  cases condition with
  | false => rfl
  | true => simp [runStatements, passed rfl]

theorem runStatements_optional_verdict {condition : Bool} (holds : condition)
    (ended : table.runStatement call packet flow statement = .verdict flow') :
    table.runStatements call packet (if condition then [statement] else []) flow =
      .verdict flow' := by
  simp [holds, runStatements, ended]

variable {target : NatTarget}

theorem runStatement_nat_next (missed : ¬ ∃ range ∈ ranges, range.Contains packet.port) :
    table.runStatement call packet flow (.nat transport ranges target) = .next flow :=
  if_neg fun both => missed both.2

theorem runStatement_dispatch_next
    (other : (family, transport) ≠ (packet.family, packet.transport)) :
    table.runStatement call packet flow (.dispatch family transport map) = .next flow := by
  refine if_neg fun same => other ?_
  rw [same.1, same.2]

theorem runStatement_dispatch (defined : table.map? map = some (.verdicts elements)) :
    table.runStatement call packet flow (.dispatch packet.family packet.transport map) =
      match lookup elements packet.port with
      | some chain => call chain flow
      | none => .next flow := by
  simp [runStatement, defined]

theorem runStatement_natMapped (defined : table.map? map = some (.services interval elements)) :
    table.runStatement call packet flow (.natMapped packet.transport target map) =
      match lookup elements packet.port with
      | some port => translate packet target port flow
      | none => .next flow := by
  simp [runStatement, defined]

/-- A translation to an address of the packet's family, or to the host, always takes place. -/
theorem translate_verdict (reaches : ∀ ip, target = .address ip → packet.family = ip.family) :
    translate packet target port flow = .verdict { flow with translation := some ⟨target, port⟩ } := by
  cases target with
  | here => rfl
  | address ip => exact if_pos (reaches ip rfl)

end Table
end Vpsman.Lib.Nft

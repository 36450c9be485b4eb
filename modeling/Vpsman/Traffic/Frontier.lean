import Mathlib.Data.List.Sort
import Mathlib.Data.Prod.Lex
import Mathlib.Data.String.Basic
import Vpsman.Lib.Machine

/-! # Projected traffic accounting

A frontier holds the traffic counters of a client's requested streams. It is either
rebased, from a usage snapshot and every overlay since, or advanced by one overlay.
Advancing turns the frontier into usage rows and back, under requests derived again
from the clock; it is refused when those requests are not the frontier's own.
-/

namespace Vpsman.Traffic

open Vpsman.Lib

/-- Nanoseconds since the epoch. -/
abbrev DateTime := Int

def timestamp (time : DateTime) : Int := time / 1000000000

/-- A source kind and an interface. -/
abbrev StreamIdentity := String ×ₗ String

structure StreamRequest where
  clientId : String
  identity : StreamIdentity
  cycleStartUnix : Int
  deriving DecidableEq

structure TrafficCounter where
  identity : StreamIdentity
  rxBytes : Int64
  txBytes : Int64
  sampleSource : String

structure CounterOverlay where
  observedAt : DateTime
  counters : List TrafficCounter

structure DirectionUsage where
  cycle : Int64
  latest : Int64
  counterEpochsSeen : Int64
  deriving DecidableEq

/-- The columns that usage rows and frontier streams have in common. -/
structure StreamCounters where
  rx : DirectionUsage
  tx : DirectionUsage
  lastSampleSource : String
  lastSampleUnix : Int
  deriving DecidableEq

structure StreamUsage where
  clientId : String
  identity : StreamIdentity
  counters : StreamCounters
  deriving DecidableEq

structure FrontierStream where
  identity : StreamIdentity
  cycleStartUnix : Int
  counters : StreamCounters
  deriving DecidableEq

abbrev AccountingFrontier := List FrontierStream

/-- The requests are what the client's traffic rules give for a time and a sample. -/
structure AccountingContext (Metrics Error : Type) where
  clientId : String
  requests : DateTime → Metrics → Except Error (List StreamRequest)

def saturate (value : Int) : Int64 :=
  Int64.ofInt (max Int64.minValue.toInt (min value Int64.maxValue.toInt))

def isVnstatImportSource (source : String) : Bool :=
  "vnstat_import:".toList.isPrefixOf source.toList

/-- A counter that has gone back starts a new epoch. -/
def DirectionUsage.count (usage : DirectionUsage) (bytes : Int64) : DirectionUsage :=
  if usage.latest ≤ bytes then
    { usage with
      cycle := saturate (usage.cycle.toInt + (saturate (bytes.toInt - usage.latest.toInt)).toInt) }
  else { usage with counterEpochsSeen := saturate (usage.counterEpochsSeen.toInt + 1) }

def StreamCounters.observe (counters : StreamCounters) (cycleStartUnix observedUnix : Int)
    (counter : TrafficCounter) : StreamCounters :=
  let rxBytes := max counter.rxBytes 0
  let txBytes := max counter.txBytes 0
  if counters.lastSampleUnix > observedUnix then counters
  else
    let importBoundary := isVnstatImportSource counters.lastSampleSource &&
      !isVnstatImportSource counter.sampleSource
    let counted : DirectionUsage × DirectionUsage :=
      if cycleStartUnix ≤ observedUnix ∧ importBoundary = false then
        (counters.rx.count rxBytes, counters.tx.count txBytes)
      else (counters.rx, counters.tx)
    { rx := { counted.1 with latest := rxBytes }
      tx := { counted.2 with latest := txBytes }
      lastSampleSource := counter.sampleSource
      lastSampleUnix := observedUnix }

/-- Of several requests for one stream the last one is in the map. -/
def cycleStarts (requests : List StreamRequest) (identity : StreamIdentity) :
    Option Int :=
  (requests.reverse.find? (·.identity = identity)).map (·.cycleStartUnix)

def updateFirst (identity : StreamIdentity) (update : StreamCounters → StreamCounters) :
    List StreamUsage → List StreamUsage
  | [] => []
  | stream :: rest =>
    if stream.identity = identity then
      { stream with counters := update stream.counters } :: rest
    else stream :: updateFirst identity update rest

def newStream (requests : List StreamRequest) (observedUnix : Int)
    (counter : TrafficCounter) : StreamUsage where
  clientId := ((requests.find? (·.identity = counter.identity)).map (·.clientId)).getD ""
  identity := counter.identity
  counters := ⟨⟨0, max counter.rxBytes 0, 1⟩, ⟨0, max counter.txBytes 0, 1⟩,
    counter.sampleSource, observedUnix⟩

def overlayCounter (requests : List StreamRequest) (observedUnix : Int)
    (usage : List StreamUsage) (counter : TrafficCounter) :
    List StreamUsage :=
  match cycleStarts requests counter.identity with
  | none => usage
  | some cycleStartUnix =>
    if counter.identity ∈ usage.map (·.identity) then
      updateFirst counter.identity (·.observe cycleStartUnix observedUnix counter) usage
    else usage ++ [newStream requests observedUnix counter]

/-- Rows are sorted by client, source kind and interface. -/
def StreamUsage.key (stream : StreamUsage) :
    String ×ₗ StreamIdentity :=
  toLex (stream.clientId, stream.identity)

def sortUsage (usage : List StreamUsage) : List StreamUsage :=
  usage.insertionSort fun left right => left.key ≤ right.key

def applyProjectedTrafficCounterOverlay (usage : List StreamUsage)
    (requests : List StreamRequest) (overlay : CounterOverlay)
    (asOf : DateTime) : List StreamUsage :=
  if overlay.observedAt > asOf then usage
  else
    sortUsage (overlay.counters.foldl (overlayCounter requests (timestamp overlay.observedAt)) usage)

def frontierRequestsMatch (frontier : AccountingFrontier)
    (requests : List StreamRequest) : Bool :=
  frontier.length = requests.length && (frontier.zip requests).all fun pair =>
    pair.1.identity = pair.2.identity && pair.1.cycleStartUnix = pair.2.cycleStartUnix

def usageFromProjectedTrafficFrontier (clientId : String)
    (frontier : AccountingFrontier) : List StreamUsage :=
  frontier.map fun stream => ⟨clientId, stream.identity, stream.counters⟩

/-- The streams that have a cycle start. -/
def frontierWith (starts : StreamIdentity → Option Int)
    (usage : List StreamUsage) : AccountingFrontier :=
  usage.filterMap fun stream => (starts stream.identity).map fun cycleStartUnix =>
    ⟨stream.identity, cycleStartUnix, stream.counters⟩

def projectedTrafficFrontierFromUsage (requests : List StreamRequest)
    (usage : List StreamUsage) : AccountingFrontier :=
  frontierWith (cycleStarts requests) usage

/-- What the usage queries return for a client: at most one row for each stream. -/
structure UsageSnapshot (clientId : String) where
  rows : List StreamUsage
  own : ∀ row ∈ rows, row.clientId = clientId
  distinct : (rows.map (·.identity)).Nodup

namespace AccountingContext

variable {Metrics Error : Type} (context : AccountingContext Metrics Error)

def advanceProjectedTrafficAccountingFrontier (asOf : DateTime) (metrics : Metrics)
    (overlay : CounterOverlay) (frontier : AccountingFrontier) :
    Except Error (Option AccountingFrontier) := do
  let requests ← context.requests asOf metrics
  if frontierRequestsMatch frontier requests then
    let usage := applyProjectedTrafficCounterOverlay
      (usageFromProjectedTrafficFrontier context.clientId frontier) requests overlay asOf
    pure (some (projectedTrafficFrontierFromUsage requests usage))
  else pure none

def rebaseProjectedTrafficAccountingFrontier (snapshot : UsageSnapshot context.clientId)
    (asOf : DateTime) (metrics : Metrics) (overlays : List CounterOverlay) :
    Except Error AccountingFrontier := do
  let requests ← context.requests asOf metrics
  let usage := overlays.foldl
    (fun usage overlay => applyProjectedTrafficCounterOverlay usage requests overlay asOf)
    (sortUsage snapshot.rows)
  pure (projectedTrafficFrontierFromUsage requests usage)

/-- A sample with the time it is accounted at. -/
structure Sample (Metrics : Type) where
  asOf : DateTime
  metrics : Metrics
  overlay : CounterOverlay

/-- One advance that returned a frontier. -/
def next (frontier : AccountingFrontier) (sample : Sample Metrics) :
    Option AccountingFrontier :=
  match context.advanceProjectedTrafficAccountingFrontier sample.asOf sample.metrics
    sample.overlay frontier with
  | .ok advanced => advanced
  | .error _ => none

end AccountingContext

/-! ## Overlays on known streams -/

section Absorb

variable {starts : StreamIdentity → Option Int} {observedUnix : Int}
  {usage : List StreamUsage} {counters : List TrafficCounter}

theorem toInt_saturate (value : Int) :
    (saturate value).toInt = max (-9223372036854775808) (min value 9223372036854775807) := by
  have low : Int64.minValue.toInt = -9223372036854775808 := rfl
  have high : Int64.maxValue.toInt = 9223372036854775807 := rfl
  rw [saturate, low, high]
  apply Int64.toInt_ofInt_of_le <;> omega

theorem DirectionUsage.le_count (usage : DirectionUsage) (bytes : Int64) :
    usage.cycle ≤ (usage.count bytes).cycle := by
  rw [Int64.le_iff_toInt_le, count]
  split
  · rename_i more
    rw [Int64.le_iff_toInt_le] at more
    have bound := usage.cycle.toInt_lt
    simp only [toInt_saturate]
    omega
  · exact Int.le_refl _

theorem DirectionUsage.count_latest (usage : DirectionUsage) :
    usage.count usage.latest = usage := by
  have unchanged : saturate (usage.cycle.toInt +
      (saturate (usage.latest.toInt - usage.latest.toInt)).toInt) = usage.cycle := by
    have low := usage.cycle.le_toInt
    have high := usage.cycle.toInt_lt
    rw [← Int64.toInt_inj, toInt_saturate, toInt_saturate]
    omega
  rw [count, if_pos Int64.le_rfl, unchanged]

theorem StreamCounters.observe_twice (counters : StreamCounters) (start : Int)
    (counter : TrafficCounter) :
    (counters.observe start observedUnix counter).observe start observedUnix counter =
      counters.observe start observedUnix counter := by
  by_cases late : counters.lastSampleUnix > observedUnix
  · simp only [observe, late, if_true]
  · have counted := fun (usage : DirectionUsage) (bytes : Int64) =>
      DirectionUsage.count_latest { usage with latest := bytes }
    dsimp only at counted
    simp only [observe, late, if_false, gt_iff_lt, lt_self_iff_false, counted, ite_self]

/-- What an overlay does to a stream that has a row. -/
def StreamUsage.absorb (starts : StreamIdentity → Option Int)
    (observedUnix : Int) (counters : List TrafficCounter)
    (stream : StreamUsage) : StreamUsage :=
  { stream with
    counters := match counters.find? (·.identity = stream.identity) with
      | none => stream.counters
      | some counter => match starts stream.identity with
        | none => stream.counters
        | some start => stream.counters.observe start observedUnix counter }

def absorbAll (starts : StreamIdentity → Option Int)
    (usage : List StreamUsage) (overlay : CounterOverlay) :
    List StreamUsage :=
  usage.map (·.absorb starts (timestamp overlay.observedAt) overlay.counters)

theorem StreamUsage.absorb_twice (stream : StreamUsage) :
    (stream.absorb starts observedUnix counters).absorb starts observedUnix counters =
      stream.absorb starts observedUnix counters := by
  cases found : counters.find? (·.identity = stream.identity) with
  | none => simp only [absorb, found]
  | some counter =>
    cases started : starts stream.identity <;>
      simp only [absorb, found, started, StreamCounters.observe_twice]

/-- Neither direction of a stream has lost bytes of its cycle. -/
def StreamCounters.Grown (before after : StreamCounters) : Prop :=
  before.rx.cycle ≤ after.rx.cycle ∧ before.tx.cycle ≤ after.tx.cycle

theorem StreamCounters.observe_grown (counters : StreamCounters) (start : Int)
    (counter : TrafficCounter) :
    counters.Grown (counters.observe start observedUnix counter) := by
  simp only [observe]
  split
  · exact ⟨Int64.le_rfl, Int64.le_rfl⟩
  · split
    · exact ⟨DirectionUsage.le_count _ _, DirectionUsage.le_count _ _⟩
    · exact ⟨Int64.le_rfl, Int64.le_rfl⟩

theorem StreamUsage.absorb_grown (stream : StreamUsage) :
    stream.counters.Grown (stream.absorb starts observedUnix counters).counters := by
  simp only [absorb]
  split
  · exact ⟨Int64.le_rfl, Int64.le_rfl⟩
  · split
    · exact ⟨Int64.le_rfl, Int64.le_rfl⟩
    · exact stream.counters.observe_grown _ _

theorem updateFirst_eq_map {identity : StreamIdentity}
    {update : StreamCounters → StreamCounters} (distinct : (usage.map (·.identity)).Nodup) :
    updateFirst identity update usage = usage.map fun stream =>
      if stream.identity = identity then { stream with counters := update stream.counters }
      else stream := by
  induction usage with
  | nil => rfl
  | cons stream rest ih =>
    rw [List.map_cons, List.nodup_cons] at distinct
    rw [updateFirst, List.map_cons]
    split
    · rename_i same
      congr 1
      symm
      apply (List.map_congr_left _).trans (List.map_id _)
      intro other member
      apply if_neg
      rintro rfl
      exact distinct.1 (same ▸ List.mem_map_of_mem member)
    · rw [ih distinct.2]

/-- Sorted rows of one client, with one for each stream that has a cycle start. -/
structure Known (clientId : String) (starts : StreamIdentity → Option Int)
    (usage : List StreamUsage) : Prop where
  sorted : usage.Pairwise fun left right => left.key ≤ right.key
  own : ∀ stream ∈ usage, stream.clientId = clientId
  distinct : (usage.map (·.identity)).Nodup
  covers : ∀ identity, (starts identity).isSome → identity ∈ usage.map (·.identity)

variable {clientId : String} {requests : List StreamRequest} {asOf : DateTime}
  {overlay : CounterOverlay} {overlays : List CounterOverlay}

theorem Known.absorb (known : Known clientId starts usage) :
    Known clientId starts (usage.map (·.absorb starts observedUnix counters)) where
  sorted := List.pairwise_map.mpr known.sorted
  own := List.forall_mem_map.mpr known.own
  distinct := by
    rw [List.map_map]
    exact known.distinct
  covers := by
    rw [List.map_map]
    exact known.covers

theorem overlayCounter_eq_map (known : Known clientId (cycleStarts requests) usage)
    (counter : TrafficCounter) : overlayCounter requests observedUnix usage counter =
      usage.map (·.absorb (cycleStarts requests) observedUnix [counter]) := by
  rw [overlayCounter]
  split
  · rename_i unknown
    symm
    apply List.map_id''
    intro stream
    by_cases same : counter.identity = stream.identity
    · simp [StreamUsage.absorb, same, same ▸ unknown]
    · simp [StreamUsage.absorb, same]
  · rename_i start found
    have row := known.covers counter.identity (by rw [found]; rfl)
    rw [if_pos row, updateFirst_eq_map known.distinct]
    apply List.map_congr_left
    intro stream _
    by_cases same : stream.identity = counter.identity
    · simp [StreamUsage.absorb, same, found]
    · simp [StreamUsage.absorb, same, Ne.symm same]

theorem foldl_overlayCounter (known : Known clientId (cycleStarts requests) usage)
    (once : (counters.map (·.identity)).Nodup) :
    counters.foldl (overlayCounter requests observedUnix) usage =
      usage.map (·.absorb (cycleStarts requests) observedUnix counters) := by
  induction counters generalizing usage with
  | nil => exact (List.map_id _).symm
  | cons counter rest ih =>
    rw [List.map_cons, List.nodup_cons] at once
    rw [List.foldl_cons, overlayCounter_eq_map known, ih known.absorb once.2, List.map_map]
    apply List.map_congr_left
    intro stream _
    by_cases same : counter.identity = stream.identity
    · have gone : rest.find? (·.identity = stream.identity) = none := by
        rw [List.find?_eq_none, ← same]
        intro other member listed
        exact once.1 (of_decide_eq_true listed ▸ List.mem_map_of_mem member)
      simp [StreamUsage.absorb, same, gone]
    · simp [StreamUsage.absorb, same]

theorem apply_eq_absorb (known : Known clientId (cycleStarts requests) usage)
    (once : (overlay.counters.map (·.identity)).Nodup) (timely : overlay.observedAt ≤ asOf) :
    applyProjectedTrafficCounterOverlay usage requests overlay asOf =
      absorbAll (cycleStarts requests) usage overlay := by
  rw [applyProjectedTrafficCounterOverlay, if_neg (Int.not_lt.mpr timely),
    foldl_overlayCounter known once, sortUsage]
  exact List.Pairwise.insertionSort_eq known.absorb.sorted

theorem foldl_apply (known : Known clientId (cycleStarts requests) usage)
    (once : ∀ overlay ∈ overlays, (overlay.counters.map (·.identity)).Nodup)
    (timely : ∀ overlay ∈ overlays, overlay.observedAt ≤ asOf) :
    overlays.foldl (fun usage overlay =>
        applyProjectedTrafficCounterOverlay usage requests overlay asOf) usage =
      overlays.foldl (absorbAll (cycleStarts requests)) usage := by
  induction overlays generalizing usage with
  | nil => rfl
  | cons overlay rest ih =>
    rw [List.forall_mem_cons] at once timely
    rw [List.foldl_cons, List.foldl_cons, apply_eq_absorb known once.1 timely.1]
    exact ih known.absorb once.2 timely.2

end Absorb

/-! ## Advancing is rebasing -/

section Advance

variable {clientId : String} {starts : StreamIdentity → Option Int}
  {usage : List StreamUsage} {frontier after : AccountingFrontier}
  {requests : List StreamRequest}

theorem Known.filter (known : Known clientId starts usage) :
    Known clientId starts (usage.filter (starts ·.identity |>.isSome)) where
  sorted := known.sorted.sublist List.filter_sublist
  own stream member := known.own stream (List.mem_of_mem_filter member)
  distinct := known.distinct.sublist (List.filter_sublist.map _)
  covers identity started := by
    obtain ⟨stream, member, rfl⟩ := List.mem_map.mp (known.covers identity started)
    exact List.mem_map_of_mem (List.mem_filter.mpr ⟨member, started⟩)

theorem frontierWith_filter (starts : StreamIdentity → Option Int) (usage : List StreamUsage) :
    frontierWith starts (usage.filter (starts ·.identity |>.isSome)) = frontierWith starts usage := by
  induction usage with
  | nil => rfl
  | cons stream rest ih =>
    cases found : starts stream.identity <;> simp_all [frontierWith]

theorem usageFrom_frontierWith (own : ∀ stream ∈ usage, stream.clientId = clientId) :
    usageFromProjectedTrafficFrontier clientId (frontierWith starts usage) =
      usage.filter (starts ·.identity |>.isSome) := by
  induction usage with
  | nil => rfl
  | cons stream rest ih =>
    obtain ⟨rfl, own⟩ := List.forall_mem_cons.mp own
    cases found : starts stream.identity <;>
      simp_all [frontierWith, usageFromProjectedTrafficFrontier]

theorem frontierRequestsMatch_iff : frontierRequestsMatch frontier requests = true ↔
    frontier.map (fun stream => (stream.identity, stream.cycleStartUnix)) =
      requests.map fun request => (request.identity, request.cycleStartUnix) := by
  induction frontier generalizing requests with
  | nil => cases requests <;> simp [frontierRequestsMatch]
  | cons stream rest ih =>
    cases requests with
    | nil => simp [frontierRequestsMatch]
    | cons request requests =>
      simp only [frontierRequestsMatch, Bool.and_eq_true, decide_eq_true_eq] at ih
      simp only [frontierRequestsMatch, List.length_cons, Nat.add_right_cancel_iff,
        List.zip_cons_cons, List.all_cons, Bool.and_eq_true, decide_eq_true_eq, List.map_cons,
        List.cons.injEq, Prod.mk.injEq, ← ih]
      tauto

theorem mem_frontierWith (starts : StreamIdentity → Option Int)
    (usage : List StreamUsage) (identity : StreamIdentity) (start : Int) :
    (identity, start) ∈ (frontierWith starts usage).map
        (fun stream => (stream.identity, stream.cycleStartUnix)) ↔
      identity ∈ usage.map (·.identity) ∧ starts identity = some start := by
  simp only [frontierWith, List.mem_map, List.mem_filterMap, Option.map_eq_some_iff, Prod.mk.injEq]
  constructor
  · rintro ⟨_, ⟨stream, member, _, started, rfl⟩, rfl, rfl⟩
    exact ⟨⟨stream, member, rfl⟩, started⟩
  · rintro ⟨⟨stream, member, rfl⟩, started⟩
    exact ⟨_, ⟨stream, member, start, started, rfl⟩, rfl, rfl⟩

theorem frontierWith_grown {overlay : CounterOverlay} {old : FrontierStream}
    (member : old ∈ frontierWith starts usage) :
    ∃ new ∈ frontierWith starts (absorbAll starts usage overlay),
      new.identity = old.identity ∧ old.counters.Grown new.counters := by
  obtain ⟨row, listed, started⟩ := List.mem_filterMap.mp member
  obtain ⟨start, found, rfl⟩ := Option.map_eq_some_iff.mp started
  refine ⟨⟨row.identity, start, (row.absorb starts (timestamp overlay.observedAt)
    overlay.counters).counters⟩, ?_, rfl, row.absorb_grown⟩
  apply List.mem_filterMap.mpr
  exact ⟨_, List.mem_map_of_mem listed, Option.map_eq_some_iff.mpr ⟨start, found, rfl⟩⟩

/-- Requests that match a frontier have its cycle starts. -/
theorem starts_of_match (known : Known clientId starts usage)
    (matched : frontierRequestsMatch (frontierWith starts usage) requests = true) :
    cycleStarts requests = starts := by
  rw [frontierRequestsMatch_iff] at matched
  have listed := mem_frontierWith starts usage
  rw [matched] at listed
  simp only [List.mem_map, Prod.mk.injEq] at listed
  funext identity
  rw [cycleStarts]
  cases found : requests.reverse.find? (·.identity = identity) with
  | some request =>
    have named : request.identity = identity := by simpa using List.find?_some found
    have member := List.mem_reverse.mp (List.mem_of_find?_eq_some found)
    exact ((listed identity _).mp ⟨request, member, named, rfl⟩).2.symm
  | none =>
    cases started : starts identity with
    | none => rfl
    | some start =>
      have row := known.covers identity (by rw [started]; rfl)
      obtain ⟨request, member, named, _⟩ :=
        (listed identity start).mpr ⟨List.mem_map.mp row, started⟩
      have unnamed := List.find?_eq_none.mp found request (List.mem_reverse.mpr member)
      exact absurd (decide_eq_true named) unnamed

namespace AccountingContext

variable {Metrics Error : Type} {context : AccountingContext Metrics Error}
  {sample : Sample Metrics}

theorem next_eq_some : context.next frontier sample = some after ↔
    ∃ requests, context.requests sample.asOf sample.metrics = .ok requests ∧
      frontierRequestsMatch frontier requests = true ∧
      projectedTrafficFrontierFromUsage requests (applyProjectedTrafficCounterOverlay
        (usageFromProjectedTrafficFrontier context.clientId frontier) requests sample.overlay
        sample.asOf) = after := by
  rw [next, advanceProjectedTrafficAccountingFrontier]
  cases derived : context.requests sample.asOf sample.metrics with
  | error => simp [bind, Except.bind]
  | ok requests =>
    by_cases matched : frontierRequestsMatch frontier requests = true <;>
      simp [bind, Except.bind, pure, Except.pure, matched]

/-- The frontier of the usage rows, all of them known. -/
def Shows (context : AccountingContext Metrics Error)
    (starts : StreamIdentity → Option Int) (usage : List StreamUsage)
    (frontier : AccountingFrontier) : Prop :=
  frontier = frontierWith starts usage ∧ Known context.clientId starts usage

theorem Shows.step (shows : context.Shows starts usage frontier)
    (once : (sample.overlay.counters.map (·.identity)).Nodup)
    (timely : sample.overlay.observedAt ≤ sample.asOf)
    (stepped : context.next frontier sample = some after) :
    context.Shows starts (absorbAll starts usage sample.overlay) after ∧
      ∃ requests, context.requests sample.asOf sample.metrics = .ok requests ∧
        cycleStarts requests = starts := by
  obtain ⟨rfl, known⟩ := shows
  obtain ⟨requests, derived, matched, rfl⟩ := next_eq_some.mp stepped
  have same := starts_of_match known matched
  refine ⟨⟨?_, known.absorb⟩, requests, derived, same⟩
  subst same
  rw [usageFrom_frontierWith known.own, apply_eq_absorb known.filter once timely,
    ← frontierWith_filter _ (absorbAll _ usage _), absorbAll, absorbAll, List.filter_map]
  rfl

theorem Shows.run {samples : List (Sample Metrics)} (shows : context.Shows starts usage frontier)
    (once : ∀ sample ∈ samples, (sample.overlay.counters.map (·.identity)).Nodup)
    (timely : ∀ sample ∈ samples, sample.overlay.observedAt ≤ sample.asOf)
    (ran : Lib.run context.next frontier samples = some after) :
    context.Shows starts ((samples.map (·.overlay)).foldl (absorbAll starts) usage) after := by
  induction samples generalizing usage frontier with
  | nil =>
    cases ran
    exact shows
  | cons sample rest ih =>
    rw [List.forall_mem_cons] at once timely
    obtain ⟨middle, stepped, ran⟩ := run_cons_some ran
    exact ih (shows.step once.1 timely.1 stepped).1 once.2 timely.2 ran

/-- The same overlay once more changes nothing. -/
theorem Shows.again (shows : context.Shows starts usage frontier)
    (once : (sample.overlay.counters.map (·.identity)).Nodup)
    (timely : sample.overlay.observedAt ≤ sample.asOf)
    (stepped : context.next frontier sample = some after) :
    context.next after sample = some after := by
  have advanced := (shows.step once timely stepped).1
  obtain ⟨requests, derived, matched, _⟩ := next_eq_some.mp stepped
  have still : frontierRequestsMatch after requests = true := by
    rw [frontierRequestsMatch_iff] at matched ⊢
    rw [← matched, shows.1, advanced.1, absorbAll, frontierWith, frontierWith,
      List.filterMap_map, List.map_filterMap, List.map_filterMap]
    simp only [Function.comp_apply, Option.map_map]
    rfl
  have repeated := next_eq_some.mpr ⟨requests, derived, still, rfl⟩
  have same := (advanced.step once timely repeated).1.1
  rw [repeated, same, advanced.1, absorbAll, absorbAll, List.map_map]
  congr 2
  exact List.map_congr_left fun stream _ => stream.absorb_twice

/-- Rebasing without overlays. -/
theorem Shows.initial {snapshot : UsageSnapshot context.clientId} {asOf : DateTime}
    {metrics : Metrics}
    (based : context.rebaseProjectedTrafficAccountingFrontier snapshot asOf metrics [] =
      .ok frontier) : ∃ starts, context.Shows starts (sortUsage snapshot.rows) frontier := by
  rw [rebaseProjectedTrafficAccountingFrontier] at based
  cases derived : context.requests asOf metrics with
  | error => simp [derived, bind, Except.bind] at based
  | ok requests =>
    simp only [derived, bind, Except.bind, pure, Except.pure, Except.ok.injEq,
      List.foldl_nil] at based
    subst based
    have rows := List.perm_insertionSort (fun left right : StreamUsage =>
      left.key ≤ right.key) snapshot.rows
    refine ⟨fun identity => if identity ∈ (sortUsage snapshot.rows).map (·.identity) then
      cycleStarts requests identity else none, ?_, ?_⟩
    · apply List.filterMap_congr
      intro stream member
      dsimp only
      rw [if_pos (List.mem_map_of_mem member)]
    · constructor
      case sorted => exact List.pairwise_insertionSort _ _
      case own => exact fun row member => snapshot.own row (rows.subset member)
      case distinct => exact (rows.map _).nodup_iff.mpr snapshot.distinct
      case covers =>
        intro identity started
        by_contra missing
        rw [if_neg missing] at started
        cases started

end AccountingContext

open AccountingContext

/-- Advancing a frontier by overlays in order of observation gives the frontier of a rebase
    with all of them at the last time. No advance takes bytes from a cycle, and the last
    overlay changes nothing when it is applied again. -/
theorem advance_eq_rebase {Metrics Error : Type}
    {context : AccountingContext Metrics Error}
    {snapshot : UsageSnapshot context.clientId} {asOf : DateTime} {metrics : Metrics}
    {samples : List (Sample Metrics)} {last : Sample Metrics}
    {initial final : AccountingFrontier}
    (based : context.rebaseProjectedTrafficAccountingFrontier snapshot asOf metrics [] =
      .ok initial)
    (ordered : ((samples ++ [last]).map (·.overlay.observedAt)).Pairwise (· ≤ ·))
    (timely : ∀ sample ∈ samples ++ [last], sample.overlay.observedAt ≤ sample.asOf)
    (once : ∀ sample ∈ samples ++ [last], (sample.overlay.counters.map (·.identity)).Nodup)
    (advanced : run context.next initial (samples ++ [last]) = some final) :
    context.rebaseProjectedTrafficAccountingFrontier snapshot last.asOf last.metrics
        ((samples ++ [last]).map (·.overlay)) = .ok final ∧
      (∀ done sample left before middle, samples ++ [last] = done ++ sample :: left →
        run context.next initial done = some before → context.next before sample = some middle →
        ∀ old ∈ before, ∃ new ∈ middle, new.identity = old.identity ∧
          old.counters.Grown new.counters) ∧
      context.next final last = some final := by
  obtain ⟨starts, shows⟩ := Shows.initial based
  have reached : ∀ done left, samples ++ [last] = done ++ left → ∀ before,
      run context.next initial done = some before → context.Shows starts
        ((done.map (·.overlay)).foldl (absorbAll starts) (sortUsage snapshot.rows)) before := by
    intro done left split before ran
    rw [split] at once timely
    exact shows.run (fun sample member => once sample (List.mem_append_left _ member))
      (fun sample member => timely sample (List.mem_append_left _ member)) ran
  obtain ⟨before, ran, stepped⟩ := run_append_some advanced
  obtain ⟨_, stepped, ⟨⟩⟩ := run_cons_some stepped
  have lastOnce := once last (by simp)
  have lastTimely := timely last (by simp)
  have held := reached samples [last] rfl before ran
  obtain ⟨_, requests, derived, rfl⟩ := held.step lastOnce lastTimely stepped
  refine ⟨?_, ?_, held.again lastOnce lastTimely stepped⟩
  · have early : ∀ overlay ∈ (samples ++ [last]).map (·.overlay),
        overlay.observedAt ≤ last.asOf := by
      rw [List.forall_mem_map]
      intro sample member
      rw [List.map_append, List.pairwise_append] at ordered
      rcases List.mem_append.mp member with earlier | same
      · have before := ordered.2.2 _ (List.mem_map_of_mem earlier) _ List.mem_cons_self
        exact Int.le_trans before lastTimely
      · rw [List.mem_singleton.mp same]
        exact lastTimely
    have whole := reached (samples ++ [last]) [] (List.append_nil _).symm final advanced
    have folded := foldl_apply shows.2 (List.forall_mem_map.mpr once) early
    rw [rebaseProjectedTrafficAccountingFrontier, derived, whole.1, ← folded]
    rfl
  · intro done sample left before middle split ran stepped old member
    have holds := reached done (sample :: left) split before ran
    have during : sample ∈ samples ++ [last] := by simp [split]
    have after := (holds.step (once sample during) (timely sample during) stepped).1
    rw [holds.1] at member
    rw [after.1]
    exact frontierWith_grown member

def sampleIdentity : StreamIdentity := toLex ("interface", "eth0")

def sampleContext : AccountingContext Unit Unit where
  clientId := "edge"
  requests _ _ := .ok [⟨"edge", sampleIdentity, 0⟩]

def sampleSnapshot : UsageSnapshot sampleContext.clientId where
  rows := [⟨"edge", sampleIdentity, ⟨⟨5, 40, 1⟩, ⟨6, 50, 1⟩, "agent", 60⟩⟩]
  own := by decide
  distinct := by decide

/-- At each second the received counter has grown by ten and the sent one was reset. -/
def sampleAt (seconds : Int) (rx tx : Int64) : Sample Unit :=
  ⟨seconds * 1000000000, (), seconds * 1000000000, [⟨sampleIdentity, rx, tx, "agent"⟩]⟩

theorem two_samples_rebased :
    sampleContext.rebaseProjectedTrafficAccountingFrontier sampleSnapshot 62000000000 ()
      [(sampleAt 61 50 3).overlay, (sampleAt 62 60 9).overlay] =
        .ok [⟨sampleIdentity, 0, ⟨⟨25, 60, 1⟩, ⟨12, 9, 2⟩, "agent", 62⟩⟩] := by
  have based : sampleContext.rebaseProjectedTrafficAccountingFrontier sampleSnapshot 60000000000
      () [] = .ok [⟨sampleIdentity, 0, ⟨⟨5, 40, 1⟩, ⟨6, 50, 1⟩, "agent", 60⟩⟩] := rfl
  have advanced : run sampleContext.next
      [⟨sampleIdentity, 0, ⟨⟨5, 40, 1⟩, ⟨6, 50, 1⟩, "agent", 60⟩⟩]
      ([sampleAt 61 50 3] ++ [sampleAt 62 60 9]) =
        some [⟨sampleIdentity, 0, ⟨⟨25, 60, 1⟩, ⟨12, 9, 2⟩, "agent", 62⟩⟩] := by decide
  exact (advance_eq_rebase based (by decide) (by decide) (by decide) advanced).1

end Advance
end Vpsman.Traffic

import Vpsman.Lib.Word

/-! # Evaluation of an alert policy rule

One rule version and one confirmation bucket: the evaluation state, the episodes it
opened, the confirmations of each phase and the lifecycle edges it emitted. The database
clock reading of an evaluation is an argument; times are microseconds, the resolution of
the database. What a rule's selector and expressions say about a piece of evidence is a
function of the rule; the payload they read is abstract.
-/

namespace Vpsman.Policy

def microsPerSecond : Int := 1000000

def numSeconds (duration : Int) : Int :=
  duration.tdiv microsPerSecond

def i64Max : Int := 2 ^ 63 - 1

/-- `i64::saturating_add` of nonnegative values. -/
def saturatingAdd (a b : Int) : Int :=
  min (a + b) i64Max

inductive RuleKind where
  | metric
  | state
  | occurrence
deriving DecidableEq, Repr

inductive CorrelationMode where
  | naturalKey
  | subject
  | global
deriving DecidableEq, Repr

inductive MetaCondition where
  | immediate
  | sustained (seconds : Int)
  | count (confirmations : Nat) (withinSeconds : Int)
  | elapsedSinceTrigger (seconds : Int)
deriving DecidableEq, Repr

inductive ExpressionTruth where
  | holds
  | fails
  | unknown
deriving DecidableEq, Repr

inductive ScopeTruth where
  | inScope
  | outOfScope
  | unknown
deriving DecidableEq, Repr

inductive GatePhase where
  | trigger
  | resolve
deriving DecidableEq, Repr

structure Evidence (Facts : Type) where
  id : Nat
  evidenceSeq : Int
  sourceEventId : String
  factKind : RuleKind
  subjectClientId : Option String
  observedAt : Int
  acceptedAt : Int
  stateStartedAt : Option Int
  /-- The payload says that the source is gone because its scope exited. -/
  sourceScopeExited : Bool
  /-- Payload and subject snapshot. -/
  facts : Facts

structure Rule (Facts : Type) where
  kind : RuleKind
  correlationMode : CorrelationMode
  /-- The group selector; nothing on an evaluation error. -/
  scopeTruth : Evidence Facts → Option ScopeTruth
  triggerTruth : Evidence Facts → Option ExpressionTruth
  triggerMeta : Option MetaCondition
  resolveTruth : Option (Evidence Facts → Option ExpressionTruth)
  resolveMeta : Option MetaCondition
  armedAt : Int

def Rule.metaOf {Facts : Type} (rule : Rule Facts) : GatePhase → Option MetaCondition
  | .trigger => rule.triggerMeta
  | .resolve => rule.resolveMeta

/-- What a Sustained gate has accumulated. -/
structure Dwell where
  confirmedDurationSecs : Int := 0
  segmentStartedAt : Option Int := none
deriving DecidableEq, Repr

inductive TruthState where
  | matched
  | notMatched
  | unknown
deriving DecidableEq, Repr

structure EvaluationState where
  truthState : TruthState := .unknown
  lastEvidenceSeq : Option Int := none
  lastEvidenceSourceEventId : Option String := none
  lastEvidenceObservedAt : Option Int := none
  trigger : Dwell := {}
  resolve : Dwell := {}
  triggerGeneration : Int := 0
  activeEpisodeId : Option Nat := none
  activeTriggeredAt : Option Int := none
  occurrenceCohortId : Option Nat := none
deriving DecidableEq, Repr

inductive LifecycleState where
  | triggered
  | persisting
  | unknown
  | resolved
deriving DecidableEq, Repr

structure Episode where
  id : Nat
  generation : Int
  lifecycleState : LifecycleState
  lastEvidenceId : Nat
  triggeredAt : Int
  resolvedAt : Option Int
deriving DecidableEq, Repr

structure Confirmation where
  evidenceId : Nat
  acceptedAt : Int
deriving DecidableEq, Repr

inductive Edge where
  | triggered (episode : Nat) (occurredAt : Int)
  | resolved (episode : Nat) (occurredAt : Int)
deriving DecidableEq, Repr

/-- What happened to a phase's gate. -/
inductive GateEvent where
  /-- Evidence that is true for the phase, with its state boundary. -/
  | confirmed (phase : GatePhase) (boundary : Int)
  /-- A running segment was folded into the stored duration. -/
  | paused (phase : GatePhase) (until_ : Int)
  | reset (phase : GatePhase)
  /-- The gate passed, which also resets it. -/
  | passed (phase : GatePhase) (now : Int)
deriving DecidableEq, Repr

structure Store where
  state : EvaluationState := {}
  episodes : List Episode := []
  triggerConfirmations : List Confirmation := []
  resolveConfirmations : List Confirmation := []
  /-- Emitted edges, oldest first. -/
  edges : List Edge := []
  /-- Ids from here on are unused. -/
  nextId : Nat := 0
  /-- History of the gates, newest first. -/
  gates : List GateEvent := []
deriving DecidableEq, Repr

namespace Store

def dwell (store : Store) : GatePhase → Dwell
  | .trigger => store.state.trigger
  | .resolve => store.state.resolve

def setDwell (store : Store) (phase : GatePhase) (dwell : Dwell) : Store :=
  match phase with
  | .trigger => { store with state := { store.state with trigger := dwell } }
  | .resolve => { store with state := { store.state with resolve := dwell } }

def note (store : Store) (event : GateEvent) : Store :=
  { store with gates := event :: store.gates }

def resetDwell (store : Store) (phase : GatePhase) : Store :=
  (store.setDwell phase {}).note (.reset phase)

def confirmations (store : Store) : GatePhase → List Confirmation
  | .trigger => store.triggerConfirmations
  | .resolve => store.resolveConfirmations

def setConfirmations (store : Store) (phase : GatePhase) (confirmations : List Confirmation) :
    Store :=
  match phase with
  | .trigger => { store with triggerConfirmations := confirmations }
  | .resolve => { store with resolveConfirmations := confirmations }

def clearConfirmations (store : Store) (phase : GatePhase) : Store :=
  store.setConfirmations phase []

/-- The episode the state names, unless it is resolved. -/
def activeEpisode (store : Store) : Option Episode :=
  store.state.activeEpisodeId.bind fun id =>
    store.episodes.find? fun episode => episode.id = id && episode.resolvedAt.isNone

/-- Update the unresolved episode of this id. -/
def updateEpisode (store : Store) (id : Nat) (update : Episode → Episode) : Store :=
  { store with episodes := store.episodes.map fun episode =>
      if episode.id = id && episode.resolvedAt.isNone then update episode else episode }

def emit (store : Store) (edge : Edge) : Store :=
  { store with edges := store.edges ++ [edge] }

end Store

section

variable {Facts : Type}

/-- A scope revision re-evaluates an old source state. -/
def Evidence.scopeClone (evidence : Evidence Facts) : Bool :=
  "scope:".toList.isPrefixOf evidence.sourceEventId.toList

def evidenceStateBoundary (rule : Rule Facts) (evidence : Evidence Facts) (now : Int) :
    Int :=
  let source := max (evidence.stateStartedAt.getD evidence.observedAt) rule.armedAt
  let source := if evidence.scopeClone then max source evidence.acceptedAt else source
  min source now

def insertConfirmation (store : Store) (phase : GatePhase) (evidence : Evidence Facts) : Store :=
  if (store.confirmations phase).any fun confirmation => confirmation.evidenceId = evidence.id then
    store
  else
    store.setConfirmations phase (store.confirmations phase ++ [⟨evidence.id, evidence.acceptedAt⟩])

/-- The first source fact of a Sustained phase stays as its provenance. -/
def retainSustainedConfirmationAnchor (store : Store) (phase : GatePhase)
    (evidence : Evidence Facts) : Store :=
  if (store.confirmations phase).isEmpty then insertConfirmation store phase evidence else store

def dropConfirmationsBefore (store : Store) (phase : GatePhase) (cutoff : Int) : Store :=
  store.setConfirmations phase
    ((store.confirmations phase).filter fun confirmation => cutoff ≤ confirmation.acceptedAt)

def pruneCountConfirmations (store : Store) (phase : GatePhase) (gate : Option MetaCondition)
    (now : Int) : Store :=
  match gate with
  | some (.count _ within) => dropConfirmationsBefore store phase (now - within * microsPerSecond)
  | _ => store

def advanceGate (rule : Rule Facts) (evidence : Evidence Facts) (phase : GatePhase)
    (now : Int) (store : Store) : Bool × Store :=
  match rule.metaOf phase with
  | none | some .immediate => (true, store)
  | some (.sustained seconds) =>
    let store := retainSustainedConfirmationAnchor store phase evidence
    let dwell := store.dwell phase
    let boundary := evidenceStateBoundary rule evidence now
    let segment := dwell.segmentStartedAt.getD boundary
    let store := (store.setDwell phase { dwell with segmentStartedAt := some segment }).note
      (.confirmed phase boundary)
    let elapsed := max (numSeconds (now - segment)) 0
    (decide (seconds ≤ saturatingAdd dwell.confirmedDurationSecs elapsed), store)
  | some (.count confirmations within) =>
    let store :=
      if evidence.scopeClone then store else insertConfirmation store phase evidence
    let store := dropConfirmationsBefore store phase (now - within * microsPerSecond)
    (decide (confirmations ≤ (store.confirmations phase).length), store)
  | some (.elapsedSinceTrigger _) => (false, store)

def resetGateIfContradicted (rule : Rule Facts) (evidence : Evidence Facts) (phase : GatePhase)
    (truth : ExpressionTruth) (now : Int) (store : Store) : Store :=
  match truth with
  | .fails =>
    let store := store.resetDwell phase
    match rule.metaOf phase, rule.kind, phase with
    | some (.count confirmations within), .occurrence, .trigger =>
      pruneCountConfirmations store phase (some (.count confirmations within)) now
    | _, _, _ => store.clearConfirmations phase
  | .unknown =>
    let dwell := store.dwell phase
    let store :=
      match dwell.segmentStartedAt with
      | some segment =>
        let pauseAt := max (evidenceStateBoundary rule evidence now) segment
        let confirmed := max (numSeconds (pauseAt - segment)) 0
        (store.setDwell phase
          ⟨saturatingAdd dwell.confirmedDurationSecs confirmed, none⟩).note
            (.paused phase pauseAt)
      | none => store
    pruneCountConfirmations store phase (rule.metaOf phase) now
  | .holds => store

/-- Open an episode, unless its subject is suspended or just being suspended. -/
def triggerEpisode (rule : Rule Facts) (evidence : Evidence Facts) (suppressed : Bool)
    (now : Int) (store : Store) : Option Episode × Store :=
  if rule.correlationMode ≠ .global ∧ evidence.subjectClientId.isSome ∧ suppressed then
    (none, store.clearConfirmations .trigger)
  else
    let generation := saturatingAdd store.state.triggerGeneration 1
    let episode : Episode :=
      ⟨store.nextId, generation, .triggered, evidence.id, now, none⟩
    let cohort :=
      match rule.kind, rule.triggerMeta with
      | .occurrence, some (.count _ _) =>
        some (store.state.occurrenceCohortId.getD (store.nextId + 1))
      | _, _ => store.state.occurrenceCohortId
    let store :=
      { store with
        state := { store.state with
          triggerGeneration := generation, occurrenceCohortId := cohort }
        episodes := store.episodes ++ [episode]
        nextId := store.nextId + 2 }
    (some episode, (store.emit (.triggered episode.id now)).clearConfirmations .trigger)

def resolveEpisode (evidence : Evidence Facts) (episode : Episode) (now : Int)
    (store : Store) : Store :=
  (store.updateEpisode episode.id fun held =>
    { held with
      lifecycleState := .resolved, resolvedAt := some now, lastEvidenceId := evidence.id }).emit
    (.resolved episode.id now)

def persistEpisodeConfirmation (evidence : Evidence Facts) (episode : Episode) (store : Store) :
    Store :=
  store.updateEpisode episode.id fun held =>
    { held with lifecycleState := .persisting, lastEvidenceId := evidence.id }

def markEpisodeUnknown (evidence : Evidence Facts) (episode : Episode) (store : Store) : Store :=
  store.updateEpisode episode.id fun held =>
    { held with lifecycleState := .unknown, lastEvidenceId := evidence.id }

/-- The state remembers the evidence it was last evaluated on. -/
def rememberEvidence (evidence : Evidence Facts) (truth : TruthState) (store : Store) : Store :=
  { store with state := { store.state with
      truthState := truth
      lastEvidenceSeq := some evidence.evidenceSeq
      lastEvidenceSourceEventId := some evidence.sourceEventId
      lastEvidenceObservedAt := some evidence.observedAt } }

/-- A resolved episode is no longer the state's. -/
def releaseEpisode (store : Store) : Store :=
  { store with state := { store.state with activeEpisodeId := none, activeTriggeredAt := none } }

/-- Both the policy's and the source's scope exit close the episode and both phases. -/
def resolveScopeExit (evidence : Evidence Facts) (now : Int) (store : Store) : Store :=
  let store :=
    match store.activeEpisode with
    | some episode => resolveEpisode evidence episode now store
    | none => store
  let store := ((releaseEpisode store).resetDwell .trigger).resetDwell .resolve
  let store := (store.clearConfirmations .trigger).clearConfirmations .resolve
  rememberEvidence evidence .notMatched store

/-- Older than what the state was last evaluated on. -/
def staleEvidence (rule : Rule Facts) (evidence : Evidence Facts) (timerRecheck : Bool)
    (store : Store) : Bool :=
  (rule.kind = .metric || rule.kind = .state) && !timerRecheck &&
    match store.state.lastEvidenceObservedAt with
    | some last =>
      evidence.observedAt < last ||
        evidence.observedAt = last &&
          store.state.lastEvidenceSeq.any fun lastSeq => evidence.evidenceSeq ≤ lastSeq
    | none => false

def truthStateOf : ExpressionTruth → TruthState
  | .holds => .matched
  | .fails => .notMatched
  | .unknown => .unknown

/-- Without a resolve expression the trigger's conclusive failure is the recovery. -/
def resolveTruthOf (rule : Rule Facts) (evidence : Evidence Facts)
    (triggerTruth : ExpressionTruth) : Option ExpressionTruth :=
  if rule.kind = .occurrence then some .fails
  else
    match rule.resolveTruth with
    | some expression => expression evidence
    | none =>
      match triggerTruth with
      | .holds => some .fails
      | .fails => some .holds
      | .unknown => some .unknown

/-- The selector cannot tell whether the evidence is in scope. -/
def evaluateUnknownScope (rule : Rule Facts) (evidence : Evidence Facts) (now : Int)
    (store : Store) : Store :=
  if rule.kind = .occurrence then
    rememberEvidence evidence store.state.truthState store
  else
    let store :=
      match store.activeEpisode with
      | some active =>
        markEpisodeUnknown evidence active
          (resetGateIfContradicted rule evidence .resolve .unknown now store)
      | none => resetGateIfContradicted rule evidence .trigger .unknown now store
    rememberEvidence evidence .unknown store

/-- The resolve gate passed. -/
def closeEpisode (rule : Rule Facts) (evidence : Evidence Facts) (episode : Episode)
    (now : Int) (store : Store) : Store :=
  let store := releaseEpisode (resolveEpisode evidence episode now store)
  let store := (store.setDwell .resolve {}).note (.passed .resolve now)
  let store := store.clearConfirmations .resolve
  if rule.kind = .occurrence then
    { store.clearConfirmations .trigger with
      state := { store.state with occurrenceCohortId := some store.nextId }
      nextId := store.nextId + 1 }
  else store

/-- The trigger gate passed. Its dwell belongs to the generation it opened. -/
def openEpisode (rule : Rule Facts) (evidence : Evidence Facts) (suppressed : Bool)
    (now : Int) (store : Store) : Store :=
  let store :=
    match triggerEpisode rule evidence suppressed now store with
    | (some episode, store) =>
      { store with state := { store.state with
          activeEpisodeId := some episode.id, activeTriggeredAt := some episode.triggeredAt } }
    | (none, store) =>
      if rule.kind = RuleKind.occurrence then
        { store with
          state := { store.state with occurrenceCohortId := some store.nextId }
          nextId := store.nextId + 1 }
      else store
  (store.setDwell .trigger {}).note (.passed .trigger now)

/-- An episode is open and the evidence does not confirm its recovery. -/
def evaluateUnrecovered (rule : Rule Facts) (evidence : Evidence Facts) (active : Episode)
    (triggerTruth resolveTruth : ExpressionTruth) (now : Int) (store : Store) : Store :=
  let store := resetGateIfContradicted rule evidence .resolve resolveTruth now store
  if triggerTruth = .holds then
    let store := persistEpisodeConfirmation evidence active store
    if rule.kind = .occurrence then store.clearConfirmations .trigger else store
  else if (triggerTruth = .unknown ∨ resolveTruth = .unknown) ∧ rule.kind ≠ .occurrence then
    markEpisodeUnknown evidence active store
  else if rule.kind ≠ .occurrence ∧ triggerTruth = .fails ∧ resolveTruth = .fails then
    persistEpisodeConfirmation evidence active store
  else store

def evaluateInScope (rule : Rule Facts) (evidence : Evidence Facts) (suppressed : Bool)
    (triggerTruth resolveTruth : ExpressionTruth) (now : Int) (store : Store) : Store :=
  let evaluated :=
    match store.activeEpisode with
    | some active =>
      if resolveTruth = .holds then
        match advanceGate rule evidence .resolve now store with
        | (true, store) => closeEpisode rule evidence active now store
        | (false, store) =>
          if rule.kind = .occurrence then store
          else persistEpisodeConfirmation evidence active store
      else evaluateUnrecovered rule evidence active triggerTruth resolveTruth now store
    | none =>
      if triggerTruth = .holds then
        match advanceGate rule evidence .trigger now store with
        | (true, store) => openEpisode rule evidence suppressed now store
        | (false, store) => store
      else resetGateIfContradicted rule evidence .trigger triggerTruth now store
  rememberEvidence evidence (truthStateOf triggerTruth) evaluated

/-- One evaluation at database time `now`; nothing on an error, whose transaction is
    rolled back. `suppressed` tells whether the subject is suspended or being suspended. -/
def evaluateRule (rule : Rule Facts) (evidence : Evidence Facts) (timerRecheck suppressed : Bool)
    (now : Int) (store : Store) : Option Store := do
  if rule.correlationMode = .subject ∧ evidence.subjectClientId.isNone then none
  else if rule.kind ≠ evidence.factKind then none
  else if staleEvidence rule evidence timerRecheck store then return store
  else if evidence.sourceScopeExited then return resolveScopeExit evidence now store
  else
    match ← rule.scopeTruth evidence with
    | .outOfScope =>
      if rule.kind = RuleKind.occurrence then return store
      else return resolveScopeExit evidence now store
    | .unknown => return evaluateUnknownScope rule evidence now store
    | .inScope =>
      let triggerTruth ← rule.triggerTruth evidence
      let resolveTruth ← resolveTruthOf rule evidence triggerTruth
      return evaluateInScope rule evidence suppressed triggerTruth resolveTruth now store

/-- The ways in which an evaluation succeeds, with what it found out. -/
inductive Evaluated (rule : Rule Facts) (evidence : Evidence Facts) (timerRecheck suppressed : Bool)
    (now : Int) (store : Store) : Store → Prop
  | stale (stale : staleEvidence rule evidence timerRecheck store = true) :
      Evaluated rule evidence timerRecheck suppressed now store store
  | ignored (occurrence : rule.kind = .occurrence) (scope : rule.scopeTruth evidence = some .outOfScope) :
      Evaluated rule evidence timerRecheck suppressed now store store
  | scopeExit :
      Evaluated rule evidence timerRecheck suppressed now store (resolveScopeExit evidence now store)
  | unknownScope (scope : rule.scopeTruth evidence = some .unknown) :
      Evaluated rule evidence timerRecheck suppressed now store
        (evaluateUnknownScope rule evidence now store)
  | inScope {triggerTruth resolveTruth : ExpressionTruth}
      (scope : rule.scopeTruth evidence = some .inScope)
      (trigger : rule.triggerTruth evidence = some triggerTruth)
      (resolve : resolveTruthOf rule evidence triggerTruth = some resolveTruth) :
      Evaluated rule evidence timerRecheck suppressed now store
        (evaluateInScope rule evidence suppressed triggerTruth resolveTruth now store)

theorem evaluateRule_evaluated {rule : Rule Facts}
    (done : evaluateRule rule evidence timerRecheck suppressed now store = some after) :
    Evaluated rule evidence timerRecheck suppressed now store after := by
  unfold evaluateRule at done
  split at done
  · cases done
  split at done
  · cases done
  split at done
  next stale =>
    cases done
    exact .stale stale
  · split at done
    · cases done
      exact .scopeExit
    · obtain ⟨truth, scope, done⟩ := Option.bind_eq_some_iff.mp done
      cases truth with
      | outOfScope =>
        dsimp only at done
        split at done
        next occurrence =>
          cases done
          exact .ignored occurrence scope
        · cases done
          exact .scopeExit
      | unknown =>
        cases done
        exact .unknownScope scope
      | inScope =>
        obtain ⟨triggerTruth, trigger, done⟩ := Option.bind_eq_some_iff.mp done
        obtain ⟨resolveTruth, resolve, done⟩ := Option.bind_eq_some_iff.mp done
        cases done
        exact .inScope scope trigger resolve

/-! ## What an evaluation does -/

/-- The truth that counts for the phase. -/
def Rule.phaseTruth (rule : Rule Facts) (evidence : Evidence Facts) :
    GatePhase → Option ExpressionTruth
  | .trigger => rule.triggerTruth evidence
  | .resolve => (rule.triggerTruth evidence).bind (resolveTruthOf rule evidence)

/-- The evidence is in scope and true for the phase. -/
def Rule.Confirms (rule : Rule Facts) (phase : GatePhase) (evidence : Evidence Facts) : Prop :=
  rule.scopeTruth evidence = some .inScope ∧ rule.phaseTruth evidence phase = some .holds

/-- The phase whose turn it is. -/
def Store.turn (store : Store) : GatePhase :=
  if store.activeEpisode.isSome then .resolve else .trigger

theorem Store.turn_of_active (active : activeEpisode store = some episode) :
    store.turn = .resolve := by
  rw [Store.turn, active]
  rfl

theorem Store.turn_of_idle (idle : activeEpisode store = none) : store.turn = .trigger := by
  rw [Store.turn, idle]
  rfl

/-- The evidence leaves its mark on an episode or in the state. -/
inductive Touches (evidence : Evidence Facts) (store : Store) : Store → Prop
  | persists (episode : Episode) :
      Touches evidence store (persistEpisodeConfirmation evidence episode store)
  | marks (episode : Episode) : Touches evidence store (markEpisodeUnknown evidence episode store)
  | remembers (truth : TruthState) : Touches evidence store (rememberEvidence evidence truth store)

/-- What is known of the store after each of the things that evidence in scope may do is known
    of the store after its evaluation. -/
structure Works (rule : Rule Facts) (evidence : Evidence Facts) (suppressed : Bool) (now : Int)
    (store : Store) (known : Store → Prop) : Prop where
  touched : ∀ {before after}, Touches evidence before after → known before → known after
  reset : ∀ {truth}, (rule.scopeTruth evidence = some .inScope →
      rule.phaseTruth evidence store.turn = some truth) →
    known (resetGateIfContradicted rule evidence store.turn truth now store)
  /-- An occurrence uses up the trigger's confirmations. -/
  used : rule.kind = .occurrence → store.turn = .resolve → ∀ truth, known
    ((resetGateIfContradicted rule evidence .resolve truth now store).clearConfirmations .trigger)
  waits : rule.Confirms store.turn evidence → ∀ {after},
    advanceGate rule evidence store.turn now store = (false, after) → known after
  closed : rule.Confirms .resolve evidence → ∀ {episode after},
    store.activeEpisode = some episode →
    advanceGate rule evidence .resolve now store = (true, after) →
    known (closeEpisode rule evidence episode now after)
  opened : rule.Confirms .trigger evidence → ∀ {after}, store.activeEpisode = none →
    advanceGate rule evidence .trigger now store = (true, after) →
    known (openEpisode rule evidence suppressed now after)

/-- The same for evidence that may be out of scope or stale. -/
structure Covers (rule : Rule Facts) (evidence : Evidence Facts) (suppressed : Bool) (now : Int)
    (store : Store) (known : Store → Prop) : Prop
    extends Works rule evidence suppressed now store known where
  unchanged : known store
  exited : known (resolveScopeExit evidence now store)

section Covered

variable {rule : Rule Facts} {evidence : Evidence Facts} {store : Store} {known : Store → Prop}
  (works : Works rule evidence suppressed now store known)
include works

theorem Works.unrecovered (active : store.activeEpisode = some episode)
    (resolve : rule.phaseTruth evidence .resolve = some resolveTruth) :
    known (evaluateUnrecovered rule evidence episode triggerTruth resolveTruth now store) := by
  have turn := Store.turn_of_active active
  have reset := works.reset fun _ => turn ▸ resolve
  rw [turn] at reset
  unfold evaluateUnrecovered
  split
  · split
    next occurrence =>
      exact works.touched (.persists episode) (works.used occurrence turn resolveTruth)
    · exact works.touched (.persists episode) reset
  · split
    · exact works.touched (.marks episode) reset
    · split
      · exact works.touched (.persists episode) reset
      · exact reset

theorem Works.inScope (scope : rule.scopeTruth evidence = some .inScope)
    (trigger : rule.triggerTruth evidence = some triggerTruth)
    (resolve : resolveTruthOf rule evidence triggerTruth = some resolveTruth) :
    known (evaluateInScope rule evidence suppressed triggerTruth resolveTruth now store) := by
  have resolve : rule.phaseTruth evidence .resolve = some resolveTruth := by
    rw [Rule.phaseTruth, trigger, Option.bind_some, resolve]
  refine works.touched (.remembers _) ?_
  split
  next episode active =>
    have turn := Store.turn_of_active active
    split
    next reworks =>
      have confirms : rule.Confirms .resolve evidence := ⟨scope, reworks ▸ resolve⟩
      split
      next passed =>
        exact works.closed confirms active passed
      next waiting =>
        have waits := works.waits (turn ▸ confirms) (turn ▸ waiting)
        split
        · exact waits
        · exact works.touched (.persists episode) waits
    · exact works.unrecovered active resolve
  next idle =>
    have turn := Store.turn_of_idle idle
    split
    next triggers =>
      have confirms : rule.Confirms .trigger evidence := ⟨scope, triggers ▸ trigger⟩
      split
      next passed =>
        exact works.opened confirms idle passed
      next waiting =>
        exact works.waits (turn ▸ confirms) (turn ▸ waiting)
    · have trigger : rule.phaseTruth evidence store.turn = some triggerTruth := turn ▸ trigger
      have reset := works.reset fun _ => trigger
      rwa [turn] at reset

omit works

variable (covers : Covers rule evidence suppressed now store known)
include covers

theorem Covers.unknownScope (scope : rule.scopeTruth evidence = some .unknown) :
    known (evaluateUnknownScope rule evidence now store) := by
  have reset : known (resetGateIfContradicted rule evidence store.turn .unknown now store) :=
    covers.reset fun inScope => nomatch scope.symm.trans inScope
  unfold evaluateUnknownScope
  split
  · exact covers.touched (.remembers _) covers.unchanged
  refine covers.touched (.remembers _) ?_
  split
  next episode active =>
    rw [Store.turn_of_active active] at reset
    exact covers.touched (.marks episode) reset
  next idle =>
    rwa [Store.turn_of_idle idle] at reset

theorem Evaluated.covered
    (done : Evaluated rule evidence timerRecheck suppressed now store after) : known after := by
  cases done with
  | stale | ignored => exact covers.unchanged
  | scopeExit => exact covers.exited
  | unknownScope scope => exact covers.unknownScope scope
  | inScope scope trigger resolve => exact covers.inScope scope trigger resolve

end Covered

end

structure Evaluation (Facts : Type) where
  evidence : Evidence Facts
  timerRecheck : Bool
  suppressed : Bool
  now : Int

/-- A failed evaluation leaves everything as it was. -/
def Store.evaluate {Facts : Type} (rule : Rule Facts) (store : Store)
    (evaluation : Evaluation Facts) : Store :=
  (evaluateRule rule evaluation.evidence evaluation.timerRecheck evaluation.suppressed
    evaluation.now store).getD store

theorem Store.evaluate_eq (rule : Rule Facts) :
    store.evaluate rule evaluation = store ∨
      Evaluated rule evaluation.evidence evaluation.timerRecheck evaluation.suppressed evaluation.now
        store (store.evaluate rule evaluation) := by
  unfold Store.evaluate
  cases done : evaluateRule rule evaluation.evidence evaluation.timerRecheck evaluation.suppressed
      evaluation.now store with
  | none => exact .inl rfl
  | some after => exact .inr (evaluateRule_evaluated done)

def Store.evaluateAll {Facts : Type} (rule : Rule Facts) (store : Store)
    (evaluations : List (Evaluation Facts)) : Store :=
  evaluations.foldl (Store.evaluate rule) store

end Vpsman.Policy

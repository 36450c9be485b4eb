import Mathlib.Data.List.Pairwise
import Vpsman.Lib.Machine
import Vpsman.Policy.Evaluator

/-! # Alert episodes over evaluations and timers

Besides evidence, due timers move a rule's state: they close an occurrence whose time has
elapsed and evaluate a state rule again on its last evidence. Over any sequence of the
two, every change to the episodes is one of three: an episode is opened when none is open,
the open one is resolved, or a resolved one is let go.
-/

namespace Vpsman.Policy

open Vpsman.Lib

/-! ## Due transitions -/

/-- What a due timer finds in the database. -/
structure Due (Facts : Type) where
  /-- The evidence the state was last evaluated on. -/
  evidence : Option (Evidence Facts)
  /-- That evidence has the subject's present scope revision. -/
  scopeCurrent : Bool
  /-- The evidence that last contributed to the open episode. -/
  episodeEvidence : Evidence Facts
  suppressed : Bool
  /-- An error of the evaluation is one of the rule's own and not of the database. -/
  deterministicError : Bool
  now : Int

section

variable {Facts : Type}

/-- The time of an occurrence has elapsed. -/
def elapseEpisode (due : Due Facts) (active : Episode) (store : Store) : Store :=
  let store := releaseEpisode (resolveEpisode due.episodeEvidence active due.now store)
  let store := (store.resetDwell .trigger).resetDwell .resolve
  let store := (store.clearConfirmations .trigger).clearConfirmations .resolve
  { store with
    state := { store.state with
      truthState := .notMatched
      occurrenceCohortId := some store.nextId }
    nextId := store.nextId + 1 }

def dueOccurrence (rule : Rule Facts) (due : Due Facts) (store : Store) : Option Store :=
  match rule.resolveMeta with
  | some (.elapsedSinceTrigger seconds) =>
    match store.activeEpisode with
    | none => some store
    | some active =>
      if active.lastEvidenceId ≠ due.episodeEvidence.id then none
      else if due.now < active.triggeredAt + seconds * microsPerSecond then some store
      else some (elapseEpisode due active store)
  | _ => none

/-- A rule's own error in a due evaluation leaves the state unknown and without dwell. -/
def dueState (rule : Rule Facts) (due : Due Facts) (evidence : Evidence Facts) (store : Store) :
    Option Store :=
  match evaluateRule rule evidence true due.suppressed due.now store with
  | some store => some store
  | none =>
    if due.deterministicError then
      let store := (store.resetDwell .trigger).resetDwell .resolve
      some { store with state := { store.state with truthState := .unknown } }
    else none

/-- One round of `evaluate_due_policy_transitions_page` for this rule and bucket; nothing on
    an error, whose transaction is rolled back. -/
def dueTransition (rule : Rule Facts) (due : Due Facts) (store : Store) : Option Store :=
  match due.evidence with
  | none => some { store with state := { store.state with truthState := .unknown } }
  | some evidence =>
    if rule.kind ≠ .occurrence ∧ ¬ due.scopeCurrent then some store
    else
      match rule.kind with
      | .occurrence => dueOccurrence rule due store
      | .metric => some store
      | .state => dueState rule due evidence store

/-- The ways in which a due timer succeeds. -/
inductive DueOutcome (rule : Rule Facts) (due : Due Facts) (store : Store) : Store → Prop
  | quiet (truth : TruthState) :
      DueOutcome rule due store { store with state := { store.state with truthState := truth } }
  | elapsed {seconds : Int} {episode : Episode} (occurrence : rule.kind = .occurrence)
      (elapses : rule.resolveMeta = some (.elapsedSinceTrigger seconds))
      (active : store.activeEpisode = some episode)
      (reached : episode.triggeredAt + seconds * microsPerSecond ≤ due.now) :
      DueOutcome rule due store (elapseEpisode due episode store)
  | evaluated {evidence : Evidence Facts} {after : Store} (state : rule.kind = .state)
      (found : due.evidence = some evidence)
      (done : Evaluated rule evidence true due.suppressed due.now store after) :
      DueOutcome rule due store after
  | failed (state : rule.kind = .state) :
      DueOutcome rule due store
        { (store.resetDwell .trigger).resetDwell .resolve with
          state := { ((store.resetDwell .trigger).resetDwell .resolve).state with
            truthState := .unknown } }

theorem dueTransition_outcome {rule : Rule Facts}
    (done : dueTransition rule due store = some after) : DueOutcome rule due store after := by
  have unchanged : DueOutcome rule due store store := .quiet store.state.truthState
  unfold dueTransition at done
  split at done
  · cases done
    exact .quiet .unknown
  next evidence found =>
    split at done
    · cases done
      exact unchanged
    split at done
    next occurrence =>
      unfold dueOccurrence at done
      split at done
      next seconds elapses =>
        split at done
        · cases done
          exact unchanged
        next episode active =>
          split at done
          · cases done
          split at done
          · cases done
            exact unchanged
          next reached =>
            cases done
            exact .elapsed occurrence elapses active (not_lt.mp reached)
      · cases done
    · cases done
      exact unchanged
    next state =>
      unfold dueState at done
      split at done
      next evaluated =>
        cases done
        exact .evaluated state found (evaluateRule_evaluated evaluated)
      · split at done
        · cases done
          exact .failed state
        · cases done

inductive Transition (Facts : Type)
  | evaluation (evaluation : Evaluation Facts)
  | due (due : Due Facts)

def Transition.now : Transition Facts → Int
  | .evaluation call => call.now
  | .due timer => timer.now

def Store.perform (rule : Rule Facts) (store : Store) : Transition Facts → Store
  | .evaluation evaluation => store.evaluate rule evaluation
  | .due due => (dueTransition rule due store).getD store

inductive Performed (rule : Rule Facts) (store : Store) : Transition Facts → Store → Prop
  | failed (transition : Transition Facts) : Performed rule store transition store
  | evaluation {evaluation : Evaluation Facts} {after : Store}
      (done : Evaluated rule evaluation.evidence evaluation.timerRecheck evaluation.suppressed
        evaluation.now store after) :
      Performed rule store (.evaluation evaluation) after
  | due {due : Due Facts} {after : Store} (outcome : DueOutcome rule due store after) :
      Performed rule store (.due due) after

theorem perform_performed (rule : Rule Facts) (store : Store) (transition : Transition Facts) :
    Performed rule store transition (store.perform rule transition) := by
  cases transition with
  | evaluation =>
    rcases Store.evaluate_eq rule with failed | done
    · rw [Store.perform, failed]
      exact .failed _
    · exact .evaluation done
  | due due =>
    unfold Store.perform
    dsimp only
    cases done : dueTransition rule due store with
    | none => exact .failed _
    | some => exact .due (dueTransition_outcome done)

/-- The store of a new bucket after the transitions. -/
def Store.after (rule : Rule Facts) (cohort : Option Nat) (transitions : List (Transition Facts)) :
    Store :=
  transitions.foldl (Store.perform rule) { state := { occurrenceCohortId := cohort } }

end

/-! ## What happens to the episodes -/

/-- The edge that may come next: a trigger while no episode is open, then the resolution of
    the one it opened. -/
def Edge.follow : Option Nat → Edge → Option (Option Nat)
  | none, .triggered episode _ => some (some episode)
  | some opened, .resolved episode _ => if episode = opened then some none else none
  | _, _ => none

def Edge.triggeredEpisode : Edge → Option Nat
  | .triggered episode _ => some episode
  | .resolved _ _ => none

/-- What stays of an episode whatever is confirmed about it. -/
structure EpisodeRecord where
  id : Nat
  generation : Int
  triggeredAt : Int
  resolvedAt : Option Int
  deriving DecidableEq, Repr

def Episode.record (episode : Episode) : EpisodeRecord :=
  ⟨episode.id, episode.generation, episode.triggeredAt, episode.resolvedAt⟩

/-- The part of the store that the episodes live in. -/
structure Incidents where
  episodes : List EpisodeRecord
  edges : List Edge
  generation : Int
  activeEpisodeId : Option Nat
  nextId : Nat

def Store.incidents (store : Store) : Incidents where
  episodes := store.episodes.map Episode.record
  edges := store.edges
  generation := store.state.triggerGeneration
  activeEpisodeId := store.state.activeEpisodeId
  nextId := store.nextId

namespace Incidents

def active (incidents : Incidents) : Option EpisodeRecord :=
  incidents.activeEpisodeId.bind fun id =>
    incidents.episodes.find? fun episode => episode.id = id && episode.resolvedAt.isNone

def resolve (incidents : Incidents) (id : Nat) (now : Int) : Incidents :=
  { incidents with
    episodes := incidents.episodes.map fun episode =>
      if episode.id = id && episode.resolvedAt.isNone then { episode with resolvedAt := some now }
      else episode
    edges := incidents.edges ++ [.resolved id now]
    activeEpisodeId := none }

def trigger (incidents : Incidents) (now : Int) : Incidents :=
  let generation := saturatingAdd incidents.generation 1
  { incidents with
    episodes := incidents.episodes ++ [⟨incidents.nextId, generation, now, none⟩]
    edges := incidents.edges ++ [.triggered incidents.nextId now]
    generation
    activeEpisodeId := some incidents.nextId
    nextId := incidents.nextId + 2 }

/-- One change of the episodes at time `now`. -/
inductive Step (now : Int) : Incidents → Incidents → Prop
  | trigger (incidents : Incidents) (idle : incidents.active = none) :
      Step now incidents (incidents.trigger now)
  | resolve (incidents : Incidents) {episode : EpisodeRecord} (active : incidents.active = some episode) :
      Step now incidents (incidents.resolve episode.id now)
  | release (incidents : Incidents) (idle : incidents.active = none) :
      Step now incidents { incidents with activeEpisodeId := none }
  /-- An id is used for something else. -/
  | draw (incidents : Incidents) : Step now incidents { incidents with nextId := incidents.nextId + 1 }

abbrev Steps (now : Int) : Incidents → Incidents → Prop := Relation.ReflTransGen (Step now)

end Incidents

/-! ## Evaluations and timers as changes of the episodes -/

section Changes

variable {Facts : Type} {rule : Rule Facts} {evidence : Evidence Facts} {now : Int}
  {store : Store}

@[simp] theorem incidents_setDwell_note :
    ((store.setDwell phase dwell).note event).incidents = store.incidents := by
  cases phase <;> rfl

@[simp] theorem incidents_resetDwell : (store.resetDwell phase).incidents = store.incidents :=
  incidents_setDwell_note

@[simp] theorem incidents_setConfirmations :
    (store.setConfirmations phase confirmations).incidents = store.incidents := by
  cases phase <;> rfl

@[simp] theorem incidents_clearConfirmations :
    (store.clearConfirmations phase).incidents = store.incidents :=
  incidents_setConfirmations

@[simp] theorem incidents_insertConfirmation :
    (insertConfirmation store phase evidence).incidents = store.incidents := by
  unfold insertConfirmation
  split
  · rfl
  · exact incidents_setConfirmations

@[simp] theorem incidents_retainSustainedConfirmationAnchor :
    (retainSustainedConfirmationAnchor store phase evidence).incidents = store.incidents := by
  unfold retainSustainedConfirmationAnchor
  split
  · exact incidents_insertConfirmation
  · rfl

@[simp] theorem incidents_dropConfirmationsBefore :
    (dropConfirmationsBefore store phase cutoff).incidents = store.incidents :=
  incidents_setConfirmations

@[simp] theorem incidents_pruneCountConfirmations :
    (pruneCountConfirmations store phase gate now).incidents = store.incidents := by
  unfold pruneCountConfirmations
  split
  · exact incidents_dropConfirmationsBefore
  · rfl

theorem incidents_updateEpisode
    (same : ∀ episode, (update episode).record = episode.record) (id : Nat) :
    (store.updateEpisode id update).incidents = store.incidents := by
  unfold Store.incidents Store.updateEpisode
  rw [List.map_map]
  congr 1
  refine List.map_congr_left fun episode _ => ?_
  rw [Function.comp_apply]
  split
  · exact same episode
  · rfl

theorem Touches.incidents {before after : Store} (touches : Touches evidence before after) :
    after.incidents = before.incidents := by
  cases touches with
  | persists | marks =>
    apply incidents_updateEpisode
    exact fun _ => rfl
  | remembers => rfl

theorem incidents_resolveEpisode :
    (releaseEpisode (resolveEpisode evidence episode now store)).incidents =
      store.incidents.resolve episode.id now := by
  unfold releaseEpisode resolveEpisode Store.emit Store.updateEpisode Store.incidents Incidents.resolve
  simp only [List.map_map, Incidents.mk.injEq, and_true]
  exact List.map_congr_left fun held _ => apply_ite Episode.record _ _ _

theorem active_incidents (store : Store) :
    store.incidents.active = store.activeEpisode.map Episode.record := by
  unfold Incidents.active Store.activeEpisode Store.incidents
  cases store.state.activeEpisodeId with
  | none => rfl
  | some =>
    rw [Option.bind_some, Option.bind_some, List.find?_map]
    rfl

theorem incidents_advanceGate (advanced : advanceGate rule evidence phase now store = (passed, after)) :
    after.incidents = store.incidents := by
  rw [← show (advanceGate rule evidence phase now store).2 = after by rw [advanced]]
  unfold advanceGate
  split
  · rfl
  · rfl
  · simp
  · rw [incidents_dropConfirmationsBefore]
    split
    · rfl
    · exact incidents_insertConfirmation
  · rfl

theorem incidents_resetGateIfContradicted :
    (resetGateIfContradicted rule evidence phase truth now store).incidents = store.incidents := by
  cases truth with
  | holds => rfl
  | fails | unknown =>
    unfold resetGateIfContradicted
    dsimp only
    split <;> simp

theorem resolveScopeExit_incidents :
    Incidents.Steps now store.incidents (resolveScopeExit evidence now store).incidents := by
  have active := active_incidents store
  unfold resolveScopeExit
  simp only [(Touches.remembers _).incidents, incidents_clearConfirmations, incidents_resetDwell]
  cases open_ : store.activeEpisode with
  | none =>
    rw [open_] at active
    exact .single (.release _ active)
  | some =>
    rw [open_] at active
    rw [incidents_resolveEpisode]
    exact .single (.resolve _ active)

theorem closeEpisode_incidents (active : store.incidents.active = some episode.record) :
    Incidents.Steps now store.incidents (closeEpisode rule evidence episode now store).incidents := by
  have resolved : Incidents.Step now store.incidents (store.incidents.resolve episode.id now) :=
    .resolve _ active
  rw [← incidents_resolveEpisode] at resolved
  unfold closeEpisode
  split
  · exact .tail (.single resolved) (.draw _)
  · simpa using Relation.ReflTransGen.single resolved

theorem openEpisode_incidents (idle : store.incidents.active = none) :
    Incidents.Steps now store.incidents
      (openEpisode rule evidence suppressed now store).incidents := by
  have step : Incidents.Step now store.incidents (store.incidents.trigger now) := .trigger _ idle
  unfold openEpisode triggerEpisode
  split_ifs
  · exact .single (.draw _)
  · exact .refl
  all_goals
    refine .single ?_
    simpa [Incidents.trigger, Store.incidents, Store.emit, Store.clearConfirmations,
      Store.setConfirmations, Store.setDwell, Store.note, Episode.record] using step

theorem incidents_cover :
    Covers rule evidence suppressed now store fun after =>
      Incidents.Steps now store.incidents after.incidents where
  unchanged := .refl
  exited := resolveScopeExit_incidents
  touched touches steps := touches.incidents ▸ steps
  reset _ := by rw [incidents_resetGateIfContradicted]
  used _ _ _ := by rw [incidents_clearConfirmations, incidents_resetGateIfContradicted]
  waits _ _ advanced := by rw [incidents_advanceGate advanced]
  closed _ _ _ active advanced := by
    have same := incidents_advanceGate advanced
    rw [← same]
    refine closeEpisode_incidents ?_
    rw [same, active_incidents, active, Option.map_some]
  opened _ _ idle advanced := by
    have same := incidents_advanceGate advanced
    rw [← same]
    refine openEpisode_incidents ?_
    rw [same, active_incidents, idle, Option.map_none]

theorem incidents_elapseEpisode (due : Due Facts) :
    (elapseEpisode due episode store).incidents =
      { store.incidents.resolve episode.id due.now with nextId := store.nextId + 1 } := by
  rw [← incidents_resolveEpisode]
  rfl

theorem DueOutcome.incidents (outcome : DueOutcome rule due store after) :
    Incidents.Steps due.now store.incidents after.incidents := by
  cases outcome with
  | quiet | failed => exact .refl
  | elapsed _ _ found =>
    have active := active_incidents store
    rw [found] at active
    rw [incidents_elapseEpisode]
    exact .tail (.single (.resolve _ active)) (.draw _)
  | evaluated _ _ done => exact done.covered incidents_cover

theorem Performed.incidents (performed : Performed rule store transition after) :
    Incidents.Steps transition.now store.incidents after.incidents := by
  cases performed with
  | failed => exact .refl
  | evaluation done => exact done.covered incidents_cover
  | due outcome => exact outcome.incidents

end Changes

/-! ## Edges alternate -/

/-- The edges alternate, and what is open after them is the unresolved episode the state
    names; each episode has the generation of its trigger. -/
structure Incidents.Orderly (incidents : Incidents) (held : Option Nat) : Prop where
  alternate : run Edge.follow none incidents.edges = some held
  unresolved : ∀ episode ∈ incidents.episodes, episode.resolvedAt = none ↔ held = some episode.id
  named : ∀ id, held = some id →
    incidents.activeEpisodeId = some id ∧ id ∈ incidents.episodes.map (·.id)
  ordered : (incidents.episodes.map (·.id)).Pairwise (· < ·)
  unused : ∀ id ∈ incidents.episodes.map (·.id), id < incidents.nextId
  opened : incidents.edges.filterMap Edge.triggeredEpisode = incidents.episodes.map (·.id)
  generation : incidents.generation = min (incidents.episodes.length : Int) i64Max
  generations : incidents.episodes.map (·.generation) =
    (List.range incidents.episodes.length).map fun earlier : Nat => min ((earlier : Int) + 1) i64Max

theorem saturatingAdd_one (count : Nat) :
    saturatingAdd (min (count : Int) i64Max) 1 = min ((count : Int) + 1) i64Max := by
  unfold saturatingAdd i64Max
  omega

namespace Incidents

variable {incidents : Incidents} {held : Option Nat} {now : Int}

theorem map_resolve {β : Type} (incidents : Incidents) (field : EpisodeRecord → β) (id : Nat)
    (now : Int) (same : ∀ episode, field { episode with resolvedAt := some now } = field episode) :
    (incidents.resolve id now).episodes.map field = incidents.episodes.map field := by
  unfold resolve
  rw [List.map_map]
  refine List.map_congr_left fun episode _ => ?_
  rw [Function.comp_apply]
  split
  · exact same episode
  · rfl

section

variable (orderly : incidents.Orderly held)
include orderly

theorem Orderly.held_of_active (active : incidents.active = some episode) : held = some episode.id := by
  obtain ⟨id, _, found⟩ := Option.bind_eq_some_iff.mp active
  have unresolved := List.find?_some found
  rw [Bool.and_eq_true, Option.isNone_iff_eq_none] at unresolved
  exact (orderly.unresolved episode (List.mem_of_find?_eq_some found)).mp unresolved.2

theorem Orderly.held_of_idle (idle : incidents.active = none) : held = none := by
  cases still : held with
  | none => rfl
  | some id =>
    -- the open episode would be found under the id the state has
    obtain ⟨named, member⟩ := orderly.named id still
    obtain ⟨episode, member, same⟩ := List.mem_map.mp member
    have unresolved := (orderly.unresolved episode member).mpr (still.trans (congrArg some same.symm))
    unfold active at idle
    rw [named, Option.bind_some, List.find?_eq_none] at idle
    have missed := idle episode member
    simp [same, unresolved] at missed

theorem Orderly.trigger (idle : incidents.active = none) :
    (incidents.trigger now).Orderly (some incidents.nextId) := by
  obtain rfl := orderly.held_of_idle idle
  unfold Incidents.trigger
  constructor
  case alternate => rw [run_append, orderly.alternate]; rfl
  case unresolved =>
    intro episode member
    rcases List.mem_append.mp member with old | new
    · have earlier := orderly.unused _ (List.mem_map_of_mem old)
      have resolved := orderly.unresolved episode old
      constructor
      · intro still
        cases resolved.mp still
      · intro same
        exact absurd (Option.some.inj same).symm (Nat.ne_of_lt earlier)
    · rw [List.mem_singleton] at new
      subst new
      exact ⟨fun _ => rfl, fun _ => rfl⟩
  case named =>
    rintro id same
    cases same
    exact ⟨rfl, by simp⟩
  case ordered =>
    rw [List.map_append, List.pairwise_append]
    refine ⟨orderly.ordered, List.pairwise_singleton _ _, ?_⟩
    intro earlier member later last
    rw [List.map_singleton, List.mem_singleton] at last
    subst last
    exact orderly.unused earlier member
  case unused =>
    intro id member
    rw [List.map_append, List.mem_append, List.map_singleton, List.mem_singleton] at member
    rcases member with old | rfl
    · exact Nat.lt_add_right 2 (orderly.unused id old)
    · exact Nat.lt_add_of_pos_right (by decide)
  case opened =>
    rw [List.filterMap_append, orderly.opened, List.map_append]
    rfl
  case generation =>
    rw [orderly.generation, saturatingAdd_one, List.length_append, List.length_singleton,
      Nat.cast_add_one]
  case generations =>
    rw [List.map_append, orderly.generations, List.length_append, List.length_singleton,
      List.range_succ, List.map_append, List.map_singleton, List.map_singleton, orderly.generation,
      saturatingAdd_one]

theorem Orderly.resolve (active : incidents.active = some episode) :
    (incidents.resolve episode.id now).Orderly none := by
  obtain rfl := orderly.held_of_active active
  have ids := map_resolve incidents (·.id) episode.id now fun _ => rfl
  have count : (incidents.resolve episode.id now).episodes.length = incidents.episodes.length :=
    List.length_map _
  constructor
  case alternate =>
    unfold Incidents.resolve
    rw [run_append, orderly.alternate, Option.bind_some, run_cons, Edge.follow, if_pos rfl]
    rfl
  case unresolved =>
    intro after member
    obtain ⟨before, old, rfl⟩ := List.mem_map.mp member
    have resolved := orderly.unresolved before old
    split
    · simp
    next other =>
      refine ⟨fun still => ?_, fun nothing => by cases nothing⟩
      have same := resolved.mp still
      rw [Option.some_inj] at same
      simp [same, still] at other
  case named => exact fun id nothing => by cases nothing
  case ordered => rw [ids]; exact orderly.ordered
  case unused => rw [ids]; exact orderly.unused
  case opened =>
    rw [ids, ← orderly.opened]
    unfold Incidents.resolve
    rw [List.filterMap_append]
    exact List.append_nil _
  case generation => rw [count]; exact orderly.generation
  case generations =>
    rw [count, map_resolve incidents _ _ now fun _ => rfl]
    exact orderly.generations

theorem Orderly.release (idle : incidents.active = none) :
    Orderly { incidents with activeEpisodeId := none } none := by
  obtain rfl := orderly.held_of_idle idle
  exact { orderly with named := fun id nothing => by cases nothing }

theorem Orderly.draw :
    Orderly { incidents with nextId := incidents.nextId + 1 } held :=
  { orderly with unused := fun id member => Nat.lt_succ_of_lt (orderly.unused id member) }

theorem Orderly.unresolved_le_one :
    (incidents.episodes.filter (·.resolvedAt.isNone)).length ≤ 1 := by
  have distinct : ((incidents.episodes.filter (·.resolvedAt.isNone)).map (·.id)).Nodup :=
    (orderly.ordered.imp fun earlier => Nat.ne_of_lt earlier).sublist
      (List.filter_sublist.map _)
  have all : ∀ id ∈ (incidents.episodes.filter (·.resolvedAt.isNone)).map (·.id), some id = held := by
    intro id member
    obtain ⟨episode, kept, rfl⟩ := List.mem_map.mp member
    obtain ⟨member, still⟩ := List.mem_filter.mp kept
    exact ((orderly.unresolved episode member).mp (Option.isNone_iff_eq_none.mp still)).symm
  rw [← List.length_map (·.id)]
  cases listed : (incidents.episodes.filter (·.resolvedAt.isNone)).map (·.id) with
  | nil => exact Nat.zero_le 1
  | cons first rest =>
    rw [listed] at distinct all
    have same : ∀ id ∈ first :: rest, id = first := fun id member =>
      Option.some.inj ((all id member).trans (all first List.mem_cons_self).symm)
    rw [List.eq_replicate_of_mem same, List.nodup_replicate] at distinct
    exact distinct

end

theorem Step.orderly (step : Step now before after)
    (orderly : ∃ held, before.Orderly held) : ∃ held, after.Orderly held := by
  obtain ⟨held, orderly⟩ := orderly
  cases step with
  | trigger idle => exact ⟨_, orderly.trigger idle⟩
  | resolve active => exact ⟨_, orderly.resolve active⟩
  | release idle => exact ⟨_, orderly.release idle⟩
  | draw => exact ⟨_, orderly.draw⟩

theorem Steps.orderly (steps : Steps now before after)
    (orderly : ∃ held, before.Orderly held) : ∃ held, after.Orderly held := by
  induction steps with
  | refl => exact orderly
  | tail _ step ih => exact step.orderly ih

end Incidents

section Results

variable {Facts : Type}

/-- What the alerts of a bucket look like to those who receive them. -/
structure Store.Alternating (rule : Rule Facts) (store : Store) : Prop where
  /-- Triggers and resolutions take turns, and an episode is unresolved as long as its
      trigger has not been answered. -/
  edges : ∃ held, run Edge.follow none store.edges = some held ∧
    ∀ episode ∈ store.episodes, episode.resolvedAt = none ↔ held = some episode.id
  unresolved : (store.episodes.filter (·.resolvedAt.isNone)).length ≤ 1
  /-- Every trigger opens an episode of the next generation. -/
  generations : store.state.triggerGeneration < i64Max →
    store.episodes.map (·.id) = store.edges.filterMap Edge.triggeredEpisode ∧
    store.episodes.map (·.generation) =
      (List.range store.episodes.length).map (fun earlier : Nat => (earlier : Int) + 1) ∧
    store.state.triggerGeneration = store.episodes.length
  /-- A due timer resolves an occurrence only when its time has elapsed. -/
  elapsed : rule.kind = .occurrence → ∀ due : Due Facts,
    ((store.perform rule (.due due)).edges = store.edges ∧
      (store.perform rule (.due due)).episodes = store.episodes) ∨
    ∃ seconds, rule.resolveMeta = some (.elapsedSinceTrigger seconds) ∧
      ∃ episode ∈ store.episodes, episode.resolvedAt = none ∧
        episode.triggeredAt + seconds * microsPerSecond ≤ due.now ∧
        (store.perform rule (.due due)).edges = store.edges ++ [.resolved episode.id due.now]

theorem after_orderly (rule : Rule Facts) :
    ∃ held, (Store.after rule cohort transitions).incidents.Orderly held := by
  unfold Store.after
  have start : ∃ held, Store.incidents { state := { occurrenceCohortId := cohort } } |>.Orderly held :=
    ⟨none, rfl, by simp [Store.incidents], by simp, .nil, by simp [Store.incidents], rfl, rfl, rfl⟩
  generalize ({ state := { occurrenceCohortId := cohort } } : Store) = store at start
  induction transitions generalizing store with
  | nil => exact start
  | cons transition _ ih =>
    exact ih _ ((perform_performed rule store transition).incidents.orderly start)

theorem Store.after_alternating (rule : Rule Facts) (cohort : Option Nat)
    (transitions : List (Transition Facts)) :
    (Store.after rule cohort transitions).Alternating rule := by
  obtain ⟨held, orderly⟩ := after_orderly rule
  generalize Store.after rule cohort transitions = store at orderly
  constructor
  case edges =>
    refine ⟨held, orderly.alternate, fun episode member => ?_⟩
    exact orderly.unresolved episode.record (List.mem_map_of_mem member)
  case unresolved =>
    have few := orderly.unresolved_le_one
    unfold Store.incidents at few
    rwa [List.filter_map, List.length_map] at few
  case generations =>
    intro unsaturated
    have generation : store.state.triggerGeneration = min (store.episodes.length : Int) i64Max := by
      have counted := orderly.generation
      unfold Store.incidents at counted
      rwa [List.length_map] at counted
    refine ⟨?_, ?_, by omega⟩
    · have opened := orderly.opened
      unfold Store.incidents at opened
      rw [List.map_map] at opened
      exact opened.symm
    · have generations := orderly.generations
      unfold Store.incidents at generations
      rw [List.map_map, List.length_map] at generations
      refine generations.trans (List.map_congr_left fun earlier member => ?_)
      have earlier_lt := List.mem_range.mp member
      omega
  case elapsed =>
    intro occurrence due
    have performed := perform_performed rule store (.due due)
    generalize store.perform rule (.due due) = after at performed ⊢
    cases performed with
    | failed => exact .inl ⟨rfl, rfl⟩
    | due outcome =>
      cases outcome with
      | quiet => exact .inl ⟨rfl, rfl⟩
      | elapsed _ elapses active reached =>
        obtain ⟨id, _, found⟩ := Option.bind_eq_some_iff.mp active
        have unresolved := List.find?_some found
        rw [Bool.and_eq_true, Option.isNone_iff_eq_none] at unresolved
        exact .inr ⟨_, elapses, _, List.mem_of_find?_eq_some found, unresolved.2, reached, rfl⟩
      | evaluated state | failed state =>
        rw [occurrence] at state
        cases state

/-- An occurrence that stays open for a minute. -/
def oneMinute : Rule Unit where
  kind := .occurrence
  correlationMode := .naturalKey
  scopeTruth _ := some .inScope
  triggerTruth _ := some .holds
  triggerMeta := some .immediate
  resolveTruth := none
  resolveMeta := some (.elapsedSinceTrigger 60)
  armedAt := 0

def occurrenceAt (id : Nat) (time : Int) : Evidence Unit :=
  ⟨id, id, "source", .occurrence, none, time, time, none, false, ()⟩

/-- Its timer comes too early, then in time, and afterwards it occurs again. -/
def sampleTransitions : List (Transition Unit) :=
  [.evaluation ⟨occurrenceAt 1 0, false, false, 0⟩,
    .due ⟨some (occurrenceAt 1 0), true, occurrenceAt 1 0, false, false, 59999999⟩,
    .due ⟨some (occurrenceAt 1 0), true, occurrenceAt 1 0, false, false, 60000000⟩,
    .evaluation ⟨occurrenceAt 2 70000000, false, false, 70000000⟩]

theorem sampleTransitions_alternating :
    (Store.after oneMinute none sampleTransitions).edges =
      [.triggered 0 0, .resolved 0 60000000, .triggered 3 70000000] ∧
    (Store.after oneMinute none sampleTransitions).state.triggerGeneration < i64Max ∧
    (Store.after oneMinute none sampleTransitions).Alternating oneMinute :=
  ⟨by decide, by decide, Store.after_alternating oneMinute none sampleTransitions⟩

end Results

end Vpsman.Policy

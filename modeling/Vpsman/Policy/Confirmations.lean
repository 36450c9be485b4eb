import Vpsman.Policy.Dwell
import Vpsman.Policy.Lifecycle

/-! # The confirmations of a Count gate

True evidence that comes from the source confirms the phase it is true for, once. A
transition does one of five things to a Count phase: it leaves the confirmations alone,
drops the old ones, clears them, confirms and waits, or confirms and passes the gate. Each
confirmation a gate counts therefore goes back to evidence evaluated since the phase was
last cleared.
-/

namespace Vpsman.Policy

open Vpsman.Lib

variable {Facts : Type}

def GateEvent.passedAt (phase : GatePhase) : GateEvent → Option Int
  | .passed held now => if held = phase then some now else none
  | _ => none

/-- When the gate of the phase passed, newest first. -/
def Store.passes (store : Store) (phase : GatePhase) : List Int :=
  store.gates.filterMap (GateEvent.passedAt phase)

/-- The evidence a transition evaluates. -/
def Transition.evidence : Transition Facts → Option (Evidence Facts)
  | .evaluation call => some call.evidence
  | .due timer => timer.evidence

/-! ## What a transition does to a Count phase -/

/-- The part of the store a Count phase lives in. -/
structure Counter where
  confirmations : List Confirmation
  passes : List Int

def Store.counter (store : Store) (phase : GatePhase) : Counter :=
  ⟨store.confirmations phase, store.passes phase⟩

/-- The confirmations since `cutoff`, with the evidence's own. -/
def tally (evidence : Evidence Facts) (cutoff : Int) (confirmations : List Confirmation) :
    List Confirmation :=
  (if evidence.scopeClone || confirmations.any (·.evidenceId = evidence.id) then confirmations
    else confirmations ++ [⟨evidence.id, evidence.acceptedAt⟩]).filter (cutoff ≤ ·.acceptedAt)

/-- One transition at time `now` on this evidence, for a phase with
    `Count(confirmations, within)`. -/
inductive Counted (rule : Rule Facts) (phase : GatePhase) (confirmations : Nat) (within : Int)
    (evaluated : Option (Evidence Facts)) (now : Int) (before : Counter) : Counter → Prop
  | unchanged : Counted rule phase confirmations within evaluated now before before
  | pruned : Counted rule phase confirmations within evaluated now before
      ⟨before.confirmations.filter (now - within * microsPerSecond ≤ ·.acceptedAt), before.passes⟩
  | cleared : Counted rule phase confirmations within evaluated now before ⟨[], before.passes⟩
  | waiting {evidence : Evidence Facts} (found : evaluated = some evidence)
      (confirms : rule.Confirms phase evidence) :
      Counted rule phase confirmations within evaluated now before
        ⟨tally evidence (now - within * microsPerSecond) before.confirmations, before.passes⟩
  | passed {evidence : Evidence Facts} (found : evaluated = some evidence)
      (confirms : rule.Confirms phase evidence)
      (enough : confirmations ≤
        (tally evidence (now - within * microsPerSecond) before.confirmations).length) :
      Counted rule phase confirmations within evaluated now before ⟨[], now :: before.passes⟩

section Counters

variable {rule : Rule Facts} {evidence : Evidence Facts} {now : Int} {phase held : GatePhase}
  {store : Store}

theorem confirmations_of (same : Store.counter store phase = counter) :
    store.confirmations phase = counter.confirmations :=
  congrArg Counter.confirmations same

theorem passes_of (same : Store.counter store phase = counter) :
    store.passes phase = counter.passes :=
  congrArg Counter.passes same

@[simp] theorem counter_setDwell :
    (store.setDwell held dwell).counter phase = store.counter phase := by
  cases held <;> rfl

@[simp] theorem counter_note
    (quiet : event.passedAt phase = none) : (store.note event).counter phase = store.counter phase := by
  unfold Store.counter Store.passes Store.note
  rw [List.filterMap_cons_none quiet]
  cases phase <;> rfl

@[simp] theorem confirmations_setConfirmations :
    (store.setConfirmations phase confirmations).confirmations phase = confirmations := by
  cases phase <;> rfl

@[simp] theorem passes_setConfirmations :
    (store.setConfirmations held confirmations).passes phase = store.passes phase := by
  cases held <;> rfl

@[simp] theorem counter_setConfirmations_self :
    (store.setConfirmations phase confirmations).counter phase =
      ⟨confirmations, store.passes phase⟩ := by
  rw [Store.counter, confirmations_setConfirmations, passes_setConfirmations]

theorem counter_setConfirmations_other (other : held ≠ phase) :
    (store.setConfirmations held confirmations).counter phase = store.counter phase := by
  cases held <;> cases phase <;> first | rfl | exact absurd rfl other

@[simp] theorem counter_resetDwell :
    (store.resetDwell held).counter phase = store.counter phase := by
  unfold Store.resetDwell
  rw [counter_note rfl, counter_setDwell]

@[simp] theorem passes_resetDwell :
    (store.resetDwell held).passes phase = store.passes phase :=
  passes_of counter_resetDwell

theorem Touches.counter {before after : Store} (touches : Touches evidence before after) :
    after.counter phase = before.counter phase := by
  cases touches <;> cases phase <;> rfl

theorem counter_pruneCountConfirmations_other (other : held ≠ phase) :
    (pruneCountConfirmations store held gate now).counter phase = store.counter phase := by
  unfold pruneCountConfirmations
  split
  · exact counter_setConfirmations_other other
  · rfl

theorem counter_insertConfirmation_other (other : held ≠ phase) :
    (insertConfirmation store held evidence).counter phase = store.counter phase := by
  unfold insertConfirmation
  split
  · rfl
  · exact counter_setConfirmations_other other

theorem counter_advanceGate_other (other : held ≠ phase)
    (advanced : advanceGate rule evidence held now store = (passed, after)) :
    after.counter phase = store.counter phase := by
  rw [← show (advanceGate rule evidence held now store).2 = after by rw [advanced]]
  unfold advanceGate
  split
  · rfl
  · rfl
  · rw [counter_note rfl, counter_setDwell]
    unfold retainSustainedConfirmationAnchor
    split
    · exact counter_insertConfirmation_other other
    · rfl
  · unfold dropConfirmationsBefore
    rw [counter_setConfirmations_other other]
    split
    · rfl
    · exact counter_insertConfirmation_other other
  · rfl

theorem counter_resetGateIfContradicted_other (other : held ≠ phase) :
    (resetGateIfContradicted rule evidence held truth now store).counter phase =
      store.counter phase := by
  cases truth with
  | holds => rfl
  | fails =>
    unfold resetGateIfContradicted
    dsimp only
    split
    · rw [counter_pruneCountConfirmations_other other, counter_resetDwell]
    · unfold Store.clearConfirmations
      rw [counter_setConfirmations_other other, counter_resetDwell]
  | unknown =>
    unfold resetGateIfContradicted
    rw [counter_pruneCountConfirmations_other other]
    split
    · rw [counter_note rfl, counter_setDwell]
    · rfl

theorem counter_insertConfirmation :
    (insertConfirmation store phase evidence).counter phase =
      ⟨if (store.confirmations phase).any (·.evidenceId = evidence.id) then store.confirmations phase
        else store.confirmations phase ++ [⟨evidence.id, evidence.acceptedAt⟩],
        store.passes phase⟩ := by
  unfold insertConfirmation
  split
  · rfl
  · exact counter_setConfirmations_self

theorem counter_resolveScopeExit :
    (resolveScopeExit evidence now store).counter phase = ⟨[], store.passes phase⟩ := by
  unfold resolveScopeExit
  split <;> cases phase <;> rfl

theorem counter_closeEpisode_resolve :
    (closeEpisode rule evidence episode now store).counter .resolve =
      ⟨[], now :: store.passes .resolve⟩ := by
  unfold closeEpisode
  split <;> rfl

theorem counter_closeEpisode_trigger {p : Counter → Prop} (same : p (store.counter .trigger))
    (cleared : p ⟨[], store.passes .trigger⟩) :
    p ((closeEpisode rule evidence episode now store).counter .trigger) := by
  unfold closeEpisode
  split
  · exact cleared
  · exact same

theorem counter_openEpisode_trigger :
    (openEpisode rule evidence suppressed now store).counter .trigger =
      ⟨[], now :: store.passes .trigger⟩ := by
  unfold openEpisode triggerEpisode
  split_ifs <;> rfl

theorem counter_openEpisode_resolve :
    (openEpisode rule evidence suppressed now store).counter .resolve = store.counter .resolve := by
  unfold openEpisode triggerEpisode
  split_ifs <;> rfl

section Counting

variable {confirmations : Nat} {within : Int} {store after : Store}
  (counts : rule.metaOf phase = some (.count confirmations within))
include counts

/-- The gate adds the evidence's own confirmation and counts those in the window. -/
theorem advanceGate_count :
    (advanceGate rule evidence phase now store).2.counter phase =
      ⟨tally evidence (now - within * microsPerSecond) (store.confirmations phase),
        store.passes phase⟩ ∧
    (advanceGate rule evidence phase now store).1 =
      decide (confirmations ≤
        (tally evidence (now - within * microsPerSecond) (store.confirmations phase)).length) := by
  have inserted : (if evidence.scopeClone then store
      else insertConfirmation store phase evidence).counter phase =
      ⟨if evidence.scopeClone || (store.confirmations phase).any (·.evidenceId = evidence.id)
        then store.confirmations phase
        else store.confirmations phase ++ [⟨evidence.id, evidence.acceptedAt⟩],
        store.passes phase⟩ := by
    by_cases clone : evidence.scopeClone
    · rw [if_pos clone, clone, Bool.true_or]
      rfl
    · rw [if_neg clone, counter_insertConfirmation, eq_false_of_ne_true clone, Bool.false_or]
  have kept := confirmations_of inserted
  have passes := passes_of inserted
  unfold advanceGate dropConfirmationsBefore
  rw [counts]
  dsimp only [Store.counter] at kept passes ⊢
  rw [confirmations_setConfirmations, passes_setConfirmations, kept, passes]
  exact ⟨rfl, rfl⟩

theorem resetGateIfContradicted_counted :
    Counted rule phase confirmations within evaluated now (store.counter phase)
      ((resetGateIfContradicted rule evidence phase truth now store).counter phase) := by
  have pruned : ∀ held : Store, held.counter phase = store.counter phase →
      Counted rule phase confirmations within evaluated now (store.counter phase)
        ((pruneCountConfirmations held phase (some (.count confirmations within)) now).counter
          phase) := by
    intro held same
    unfold pruneCountConfirmations dropConfirmationsBefore
    rw [counter_setConfirmations_self, ← same]
    exact .pruned
  cases truth with
  | holds => exact .unchanged
  | fails =>
    unfold resetGateIfContradicted
    dsimp only
    rw [counts]
    split
    next same _ =>
      cases same
      exact pruned _ counter_resetDwell
    · unfold Store.clearConfirmations
      rw [counter_setConfirmations_self, passes_resetDwell]
      exact .cleared
  | unknown =>
    unfold resetGateIfContradicted
    rw [counts]
    apply pruned
    split
    · rw [counter_note rfl, counter_setDwell]
    · rfl

theorem reset_counted :
    Counted rule phase confirmations within evaluated now (store.counter phase)
      ((resetGateIfContradicted rule evidence held truth now store).counter phase) := by
  by_cases same : held = phase
  · subst same
    exact resetGateIfContradicted_counted counts
  · rw [counter_resetGateIfContradicted_other same]
    exact .unchanged

theorem advanceGate_counted (confirms : rule.Confirms phase evidence)
    (advanced : advanceGate rule evidence phase now store = (passed, after)) :
    if passed then Counted rule phase confirmations within (some evidence) now (store.counter phase)
        ⟨[], now :: after.passes phase⟩ else
      Counted rule phase confirmations within (some evidence) now (store.counter phase)
        (after.counter phase) := by
  obtain ⟨counter, result⟩ := advanceGate_count counts
  rw [advanced] at counter result
  split
  next holds =>
    subst holds
    rw [show after.passes phase = store.passes phase from passes_of counter]
    exact .passed rfl confirms (of_decide_eq_true result.symm)
  · rw [counter]
    exact .waiting rfl confirms

theorem counted_cover :
    Covers rule evidence suppressed now store fun after =>
      Counted rule phase confirmations within (some evidence) now (store.counter phase)
        (after.counter phase) where
  unchanged := .unchanged
  exited := by
    rw [counter_resolveScopeExit]
    exact .cleared
  touched touches counted := touches.counter ▸ counted
  reset _ := reset_counted counts
  used _ _ truth := by
    unfold Store.clearConfirmations
    cases phase with
    | trigger =>
      rw [counter_setConfirmations_self,
        passes_of (counter_resetGateIfContradicted_other (by decide))]
      exact .cleared
    | resolve =>
      rw [counter_setConfirmations_other (by decide)]
      exact reset_counted counts
  waits confirms _ advanced := by
    by_cases same : store.turn = phase
    · subst same
      exact advanceGate_counted counts confirms advanced
    · rw [counter_advanceGate_other same advanced]
      exact .unchanged
  closed confirms episode after _ advanced := by
    cases phase with
    | resolve =>
      rw [counter_closeEpisode_resolve]
      exact advanceGate_counted counts confirms advanced
    | trigger =>
      rw [← counter_advanceGate_other (by decide) advanced]
      exact counter_closeEpisode_trigger .unchanged .cleared
  opened confirms after _ advanced := by
    cases phase with
    | trigger =>
      rw [counter_openEpisode_trigger]
      exact advanceGate_counted counts confirms advanced
    | resolve =>
      rw [counter_openEpisode_resolve, counter_advanceGate_other (by decide) advanced]
      exact .unchanged

theorem DueOutcome.counted (outcome : DueOutcome rule due store after) :
    Counted rule phase confirmations within due.evidence due.now (store.counter phase)
      (after.counter phase) := by
  cases outcome with
  | quiet | failed => cases phase <;> exact .unchanged
  | elapsed => cases phase <;> exact .cleared
  | evaluated _ found done =>
    rw [found]
    exact done.covered (counted_cover counts)

theorem Performed.counted (performed : Performed rule store transition after) :
    Counted rule phase confirmations within transition.evidence transition.now (store.counter phase)
      (after.counter phase) := by
  cases performed with
  | failed => exact .unchanged
  | evaluation done => exact done.covered (counted_cover counts)
  | due outcome => exact outcome.counted counts

end Counting
end Counters

/-! ## Where confirmations come from -/

section Origin

variable {rule : Rule Facts} {phase : GatePhase} {confirmations : Nat} {within now : Int}
  {evaluated : Option (Evidence Facts)} {before after : Counter}

/-- The evidence's own confirmation of the phase, which it has only if it is true for it and
    comes from the source. -/
def Rule.Adds (rule : Rule Facts) (phase : GatePhase) (evidence : Evidence Facts)
    (confirmation : Confirmation) : Prop :=
  rule.Confirms phase evidence ∧ evidence.scopeClone = false ∧
    confirmation = ⟨evidence.id, evidence.acceptedAt⟩

theorem mem_tally {evidence : Evidence Facts}
    (member : confirmation ∈ tally evidence cutoff earlier) :
    cutoff ≤ confirmation.acceptedAt ∧ (confirmation ∈ earlier ∨
      evidence.scopeClone = false ∧ confirmation = ⟨evidence.id, evidence.acceptedAt⟩ ∧
        ∀ other ∈ earlier, other.evidenceId ≠ evidence.id) := by
  obtain ⟨member, recent⟩ := List.mem_filter.mp member
  refine ⟨of_decide_eq_true recent, ?_⟩
  split at member
  · exact .inl member
  next added =>
    rw [Bool.or_eq_true, not_or, Bool.not_eq_true, List.any_eq_true] at added
    rcases List.mem_append.mp member with old | new
    · exact .inl old
    · refine .inr ⟨added.1, List.mem_singleton.mp new, fun other listed same => ?_⟩
      exact added.2 ⟨other, listed, decide_eq_true same⟩

theorem nodup_tally {evidence : Evidence Facts} (distinct : (earlier.map (·.evidenceId)).Nodup) :
    ((tally evidence cutoff earlier).map (·.evidenceId)).Nodup := by
  refine List.Nodup.sublist (List.filter_sublist.map _) ?_
  split
  · exact distinct
  next added =>
    rw [Bool.or_eq_true, not_or, Bool.not_eq_true, List.any_eq_true] at added
    rw [List.map_append, List.map_singleton, List.nodup_append]
    refine ⟨distinct, List.pairwise_singleton _ _, fun id member own is_own => ?_⟩
    obtain ⟨other, listed, rfl⟩ := List.mem_map.mp member
    rw [List.mem_singleton] at is_own
    subst is_own
    exact fun same => added.2 ⟨other, listed, decide_eq_true same⟩

variable (step : Counted rule phase confirmations within evaluated now before after)
include step

theorem Counted.nodup (distinct : (before.confirmations.map (·.evidenceId)).Nodup) :
    (after.confirmations.map (·.evidenceId)).Nodup := by
  cases step with
  | unchanged => exact distinct
  | pruned => exact distinct.sublist (List.filter_sublist.map _)
  | cleared | passed => exact List.nodup_nil
  | waiting => exact nodup_tally distinct

/-- Only source evidence that is true for the phase, and has no confirmation yet, adds one. -/
theorem Counted.added
    (there : confirmation ∈ after.confirmations) (new : confirmation ∉ before.confirmations) :
    ∃ evidence, evaluated = some evidence ∧ rule.Adds phase evidence confirmation ∧
      ∀ other ∈ before.confirmations, other.evidenceId ≠ evidence.id := by
  cases step with
  | unchanged => exact absurd there new
  | pruned => exact absurd (List.mem_filter.mp there).1 new
  | cleared | passed => exact absurd there List.not_mem_nil
  | waiting found confirms =>
    rcases (mem_tally there).2 with old | ⟨source, own, unseen⟩
    · exact absurd old new
    · exact ⟨_, found, ⟨confirms, source, own⟩, unseen⟩

theorem Counted.passes (changed : after.passes ≠ before.passes) :
    after.passes = now :: before.passes ∧ ∃ evidence, evaluated = some evidence ∧
      rule.Confirms phase evidence ∧ confirmations ≤
        (tally evidence (now - within * microsPerSecond) before.confirmations).length := by
  cases step with
  | unchanged | pruned | cleared | waiting => exact absurd rfl changed
  | passed found confirms enough => exact ⟨rfl, _, found, confirms, enough⟩

end Origin

/-- Each phase has confirmations only while it is its turn. -/
structure Store.InTurn (store : Store) : Prop where
  trigger : store.incidents.active ≠ none → store.confirmations .trigger = []
  resolve : store.incidents.active = none → store.confirmations .resolve = []

section Turns

variable {rule : Rule Facts} {evidence : Evidence Facts} {now : Int} {phase : GatePhase}
  {store after : Store}

theorem Store.InTurn.of_empty (trigger : store.confirmations .trigger = [])
    (resolve : store.confirmations .resolve = []) : store.InTurn :=
  ⟨fun _ => trigger, fun _ => resolve⟩

/-- The phase whose turn it is not has no confirmations. -/
theorem Store.inTurn_iff :
    store.InTurn ↔ ∀ phase, phase ≠ store.turn → store.confirmations phase = [] := by
  have active := active_incidents store
  cases found : store.activeEpisode with
  | none =>
    rw [Store.turn_of_idle found]
    rw [found, Option.map_none] at active
    refine ⟨fun turn phase other => ?_, fun empty => ⟨absurd active, fun _ => empty _ (by decide)⟩⟩
    cases phase with
    | trigger => exact absurd rfl other
    | resolve => exact turn.resolve active
  | some =>
    rw [Store.turn_of_active found]
    rw [found, Option.map_some] at active
    refine ⟨fun turn phase other => ?_, fun empty => ⟨fun _ => empty _ (by decide), fun idle => ?_⟩⟩
    · cases phase with
      | trigger => exact turn.trigger (active ▸ Option.some_ne_none _)
      | resolve => exact absurd rfl other
    · cases active.symm.trans idle

theorem Store.InTurn.of_other (incidents : after.incidents = store.incidents)
    (other : ∀ phase, phase ≠ store.turn → after.confirmations phase = []) : after.InTurn := by
  have same : after.turn = store.turn := by
    rw [Store.turn, Store.turn, ← Option.isSome_map, ← active_incidents, incidents,
      active_incidents, Option.isSome_map]
  exact Store.inTurn_iff.mpr (same ▸ other)

variable (turn : store.InTurn)
include turn

theorem Store.InTurn.advanced (other : phase ≠ store.turn)
    (advanced : advanceGate rule evidence store.turn now store = (passed, after)) :
    after.confirmations phase = [] :=
  (confirmations_of (counter_advanceGate_other other.symm advanced)).trans (Store.inTurn_iff.mp turn _ other)

theorem inTurn_cover : Covers rule evidence suppressed now store Store.InTurn where
  unchanged := turn
  exited := .of_empty (confirmations_of counter_resolveScopeExit)
    (confirmations_of counter_resolveScopeExit)
  touched touches turn := .of_other touches.incidents fun _ other =>
    (confirmations_of touches.counter).trans (Store.inTurn_iff.mp turn _ other)
  reset _ := .of_other incidents_resetGateIfContradicted fun _ other =>
    (confirmations_of (counter_resetGateIfContradicted_other other.symm)).trans
      (Store.inTurn_iff.mp turn _ other)
  used _ resolve _ := by
    refine @Store.InTurn.of_other store _ ?_ fun phase other => ?_
    · rw [incidents_clearConfirmations, incidents_resetGateIfContradicted]
    · rw [resolve] at other
      cases phase with
      | trigger => rfl
      | resolve => exact absurd rfl other
  waits _ _ advanced := .of_other (incidents_advanceGate advanced) fun _ other =>
    turn.advanced other advanced
  closed _ episode after active advanced := by
    have own := Store.turn_of_active active
    have empty : after.confirmations .trigger = [] :=
      turn.advanced (by rw [own]; decide) (own ▸ advanced)
    exact .of_empty (counter_closeEpisode_trigger (p := (·.confirmations = [])) empty rfl)
      (confirmations_of counter_closeEpisode_resolve)
  opened _ after idle advanced := by
    have own := Store.turn_of_idle idle
    have empty : after.confirmations .resolve = [] :=
      turn.advanced (by rw [own]; decide) (own ▸ advanced)
    exact .of_empty (confirmations_of counter_openEpisode_trigger)
      ((confirmations_of counter_openEpisode_resolve).trans empty)

theorem DueOutcome.inTurn (outcome : DueOutcome rule due store after) : after.InTurn := by
  cases outcome with
  | quiet | failed => exact .of_other rfl fun _ => Store.inTurn_iff.mp turn _
  | elapsed => exact .of_empty rfl rfl
  | evaluated _ _ done => exact done.covered (inTurn_cover turn)

theorem Performed.inTurn (performed : Performed rule store transition after) : after.InTurn := by
  cases performed with
  | failed => exact turn
  | evaluation done => exact done.covered (inTurn_cover turn)
  | due outcome => exact outcome.inTurn turn

end Turns
/-! ## What a Count gate needs -/

section Results

variable {rule : Rule Facts} {phase : GatePhase} {confirmations : Nat} {within : Int}
  {cohort : Option Nat} {transitions : List (Transition Facts)}

/-- One of the transitions confirmed the phase with this, on source evidence that was true
    for it, and the confirmation was there after every transition since, up to the last one. -/
def ConfirmedSince (rule : Rule Facts) (cohort : Option Nat) (phase : GatePhase)
    (transitions : List (Transition Facts)) (confirmation : Confirmation) : Prop :=
  ∃ before confirming later evidence, transitions = before ++ confirming :: later ∧
    confirming.evidence = some evidence ∧ rule.Adds phase evidence confirmation ∧
    ∀ middle rest, later = middle ++ rest → rest ≠ [] →
      confirmation ∈ (Store.after rule cohort (before ++ confirming :: middle)).confirmations phase

/-- The gate of a phase with `Count(confirmations, within)`, after these transitions. -/
structure NeedsFreshEvidence (rule : Rule Facts) (phase : GatePhase) (confirmations : Nat)
    (within : Int) (cohort : Option Nat) (transitions : List (Transition Facts)) (store : Store) :
    Prop where
  /-- If the next transition passes the gate, enough source evidence confirmed the phase since
      it was last cleared, and was accepted in time. -/
  passes : ∀ transition, (store.perform rule transition).passes phase ≠ store.passes phase →
    (store.perform rule transition).passes phase = transition.now :: store.passes phase ∧
    ∃ counted : List Confirmation, (counted.map (·.evidenceId)).Nodup ∧
      confirmations ≤ counted.length ∧ ∀ confirmation ∈ counted,
        transition.now - within * microsPerSecond ≤ confirmation.acceptedAt ∧
        ConfirmedSince rule cohort phase (transitions ++ [transition]) confirmation
  /-- A conclusive False clears the confirmations of a Metric or State rule. -/
  contradicted : rule.kind ≠ .occurrence →
    ∀ (evidence : Evidence Facts) (timerRecheck suppressed : Bool) (now : Int) (after : Store),
      evaluateRule rule evidence timerRecheck suppressed now store = some after →
      staleEvidence rule evidence timerRecheck store = false →
      rule.scopeTruth evidence = some .inScope → rule.phaseTruth evidence phase = some .fails →
      after.confirmations phase = []
  /-- Evidence that is not true for the phase, is a clone for a scope revision or is already
      confirmed adds no confirmation. -/
  added : ∀ (transition : Transition Facts) (evidence : Evidence Facts),
    transition.evidence = some evidence →
    (¬ rule.Confirms phase evidence ∨ evidence.scopeClone = true ∨
      ∃ confirmation ∈ store.confirmations phase, confirmation.evidenceId = evidence.id) →
    (store.perform rule transition).confirmations phase ⊆ store.confirmations phase

theorem after_concat :
    Store.after rule cohort (transitions ++ [transition]) =
      (Store.after rule cohort transitions).perform rule transition := by
  rw [Store.after, List.foldl_append]
  rfl

theorem after_inTurn : (Store.after rule cohort transitions).InTurn := by
  induction transitions using List.reverseRecOn with
  | nil => exact .of_empty rfl rfl
  | append_singleton _ transition ih =>
    rw [after_concat]
    exact (perform_performed rule _ transition).inTurn ih

theorem resetGateIfContradicted_fails (conclusive : rule.kind ≠ .occurrence) :
    (resetGateIfContradicted rule evidence phase .fails now store).confirmations phase = [] := by
  unfold resetGateIfContradicted
  dsimp only
  split
  next occurrence _ =>
    exact absurd occurrence conclusive
  · exact confirmations_setConfirmations

section Counting

variable (counts : rule.metaOf phase = some (.count confirmations within))
include counts

theorem after_nodup :
    (((Store.after rule cohort transitions).confirmations phase).map (·.evidenceId)).Nodup := by
  induction transitions using List.reverseRecOn with
  | nil => cases phase <;> exact List.nodup_nil
  | append_singleton _ transition ih =>
    rw [after_concat]
    exact ((perform_performed rule _ transition).counted counts).nodup ih

/-- Every confirmation there is was added by a transition and has been kept since. -/
theorem confirmedSince_of_mem
    (there : confirmation ∈ (Store.after rule cohort transitions).confirmations phase) :
    ConfirmedSince rule cohort phase (transitions ++ [transition]) confirmation := by
  have initially : confirmation ∉ (Store.after rule cohort []).confirmations phase := by
    cases phase <;> exact List.not_mem_nil
  obtain ⟨before, confirming, later, rfl, not_yet, since⟩ :=
    foldl_came_true (fun store : Store => confirmation ∈ store.confirmations phase) initially there
  have came : confirmation ∈ (Store.after rule cohort (before ++ [confirming])).confirmations phase :=
    since [] later rfl
  rw [after_concat] at came
  obtain ⟨evidence, found, adds, _⟩ :=
    ((perform_performed rule _ confirming).counted counts).added came not_yet
  refine ⟨before, confirming, later ++ [transition], evidence, by simp, found, adds, ?_⟩
  intro middle rest split left
  obtain ⟨others, last, rfl⟩ := (List.eq_nil_or_concat rest).resolve_left left
  rw [List.concat_eq_append, ← List.append_assoc] at split
  exact since middle others (List.append_inj' split rfl).1

theorem tally_confirmedSince (found : transition.evidence = some evidence)
    (confirms : rule.Confirms phase evidence)
    (member : confirmation ∈
      tally evidence cutoff ((Store.after rule cohort transitions).confirmations phase)) :
    cutoff ≤ confirmation.acceptedAt ∧
      ConfirmedSince rule cohort phase (transitions ++ [transition]) confirmation := by
  obtain ⟨recent, old | ⟨source, own, _⟩⟩ := mem_tally member
  · exact ⟨recent, confirmedSince_of_mem counts old⟩
  · refine ⟨recent, transitions, transition, [], evidence, rfl, found, ⟨confirms, source, own⟩, ?_⟩
    intro middle rest split left
    exact absurd (List.append_eq_nil_iff.mp split.symm).2 left

theorem added_needsFreshEvidence (store : Store) (found : transition.evidence = some evidence)
    (stale : ¬ rule.Confirms phase evidence ∨ evidence.scopeClone = true ∨
      ∃ confirmation ∈ store.confirmations phase, confirmation.evidenceId = evidence.id) :
    (store.perform rule transition).confirmations phase ⊆ store.confirmations phase := by
  intro confirmation there
  by_contra new
  obtain ⟨same, evaluated, ⟨confirms, source, _⟩, unseen⟩ :=
    ((perform_performed rule store transition).counted counts).added there new
  obtain rfl := Option.some.inj (found.symm.trans evaluated)
  rcases stale with inconclusive | clone | ⟨other, listed, own⟩
  · exact inconclusive confirms
  · rw [source] at clone
    cases clone
  · exact unseen other listed own

theorem contradicted_clears (conclusive : rule.kind ≠ .occurrence) (turn : store.InTurn)
    (done : Evaluated rule evidence timerRecheck suppressed now store after)
    (current : staleEvidence rule evidence timerRecheck store = false)
    (scope : rule.scopeTruth evidence = some .inScope)
    (fails : rule.phaseTruth evidence phase = some .fails) : after.confirmations phase = [] := by
  -- a phase that has no confirmations does not get one from evidence that fails
  have stays_empty : store.confirmations phase = [] → after.confirmations phase = [] := by
    intro empty
    rw [List.eq_nil_iff_forall_not_mem] at empty ⊢
    intro confirmation there
    obtain ⟨same, found, ⟨⟨_, holds⟩, _⟩, _⟩ :=
      (done.covered (counted_cover counts)).added there (empty confirmation)
    rw [← Option.some.inj found, fails] at holds
    cases holds
  by_cases own : phase = store.turn
  swap
  · exact stays_empty (Store.inTurn_iff.mp turn _ own)
  have inconclusive : ¬ rule.Confirms store.turn evidence := by
    rintro ⟨_, holds⟩
    rw [← own, fails] at holds
    cases holds
  have works : Works rule evidence suppressed now store fun after =>
      after.confirmations phase = [] :=
    { touched := fun touches empty => (confirmations_of touches.counter).trans empty
      reset := fun truth => by
        obtain rfl := Option.some.inj ((own ▸ truth scope).symm.trans fails)
        rw [← own]
        exact resetGateIfContradicted_fails conclusive
      used := fun occurrence => absurd occurrence conclusive
      waits := fun confirms => absurd confirms inconclusive
      closed := fun confirms _ _ active =>
        absurd (Store.turn_of_active active ▸ confirms) inconclusive
      opened := fun confirms _ idle => absurd (Store.turn_of_idle idle ▸ confirms) inconclusive }
  cases done with
  | stale stale =>
    rw [current] at stale
    cases stale
  | ignored occurrence => exact absurd occurrence conclusive
  | scopeExit => exact confirmations_of counter_resolveScopeExit
  | unknownScope other =>
    rw [scope] at other
    cases other
  | inScope _ trigger resolve => exact works.inScope scope trigger resolve

end Counting

/-- Over every sequence of evaluations and due timers, a Count gate passes only on enough
    distinct source evidence of its window, evaluated as true since the phase was last cleared. -/
theorem count_gate_needs_fresh_evidence (rule : Rule Facts) (phase : GatePhase) (confirmations : Nat)
    (within : Int) (counted : rule.metaOf phase = some (.count confirmations within))
    (cohort : Option Nat) (transitions : List (Transition Facts)) :
    NeedsFreshEvidence rule phase confirmations within cohort transitions
      (Store.after rule cohort transitions) where
  passes transition changed := by
    obtain ⟨passed, evidence, found, confirms, enough⟩ :=
      ((perform_performed rule _ transition).counted counted).passes changed
    exact ⟨passed, _, nodup_tally (after_nodup counted), enough,
      fun _ => tally_confirmedSince counted found confirms⟩
  contradicted conclusive _ _ _ _ _ done current scope fails :=
    contradicted_clears counted conclusive after_inTurn
      (evaluateRule_evaluated done) current scope fails
  added _ _ found stale := added_needsFreshEvidence counted _ found stale

/-- A State rule whose trigger has to be confirmed twice within a minute. -/
def twiceInAMinute : Rule ExpressionTruth :=
  { sustainedRule with triggerMeta := some (.count 2 60) }

/-- Evaluated again by its timer, the first evidence does not count twice. -/
def confirmedOnce : List (Transition ExpressionTruth) :=
  [.evaluation (evaluationAt 10 0 .holds),
    .evaluation { evaluationAt 10 0 .holds with timerRecheck := true, now := 20 * microsPerSecond },
    .evaluation (evaluationAt 30 0 .unknown)]

theorem confirmedOnce_then_passes :
    (Store.after twiceInAMinute none confirmedOnce).passes .trigger = [] ∧
    ((Store.after twiceInAMinute none confirmedOnce).perform twiceInAMinute
      (.evaluation (evaluationAt 40 0 .holds))).passes .trigger = [40 * microsPerSecond] ∧
    ∃ counted : List Confirmation, (counted.map (·.evidenceId)).Nodup ∧ 2 ≤ counted.length ∧
      ∀ confirmation ∈ counted,
        40 * microsPerSecond - 60 * microsPerSecond ≤ confirmation.acceptedAt ∧
        ConfirmedSince twiceInAMinute none .trigger
          (confirmedOnce ++ [.evaluation (evaluationAt 40 0 .holds)]) confirmation :=
  ⟨by decide, by decide,
    ((count_gate_needs_fresh_evidence twiceInAMinute .trigger 2 60 rfl none confirmedOnce).passes
      (.evaluation (evaluationAt 40 0 .holds)) (by decide)).2⟩

end Results

end Vpsman.Policy

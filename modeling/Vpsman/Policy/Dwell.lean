import Vpsman.Policy.Evaluator
import Mathlib.Data.Finset.Order
import Mathlib.Data.Finset.Dedup

/-! # The dwell of a Sustained gate

Every evaluation changes the dwell of a phase in one of four ways: true evidence confirms
it, unknown evidence pauses it, a contradiction resets it, and a passed gate spends it.
The credited dwell then never exceeds the time since the earliest confirmation, as long
as no confirmation that resumes a paused phase reaches back behind the pause.
-/

namespace Vpsman.Policy

/-- State boundaries of the evidence that confirmed the phase since it was last reset. -/
def boundariesSinceReset (phase : GatePhase) : List GateEvent → List Int
  | [] => []
  | .confirmed held boundary :: older =>
    if held = phase then boundary :: boundariesSinceReset phase older
    else boundariesSinceReset phase older
  | .paused _ _ :: older => boundariesSinceReset phase older
  | .reset held :: older | .passed held _ :: older =>
    if held = phase then [] else boundariesSinceReset phase older

/-- Where the phase is paused, if its last event is a pause. -/
def pausedAt (phase : GatePhase) : List GateEvent → Option Int
  | [] => none
  | .paused held until_ :: older => if held = phase then some until_ else pausedAt phase older
  | .confirmed held _ :: older | .reset held :: older | .passed held _ :: older =>
    if held = phase then none else pausedAt phase older

/-- No confirmation that ends a pause has its boundary before the pause. -/
def ResumesAfterPause (phase : GatePhase) : List GateEvent → Prop
  | [] => True
  | .confirmed held boundary :: older =>
    (held = phase → ∀ until_ ∈ pausedAt phase older, until_ ≤ boundary) ∧
      ResumesAfterPause phase older
  | _ :: older => ResumesAfterPause phase older

instance ResumesAfterPause.decidable (phase : GatePhase) :
    (log : List GateEvent) → Decidable (ResumesAfterPause phase log)
  | [] => .isTrue trivial
  | .confirmed held boundary :: older =>
    have : Decidable (ResumesAfterPause phase older) := decidable phase older
    inferInstanceAs (Decidable ((held = phase → ∀ until_ ∈ pausedAt phase older,
      until_ ≤ boundary) ∧ ResumesAfterPause phase older))
  | .paused _ _ :: older | .reset _ :: older | .passed _ _ :: older => decidable phase older

theorem ResumesAfterPause.older {log : List GateEvent}
    (resumes : ResumesAfterPause phase (event :: log)) : ResumesAfterPause phase log := by
  cases event with
  | confirmed => exact resumes.2
  | paused | reset | passed => exact resumes

theorem ResumesAfterPause.suffix {newer log : List GateEvent}
    (resumes : ResumesAfterPause phase (newer ++ log)) : ResumesAfterPause phase log := by
  induction newer with
  | nil => exact resumes
  | cons _ _ ih => exact ih resumes.older

/-- The dwell in microseconds at time `now`, a running segment included. -/
def Dwell.credited (dwell : Dwell) (now : Int) : Int :=
  dwell.confirmedDurationSecs * microsPerSecond +
    match dwell.segmentStartedAt with
    | some segment => now - segment
    | none => 0

/-- The part of the store the gates live in. -/
structure Gates where
  dwell : GatePhase → Dwell
  log : List GateEvent

def Store.view (store : Store) : Gates where
  dwell := store.dwell
  log := store.gates

def Gates.set (gates : Gates) (phase : GatePhase) (dwell : Dwell) (event : GateEvent) : Gates where
  dwell := Function.update gates.dwell phase dwell
  log := event :: gates.log

section

variable {Facts : Type} {rule : Rule Facts} {evidence : Evidence Facts} {store : Store} {now : Int}

/-- One change of a gate at time `now`. -/
inductive GateStep (rule : Rule Facts) (now : Int) : Gates → Gates → Prop
  | confirm (gates : Gates) (phase : GatePhase) (boundary : Int) (past : boundary ≤ now) :
      GateStep rule now gates (gates.set phase
        { gates.dwell phase with
          segmentStartedAt := some ((gates.dwell phase).segmentStartedAt.getD boundary) }
        (.confirmed phase boundary))
  | pause (gates : Gates) (phase : GatePhase) (boundary segment : Int)
      (past : boundary ≤ now) (running : (gates.dwell phase).segmentStartedAt = some segment) :
      GateStep rule now gates (gates.set phase
        ⟨saturatingAdd (gates.dwell phase).confirmedDurationSecs
          (max (numSeconds (max boundary segment - segment)) 0), none⟩
        (.paused phase (max boundary segment)))
  | reset (gates : Gates) (phase : GatePhase) :
      GateStep rule now gates (gates.set phase {} (.reset phase))
  | pass (gates : Gates) (phase : GatePhase)
      (enough : ∀ seconds, rule.metaOf phase = some (.sustained seconds) →
        ∃ segment, (gates.dwell phase).segmentStartedAt = some segment ∧
          seconds ≤ saturatingAdd (gates.dwell phase).confirmedDurationSecs
            (max (numSeconds (now - segment)) 0)) :
      GateStep rule now gates (gates.set phase {} (.passed phase now))

abbrev GateSteps (rule : Rule Facts) (now : Int) : Gates → Gates → Prop :=
  Relation.ReflTransGen (GateStep rule now)

theorem evidenceStateBoundary_le : evidenceStateBoundary rule evidence now ≤ now :=
  min_le_right _ _

@[simp] theorem view_setDwell_note :
    ((store.setDwell phase dwell).note event).view = store.view.set phase dwell event := by
  simp only [Store.view, Gates.set, Gates.mk.injEq]
  constructor
  · funext other
    cases phase <;> cases other <;> simp [Store.dwell, Store.setDwell, Store.note]
  · cases phase <;> rfl

@[simp] theorem dwell_setDwell_note :
    ((store.setDwell phase dwell).note event).dwell phase = dwell := by
  cases phase <;> rfl

@[simp] theorem view_setConfirmations :
    (store.setConfirmations phase confirmations).view = store.view := by
  cases phase <;> rfl

@[simp] theorem view_clearConfirmations :
    (store.clearConfirmations phase).view = store.view :=
  view_setConfirmations

@[simp] theorem view_resetDwell :
    (store.resetDwell phase).view = store.view.set phase {} (.reset phase) :=
  view_setDwell_note

@[simp] theorem view_insertConfirmation :
    (insertConfirmation store phase evidence).view = store.view := by
  unfold insertConfirmation
  split
  · rfl
  · simp

@[simp] theorem view_retainSustainedConfirmationAnchor :
    (retainSustainedConfirmationAnchor store phase evidence).view = store.view := by
  unfold retainSustainedConfirmationAnchor
  split <;> simp

@[simp] theorem view_pruneCountConfirmations :
    (pruneCountConfirmations store phase gate now).view = store.view := by
  unfold pruneCountConfirmations
  split
  · simp [dropConfirmationsBefore]
  · rfl

@[simp] theorem view_resolveEpisode :
    (resolveEpisode evidence episode now store).view = store.view := rfl

@[simp] theorem view_releaseEpisode : (releaseEpisode store).view = store.view :=
  rfl

theorem Touches.view (touches : Touches evidence before after) :
    after.view = before.view := by
  cases touches <;> rfl

@[simp] theorem view_triggerEpisode :
    (triggerEpisode rule evidence suppressed now store).2.view = store.view := by
  unfold triggerEpisode
  split
  · simp
  · rfl

theorem steps_of_eq (same : after = before) : GateSteps rule now before after := by
  rw [same]

/-- True evidence confirms a Sustained phase; if the gate then passes, it held out. -/
theorem advanceGate_steps (advanced : advanceGate rule evidence phase now store = (passed, after)) :
    GateSteps rule now store.view after.view ∧
      (passed = true → ∀ seconds, rule.metaOf phase = some (.sustained seconds) →
        ∃ segment, (after.dwell phase).segmentStartedAt = some segment ∧
          seconds ≤ saturatingAdd (after.dwell phase).confirmedDurationSecs
            (max (numSeconds (now - segment)) 0)) := by
  rw [Prod.ext_iff] at advanced
  obtain ⟨rfl, rfl⟩ := advanced
  unfold advanceGate
  cases gate : rule.metaOf phase with
  | none => exact ⟨.refl, by simp⟩
  | some condition =>
    cases condition with
    | immediate | elapsedSinceTrigger => exact ⟨.refl, by simp⟩
    | sustained =>
      have kept : (retainSustainedConfirmationAnchor store phase evidence).view =
          store.view := view_retainSustainedConfirmationAnchor
      generalize retainSustainedConfirmationAnchor store phase evidence = anchored at kept
      simp only [dwell_setDwell_note, view_setDwell_note]
      constructor
      · rw [← kept]
        exact .single (.confirm anchored.view phase _ evidenceStateBoundary_le)
      · intro passed others same
        cases same
        exact ⟨_, rfl, of_decide_eq_true passed⟩
    | count =>
      refine ⟨steps_of_eq ?_, by simp⟩
      dsimp only
      split <;> simp [dropConfirmationsBefore]

theorem resetGateIfContradicted_steps :
    GateSteps rule now store.view
      (resetGateIfContradicted rule evidence phase truth now store).view := by
  cases truth with
  | holds => exact .refl
  | fails =>
    have reset : GateStep rule now store.view _ := .reset store.view phase
    unfold resetGateIfContradicted
    dsimp only
    split
    · rw [view_pruneCountConfirmations, view_resetDwell]
      exact .single reset
    · rw [view_clearConfirmations, view_resetDwell]
      exact .single reset
  | unknown =>
    unfold resetGateIfContradicted
    rw [view_pruneCountConfirmations]
    split
    next segment running =>
      rw [view_setDwell_note]
      exact .single (.pause store.view phase _ segment evidenceStateBoundary_le running)
    · exact .refl

theorem resolveScopeExit_steps :
    GateSteps rule now store.view (resolveScopeExit evidence now store).view := by
  have both : GateSteps rule now store.view ((store.view.set .trigger {} (.reset .trigger)).set
      .resolve {} (.reset .resolve)) :=
    .tail (.single (.reset _ .trigger)) (.reset _ .resolve)
  unfold resolveScopeExit
  rw [(Touches.remembers _).view]
  split <;> simpa using both

theorem view_closeEpisode :
    (closeEpisode rule evidence episode now store).view =
      store.view.set .resolve {} (.passed .resolve now) := by
  unfold closeEpisode
  split
  · exact view_clearConfirmations.trans (by simp)
  · simp

theorem view_openEpisode :
    (openEpisode rule evidence suppressed now store).view =
      store.view.set .trigger {} (.passed .trigger now) := by
  have opened := @view_triggerEpisode _ rule evidence store now suppressed
  unfold openEpisode
  rw [view_setDwell_note]
  congr 1
  split
  next episode after triggered =>
    rw [triggered] at opened
    exact opened
  next after triggered =>
    rw [triggered] at opened
    split <;> exact opened

theorem steps_cover :
    Covers rule evidence suppressed now store fun after =>
      GateSteps rule now store.view after.view where
  unchanged := .refl
  exited := resolveScopeExit_steps
  touched touches steps := touches.view ▸ steps
  reset _ := resetGateIfContradicted_steps
  used _ _ truth := by
    rw [view_clearConfirmations]
    exact resetGateIfContradicted_steps
  waits _ _ advanced := (advanceGate_steps advanced).1
  closed _ _ _ _ advanced := by
    obtain ⟨steps, held⟩ := advanceGate_steps advanced
    rw [view_closeEpisode]
    exact .tail steps (.pass _ .resolve (held rfl))
  opened _ _ _ advanced := by
    obtain ⟨steps, held⟩ := advanceGate_steps advanced
    rw [view_openEpisode]
    exact .tail steps (.pass _ .trigger (held rfl))

theorem evaluate_steps :
    GateSteps rule evaluation.now store.view (store.evaluate rule evaluation).view := by
  rcases Store.evaluate_eq rule with failed | done
  · exact steps_of_eq (congrArg Store.view failed)
  · exact done.covered steps_cover

theorem saturatingAdd_le (a b : Int) : saturatingAdd a b ≤ a + b :=
  min_le_left _ _

theorem saturatingAdd_nonneg (left : 0 ≤ a) (right : 0 ≤ b) : 0 ≤ saturatingAdd a b := by
  unfold saturatingAdd i64Max
  omega

theorem numSeconds_le (nonneg : 0 ≤ duration) :
    max (numSeconds duration) 0 * microsPerSecond ≤ duration := by
  unfold numSeconds microsPerSecond
  rw [Int.tdiv_eq_ediv_of_nonneg nonneg]
  omega

/-- Up to time `last`, the stored duration of the phase fits between its earliest
    confirmation and the start of the running segment, or the pause. -/
structure Accounted (phase : GatePhase) (last : Int) (gates : Gates) : Prop where
  nonneg : 0 ≤ (gates.dwell phase).confirmedDurationSecs
  idle : boundariesSinceReset phase gates.log = [] → gates.dwell phase = {}
  running : ∀ segment, (gates.dwell phase).segmentStartedAt = some segment →
    segment ≤ last ∧ ∃ boundary ∈ boundariesSinceReset phase gates.log,
      (gates.dwell phase).confirmedDurationSecs * microsPerSecond ≤ segment - boundary
  paused : (gates.dwell phase).segmentStartedAt = none →
    boundariesSinceReset phase gates.log ≠ [] →
    ∃ until_ ∈ pausedAt phase gates.log, until_ ≤ last ∧
      ∃ boundary ∈ boundariesSinceReset phase gates.log,
        (gates.dwell phase).confirmedDurationSecs * microsPerSecond ≤ until_ - boundary

variable {phase : GatePhase} {last : Int} {gates gates' : Gates}

theorem Accounted.fresh (dwell : gates.dwell phase = {})
    (none_left : boundariesSinceReset phase gates.log = []) : Accounted phase last gates := by
  constructor
  · simp [dwell]
  · exact fun _ => dwell
  · simp [dwell]
  · exact fun _ some_left => absurd none_left some_left

section

variable (accounted : Accounted phase last gates)
include accounted

theorem Accounted.other (later : last ≤ now) (dwell : gates'.dwell phase = gates.dwell phase)
    (boundaries : boundariesSinceReset phase gates'.log = boundariesSinceReset phase gates.log)
    (pause : pausedAt phase gates'.log = pausedAt phase gates.log) :
    Accounted phase now gates' := by
  constructor
  · rw [dwell]
    exact accounted.nonneg
  · rw [dwell, boundaries]
    exact accounted.idle
  · rw [dwell, boundaries]
    intro segment running
    obtain ⟨past, fits⟩ := accounted.running segment running
    exact ⟨past.trans later, fits⟩
  · rw [dwell, boundaries, pause]
    intro stopped confirmed
    obtain ⟨until_, paused, past, fits⟩ := accounted.paused stopped confirmed
    exact ⟨until_, paused, past.trans later, fits⟩

theorem Accounted.confirm (later : last ≤ now)
    (past : boundary ≤ now) (resumes : ∀ until_ ∈ pausedAt phase gates.log, until_ ≤ boundary) :
    Accounted phase now (gates.set phase
      { gates.dwell phase with
        segmentStartedAt := some ((gates.dwell phase).segmentStartedAt.getD boundary) }
      (.confirmed phase boundary)) := by
  have boundaries : boundariesSinceReset phase (.confirmed phase boundary :: gates.log) =
      boundary :: boundariesSinceReset phase gates.log := by
    simp [boundariesSinceReset]
  constructor
  · simpa [Gates.set] using accounted.nonneg
  · simp [Gates.set, boundaries]
  · intro segment started
    simp only [Gates.set, Function.update_self, Option.some.injEq] at started ⊢
    rw [boundaries]
    cases held : (gates.dwell phase).segmentStartedAt with
    | some running =>
      rw [held, Option.getD_some] at started
      subst started
      obtain ⟨before, first, member, fits⟩ := accounted.running running held
      exact ⟨before.trans later, first, List.mem_cons_of_mem _ member, fits⟩
    | none =>
      rw [held, Option.getD_none] at started
      subst started
      refine ⟨past, ?_⟩
      by_cases unconfirmed : boundariesSinceReset phase gates.log = []
      · refine ⟨boundary, List.mem_cons_self, ?_⟩
        simp [accounted.idle unconfirmed]
      · obtain ⟨until_, paused, _, first, member, fits⟩ := accounted.paused held unconfirmed
        have resumed := resumes until_ paused
        exact ⟨first, List.mem_cons_of_mem _ member, by omega⟩
  · simp [Gates.set]

theorem Accounted.pause {segment : Int} (later : last ≤ now) (past : boundary ≤ now)
    (running : (gates.dwell phase).segmentStartedAt = some segment) :
    Accounted phase now (gates.set phase ⟨saturatingAdd (gates.dwell phase).confirmedDurationSecs
        (max (numSeconds (max boundary segment - segment)) 0), none⟩
      (.paused phase (max boundary segment))) := by
  obtain ⟨before, first, member, fits⟩ := accounted.running segment running
  have boundaries : boundariesSinceReset phase (.paused phase (max boundary segment) :: gates.log) =
      boundariesSinceReset phase gates.log := rfl
  constructor
  · simp only [Gates.set, Function.update_self]
    exact saturatingAdd_nonneg accounted.nonneg (le_max_right _ _)
  · intro unconfirmed
    rw [Gates.set, boundaries] at unconfirmed
    simp [unconfirmed] at member
  · simp [Gates.set]
  · intro _ _
    have whole := numSeconds_le (show 0 ≤ max boundary segment - segment by omega)
    have sum := saturatingAdd_le (gates.dwell phase).confirmedDurationSecs
      (max (numSeconds (max boundary segment - segment)) 0)
    refine ⟨max boundary segment, by simp [Gates.set, pausedAt], by omega, first, ?_, ?_⟩
    · exact member
    · simp only [Gates.set, Function.update_self]
      unfold microsPerSecond at *
      omega

attribute [local simp] Gates.set boundariesSinceReset pausedAt

theorem Accounted.step (later : last ≤ now)
    (resumes : ResumesAfterPause phase gates'.log) (step : GateStep rule now gates gates') :
    Accounted phase now gates' := by
  cases step with
  | confirm held _ past =>
    by_cases same : held = phase
    · subst same
      exact accounted.confirm later past (resumes.1 rfl)
    · exact accounted.other later (by simp [Ne.symm same]) (by simp [same]) (by simp [same])
  | pause held _ _ past running =>
    by_cases same : held = phase
    · subst same
      exact accounted.pause later past running
    · exact accounted.other later (by simp [Ne.symm same]) (by simp) (by simp [same])
  | reset held | pass held enough =>
    by_cases same : held = phase
    · subst same
      exact Accounted.fresh (by simp) (by simp)
    · exact accounted.other later (by simp [Ne.symm same]) (by simp [same]) (by simp [same])

end

/-- Whenever the gate passed, its seconds had gone by since some confirmation. -/
def PassedInTime (phase : GatePhase) (seconds : Int) (log : List GateEvent) : Prop :=
  ∀ newer older passedAt, log = newer ++ .passed phase passedAt :: older →
    ∃ boundary ∈ boundariesSinceReset phase older,
      seconds * microsPerSecond ≤ passedAt - boundary

variable {seconds : Int}

theorem PassedInTime.cons {event : GateEvent} {log : List GateEvent}
    (inTime : PassedInTime phase seconds log) (head : ∀ passedAt, event = .passed phase passedAt →
      ∃ boundary ∈ boundariesSinceReset phase log,
        seconds * microsPerSecond ≤ passedAt - boundary) :
    PassedInTime phase seconds (event :: log) := by
  intro newer older passedAt split
  cases newer with
  | nil =>
    rw [List.nil_append, List.cons.injEq] at split
    obtain ⟨same, rfl⟩ := split
    exact head passedAt same
  | cons _ rest =>
    rw [List.cons_append, List.cons.injEq] at split
    exact inTime rest older passedAt split.2

/-- A Sustained gate that passes at `now` was confirmed its seconds ago. -/
theorem Accounted.enough {segment : Int} (accounted : Accounted phase now gates)
    (running : (gates.dwell phase).segmentStartedAt = some segment)
    (enough : seconds ≤ saturatingAdd (gates.dwell phase).confirmedDurationSecs
      (max (numSeconds (now - segment)) 0)) :
    ∃ boundary ∈ boundariesSinceReset phase gates.log,
      seconds * microsPerSecond ≤ now - boundary := by
  obtain ⟨past, boundary, member, fits⟩ := accounted.running segment running
  have whole := numSeconds_le (show 0 ≤ now - segment by omega)
  have sum := saturatingAdd_le (gates.dwell phase).confirmedDurationSecs
    (max (numSeconds (now - segment)) 0)
  refine ⟨boundary, member, ?_⟩
  unfold microsPerSecond at *
  omega

theorem GateStep.extends (step : GateStep rule now gates gates') :
    ∃ event, gates'.log = event :: gates.log := by
  cases step <;> exact ⟨_, rfl⟩

theorem GateSteps.extends (steps : GateSteps rule now gates gates') :
    ∃ newer, gates'.log = newer ++ gates.log := by
  induction steps with
  | refl => exact ⟨[], rfl⟩
  | tail _ step ih =>
    obtain ⟨newer, before⟩ := ih
    obtain ⟨event, after⟩ := step.extends
    exact ⟨event :: newer, by rw [after, before, List.cons_append]⟩

theorem PassedInTime.step (inTime : PassedInTime phase seconds gates.log)
    (sustained : rule.metaOf phase = some (.sustained seconds))
    (accounted : Accounted phase now gates) (step : GateStep rule now gates gates') :
    PassedInTime phase seconds gates'.log := by
  cases step with
  | confirm | pause | reset => exact inTime.cons (by simp)
  | pass _ enough =>
    apply inTime.cons
    intro passedAt same
    cases same
    obtain ⟨segment, running, reached⟩ := enough seconds sustained
    exact accounted.enough running reached

theorem Accounted.steps (sustained : rule.metaOf phase = some (.sustained seconds))
    (accounted : Accounted phase last gates) (inTime : PassedInTime phase seconds gates.log)
    (later : last ≤ now) (resumes : ResumesAfterPause phase gates'.log)
    (steps : GateSteps rule now gates gates') :
    Accounted phase now gates' ∧ PassedInTime phase seconds gates'.log := by
  induction steps with
  | refl => exact ⟨accounted.other later rfl rfl rfl, inTime⟩
  | @tail mid after _ step ih =>
    obtain ⟨event, extended⟩ := step.extends
    have earlier : ResumesAfterPause phase mid.log := by
      rw [extended] at resumes
      exact resumes.older
    obtain ⟨accountedMid, inTimeMid⟩ := ih earlier
    exact ⟨accountedMid.step le_rfl resumes step, inTimeMid.step sustained accountedMid step⟩

theorem evaluateAll_extends (store : Store) : ∃ newer,
      (store.evaluateAll rule evaluations).gates = newer ++ store.gates := by
  induction evaluations generalizing store with
  | nil => exact ⟨[], rfl⟩
  | cons evaluation _ ih =>
    obtain ⟨newer, whole⟩ := ih (store.evaluate rule evaluation)
    obtain ⟨first, step⟩ := GateSteps.extends (@evaluate_steps _ rule store evaluation)
    refine ⟨newer ++ first, ?_⟩
    rw [List.append_assoc]
    exact whole.trans (congrArg (newer ++ ·) step)

theorem Accounted.evaluateAll (sustained : rule.metaOf phase = some (.sustained seconds))
    (store : Store)
    (accounted : Accounted phase last store.view) (inTime : PassedInTime phase seconds store.gates)
    (ordered : (evaluations.map Evaluation.now).Pairwise (· ≤ ·))
    (started : ∀ evaluation ∈ evaluations, last ≤ evaluation.now)
    (ended : ∀ evaluation ∈ evaluations, evaluation.now ≤ now) (later : last ≤ now)
    (resumes : ResumesAfterPause phase (store.evaluateAll rule evaluations).gates) :
    Accounted phase now (store.evaluateAll rule evaluations).view ∧
      PassedInTime phase seconds (store.evaluateAll rule evaluations).gates := by
  induction evaluations generalizing store last with
  | nil => exact ⟨accounted.other later rfl rfl rfl, inTime⟩
  | cons evaluation _ ih =>
    rw [List.map_cons, List.pairwise_cons] at ordered
    obtain ⟨newer, whole⟩ := evaluateAll_extends (store.evaluate rule evaluation)
    have midway : ResumesAfterPause phase (store.evaluate rule evaluation).gates := by
      apply ResumesAfterPause.suffix
      rw [← whole]
      exact resumes
    obtain ⟨accountedMid, inTimeMid⟩ := accounted.steps sustained inTime
      (started evaluation List.mem_cons_self) midway evaluate_steps
    exact ih (store.evaluate rule evaluation) accountedMid inTimeMid ordered.2
      (fun next member => ordered.1 next.now (List.mem_map_of_mem member))
      (fun next member => ended next (List.mem_cons_of_mem _ member))
      (ended evaluation List.mem_cons_self) resumes

theorem Accounted.credited_le (accounted : Accounted phase now gates)
    (earliest : (boundariesSinceReset phase gates.log).min? = some first) :
    (gates.dwell phase).credited now ≤ now - first := by
  have least : ∀ boundary ∈ boundariesSinceReset phase gates.log, first ≤ boundary :=
    fun boundary member => (List.min?_eq_some_iff.mp earliest).2 boundary member
  have confirmed : boundariesSinceReset phase gates.log ≠ [] := by
    intro none_left
    simp [none_left] at earliest
  unfold Dwell.credited
  split
  next segment running =>
    obtain ⟨_, boundary, member, fits⟩ := accounted.running segment running
    have early := least boundary member
    omega
  next stopped =>
    obtain ⟨until_, _, past, boundary, member, fits⟩ := accounted.paused stopped confirmed
    have early := least boundary member
    omega

/-- If no confirmation that resumes a paused phase reaches back behind the pause, the
    credited dwell of a Sustained phase is never more than the time since its earliest
    confirmation, and its gate passes only when its seconds have gone by since then. -/
theorem dwell_counts_time_once (rule : Rule Facts) (phase : GatePhase) (seconds : Int)
    (sustained : rule.metaOf phase = some (.sustained seconds))
    (evaluations : List (Evaluation Facts))
    (ordered : (evaluations.map Evaluation.now).Pairwise (· ≤ ·))
    (resumes : ResumesAfterPause phase (({} : Store).evaluateAll rule evaluations).gates) :
    (∀ now, (∀ evaluation ∈ evaluations, evaluation.now ≤ now) → ∀ first,
      (boundariesSinceReset phase (({} : Store).evaluateAll rule evaluations).gates).min? =
        some first →
      ((({} : Store).evaluateAll rule evaluations).dwell phase).credited now ≤ now - first) ∧
    ∀ newer older passedAt, (({} : Store).evaluateAll rule evaluations).gates =
        newer ++ .passed phase passedAt :: older →
      ∃ first, (boundariesSinceReset phase older).min? = some first ∧
        seconds * microsPerSecond ≤ passedAt - first := by
  have along : ∀ now, (∀ evaluation ∈ evaluations, evaluation.now ≤ now) →
      Accounted phase now (({} : Store).evaluateAll rule evaluations).view ∧
        PassedInTime phase seconds (({} : Store).evaluateAll rule evaluations).gates := by
    intro now ended
    obtain ⟨low, early, started⟩ : ∃ low, low ≤ now ∧
        ∀ evaluation ∈ evaluations, low ≤ evaluation.now := by
      cases evaluations with
      | nil => exact ⟨now, le_rfl, by simp⟩
      | cons head =>
        rw [List.map_cons, List.pairwise_cons] at ordered
        refine ⟨head.now, ended head List.mem_cons_self, fun evaluation member => ?_⟩
        rcases List.mem_cons.mp member with rfl | later
        · exact le_rfl
        · exact ordered.1 evaluation.now (List.mem_map_of_mem later)
    exact Accounted.evaluateAll sustained {}
      (Accounted.fresh (by cases phase <;> rfl) rfl) (by simp [PassedInTime]) ordered started
      ended early resumes
  constructor
  · intro now ended first earliest
    exact (along now ended).1.credited_le earliest
  intro newer older passedAt split
  obtain ⟨high, above⟩ := (evaluations.map Evaluation.now).toFinset.exists_le
  simp only [List.mem_toFinset, List.mem_map, forall_exists_index, and_imp,
    forall_apply_eq_imp_iff₂] at above
  obtain ⟨boundary, member, fits⟩ := (along high above).2 newer older passedAt split
  obtain ⟨first, earliest⟩ : ∃ first, (boundariesSinceReset phase older).min? = some first := by
    rw [← Option.isSome_iff_exists, List.isSome_min?_iff]
    exact List.ne_nil_of_mem member
  have early := (List.min?_eq_some_iff.mp earliest).2 boundary member
  exact ⟨first, earliest, by omega⟩

end

/-- A State rule whose trigger has to hold for 150 seconds. -/
def sustainedRule : Rule ExpressionTruth where
  kind := .state
  correlationMode := .naturalKey
  scopeTruth := fun _ => some .inScope
  triggerTruth := fun evidence => some evidence.facts
  triggerMeta := some (.sustained 150)
  resolveTruth := none
  resolveMeta := none
  armedAt := 0

/-- Evidence of this truth, accepted and evaluated at second `at_`, about a state that
    began at second `started`. -/
def evaluationAt (at_ : Nat) (started : Int) (truth : ExpressionTruth) :
    Evaluation ExpressionTruth where
  evidence :=
    { id := at_
      evidenceSeq := at_
      sourceEventId := "agent.status"
      factKind := .state
      subjectClientId := none
      observedAt := at_ * microsPerSecond
      acceptedAt := at_ * microsPerSecond
      stateStartedAt := some (started * microsPerSecond)
      sourceScopeExited := false
      facts := truth }
  timerRecheck := false
  suppressed := false
  now := at_ * microsPerSecond

/-- Resumed after the pause, the gate passes 200 seconds after its first confirmation. -/
theorem resumed_after_pause_in_time :
    ∃ first, (boundariesSinceReset .trigger [.confirmed .trigger (70 * microsPerSecond),
        .paused .trigger (60 * microsPerSecond), .confirmed .trigger 0]).min? = some first ∧
      150 * microsPerSecond ≤ 200 * microsPerSecond - first :=
  (dwell_counts_time_once sustainedRule .trigger 150 rfl
    [evaluationAt 50 0 .holds, evaluationAt 60 60 .unknown, evaluationAt 200 70 .holds]
    (by decide) (by decide)).2 [] _ _ (by decide)

/-- Resumed with the old state's boundary, the first 100 seconds count twice: the gate of
    150 seconds passes 100 seconds after its first confirmation. -/
theorem resumed_before_pause_passes_early :
    (({} : Store).evaluateAll sustainedRule [evaluationAt 99 0 .holds,
        evaluationAt 100 100 .unknown, evaluationAt 101 0 .holds]).gates =
      [.passed .trigger (101 * microsPerSecond), .confirmed .trigger 0,
        .paused .trigger (100 * microsPerSecond), .confirmed .trigger 0] ∧
      ¬ 150 * microsPerSecond ≤ 101 * microsPerSecond - 0 := by
  decide

end Vpsman.Policy

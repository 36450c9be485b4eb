import Vpsman.Agent.Tasks

/-! # The accepted runtime configuration never goes back

Whether a configuration is stale is checked when its command arrives, and the accepted
version changes when the command ends. In between nothing else can change it: a command
that brings a configuration runs alone.
-/

namespace Vpsman.Agent

open Vpsman.Lib

variable {Content : Type} (platform : Platform Content) (validShape : Content → Bool)

/-- No version counts as older than any version. -/
def VersionLe (earlier later : Option Nat) : Prop :=
  ∀ version ∈ earlier, ∃ newer ∈ later, version ≤ newer

theorem VersionLe.refl : VersionLe version version :=
  fun number member => ⟨number, member, Nat.le_refl number⟩

theorem VersionLe.trans (early : VersionLe first second)
    (late : VersionLe second third) : VersionLe first third := by
  intro version member
  obtain ⟨middle, found, lower⟩ := early version member
  obtain ⟨newest, foundToo, upper⟩ := late middle found
  exact ⟨newest, foundToo, Nat.le_trans lower upper⟩

/-- The configuration with this content in force is as new as what is accepted: its version
    is newer, or it is the same and so is the content. -/
def Supersedes (settings : Content × Option Nat) (config : AgentRuntimeConfig Content) : Prop :=
  ∀ version ∈ settings.2, version < config.version ∨ version = config.version ∧
    runtimeConfigContentHash platform ⟨0, settings.1⟩ = runtimeConfigContentHash platform config

theorem newer_or_same_of_not_stale
    (fresh : runtimeConfigSnapshotIsStale platform (some version) current desiredVersion incoming =
      false) :
    version < desiredVersion ∨ version = desiredVersion ∧
      runtimeConfigContentHash platform ⟨0, current⟩ = runtimeConfigContentHash platform incoming := by
  dsimp only [runtimeConfigSnapshotIsStale] at fresh
  split at fresh
  · cases fresh
  · split at fresh
    next newer =>
      exact .inl newer
    · rw [decide_eq_false_iff_not, ne_eq, not_not] at fresh
      exact .inr ⟨by omega, fresh⟩

variable {config : AgentRuntimeConfig Content}

theorem supersedes_of_not_rejected (current : runtimeConfigRejection platform agent
      (.runtimeConfigSync desiredVersion reason config) = none) :
    Supersedes platform agent.settings config := by
  intro version accepted
  have same : agent.acceptedRuntimeConfigVersion = some version := accepted
  dsimp only [runtimeConfigRejection] at current
  split at current
  · cases current
  next matching =>
    obtain rfl : config.version = desiredVersion := not_not.mp matching
    split at current
    · cases current
    next fresh =>
      rw [same, Bool.not_eq_true] at fresh
      exact newer_or_same_of_not_stale platform fresh

theorem runtimeConfigRejection_congr (settings : after.settings = before.settings) :
    runtimeConfigRejection platform after command = runtimeConfigRejection platform before command := by
  obtain ⟨config, version⟩ := Prod.mk.inj settings
  cases command with
  | configRead | operation => rfl
  | runtimeConfigSync =>
    unfold runtimeConfigRejection
    rw [config, version]

/-! ## Commands that run alone -/

namespace AgentCommandRuntime

/-- An exclusive command is the only one in the active table. -/
def Alone (agent : AgentCommandRuntime Content) : Prop :=
  ∀ jobId active, agent.activeCommands.lookup jobId = some active → active.safety = .exclusive →
    ∀ key other, agent.activeCommands.lookup key = some other → key = jobId

end AgentCommandRuntime

/-- Every entry was there before, with the same safety. -/
def Shrinks (before after : AgentCommandRuntime Content) : Prop :=
  ∀ key later, after.activeCommands.lookup key = some later →
    ∃ earlier, before.activeCommands.lookup key = some earlier ∧ later.safety = earlier.safety

variable {before middle after : AgentCommandRuntime Content}

theorem Shrinks.alone (shrinks : Shrinks before after) (alone : before.Alone) : after.Alone := by
  intro jobId active found exclusive key other stored
  obtain ⟨earlier, was, same⟩ := shrinks jobId active found
  obtain ⟨earlierOther, wasToo, _⟩ := shrinks key other stored
  exact alone jobId earlier was (same.symm.trans exclusive) key earlierOther wasToo

theorem Shrinks.trans (first : Shrinks before middle) (second : Shrinks middle after) :
    Shrinks before after := by
  intro key later stored
  obtain ⟨between, found, same⟩ := second key later stored
  obtain ⟨earlier, was, sameToo⟩ := first key between found
  exact ⟨earlier, was, same.trans sameToo⟩

theorem Shrinks.of_same
    (same : ∀ key, after.activeCommands.lookup key = before.activeCommands.lookup key) :
    Shrinks before after :=
  fun key later stored => ⟨later, (same key).symm.trans stored, rfl⟩

theorem Shrinks.of_turns (turns : Relation.ReflTransGen Turn before after) : Shrinks before after := by
  intro key later stored
  rcases entryKept_of_turns turns with ⟨gone, _⟩ | ⟨earlier, kept, found, stays, _, safety⟩
  · rw [gone] at stored
    cases stored
  · obtain rfl := Option.some_inj.mp (stays.symm.trans stored)
    exact ⟨earlier, found, safety⟩

theorem Shrinks.of_replaced (found : before.activeCommands.lookup jobId = some active)
    (replaced : Replaced jobId changed before after) (safety : changed.safety = active.safety) :
    Shrinks before after := by
  intro key later stored
  rw [replaced.table] at stored
  by_cases same : key = jobId
  · rw [if_pos same, Option.some_inj] at stored
    exact ⟨active, same ▸ found, stored ▸ safety⟩
  · rw [if_neg same] at stored
    exact ⟨later, stored, rfl⟩

theorem finish_safety (active : ActiveCommand) :
    (active.finish platform outputs).safety = active.safety := by
  induction outputs generalizing active with
  | nil => rfl
  | cons output _ ih => exact (ih _).trans (enqueueOutput_effect platform active output).2.1

/-- A command is only admitted where it fits in with the exclusive ones. -/
theorem Admits.alone
    (admits : Admits platform streamId request before after) (alone : before.Alone) : after.Alone := by
  intro jobId active found exclusive key other stored
  have fits := admits.fits
  have entry {jobId : Uuid} {active : ActiveCommand}
      (found : before.activeCommands.lookup jobId = some active) :
      ⟨jobId, active⟩ ∈ before.activeCommands.entries := AList.mem_lookup_iff.mp found
  rw [admits.table] at found stored
  unfold exclusiveConflict at fits
  by_cases isNew : jobId = request.jobId
  · rw [if_pos isNew, Option.some_inj] at found
    subst found
    have command : jobCommandSafety request.command = .exclusive := exclusive
    rw [if_pos command, Bool.not_eq_false', List.isEmpty_iff] at fits
    by_cases sameKey : key = request.jobId
    · exact sameKey.trans isNew.symm
    · rw [if_neg sameKey] at stored
      have listed := entry stored
      rw [fits] at listed
      cases listed
  · rw [if_neg isNew] at found
    by_cases sameKey : key = request.jobId
    · exfalso
      split at fits
      · rw [Bool.not_eq_false', List.isEmpty_iff] at fits
        have listed := entry found
        rw [fits] at listed
        cases listed
      · rw [List.any_eq_false] at fits
        exact fits _ (entry found) (decide_eq_true exclusive)
    · rw [if_neg sameKey] at stored
      exact alone jobId active found exclusive key other stored

/-! ## The invariant -/

structure Governed (system : Supervised Content) : Prop where
  tended : system.Tended
  alone : system.agent.Alone
  /-- Until its command ends, a configuration stays acceptable. -/
  current : ∀ jobId request, system.tasks.lookup jobId = some request →
    runtimeConfigRejection platform system.agent request.command = none
  bounded : ∀ config ∈ system.persisted,
    VersionLe (some config.version) system.agent.acceptedRuntimeConfigVersion
  /-- A stored configuration of the accepted version is the one in force. -/
  latest : ∀ config ∈ system.persisted,
    system.agent.acceptedRuntimeConfigVersion = some config.version →
    runtimeConfigContentHash platform config =
      runtimeConfigContentHash platform ⟨0, system.agent.config⟩
  agree : ∀ left ∈ system.persisted, ∀ right ∈ system.persisted, left.version = right.version →
    runtimeConfigContentHash platform left = runtimeConfigContentHash platform right

variable {platform}

variable {before after : Supervised Content}

/-- With the settings unchanged only the tables can be at fault. -/
theorem Governed.unchanged (governed : Governed platform before) (tended : after.Tended)
    (alone : after.agent.Alone) (settings : after.agent.settings = before.agent.settings)
    (current : ∀ jobId request, after.tasks.lookup jobId = some request →
      runtimeConfigRejection platform before.agent request.command = none)
    (persisted : after.persisted = before.persisted) :
    Governed platform after ∧ VersionLe before.agent.acceptedRuntimeConfigVersion
      after.agent.acceptedRuntimeConfigVersion := by
  obtain ⟨config, version⟩ := Prod.mk.inj settings
  rw [version]
  refine ⟨⟨tended, alone, fun jobId request task => ?_, ?_, ?_, ?_⟩, .refl⟩
  · rw [runtimeConfigRejection_congr platform settings]
    exact current jobId request task
  · rw [persisted, version]
    exact governed.bounded
  · rw [persisted, version, config]
    exact governed.latest
  · rw [persisted]
    exact governed.agree

/-- Storing a configuration that supersedes the accepted one keeps versions and contents in
    step. -/
theorem Governed.stored (governed : Governed platform before) (tended : after.Tended)
    (alone : after.agent.Alone) (idle : ∀ jobId, after.tasks.lookup jobId = none)
    (supersedes : Supersedes platform before.agent.settings config)
    (settings : after.agent.settings = (config.content, some config.version))
    (persisted : after.persisted = config :: before.persisted) :
    Governed platform after ∧ VersionLe before.agent.acceptedRuntimeConfigVersion
      after.agent.acceptedRuntimeConfigVersion := by
  obtain ⟨content, version⟩ := Prod.mk.inj settings
  have ordered : VersionLe before.agent.acceptedRuntimeConfigVersion (some config.version) := by
    intro accepted member
    refine ⟨config.version, rfl, ?_⟩
    rcases supersedes accepted member with newer | ⟨same, _⟩
    · exact Nat.le_of_lt newer
    · exact Nat.le_of_eq same
  -- a stored configuration of the new version has the content of the new one
  have same : ∀ older ∈ before.persisted, older.version = config.version →
      runtimeConfigContentHash platform older = runtimeConfigContentHash platform config := by
    intro older member matching
    obtain ⟨accepted, found, lower⟩ := governed.bounded older member older.version rfl
    rcases supersedes accepted found with newer | ⟨equal, hash⟩
    · omega
    · refine (governed.latest older member ?_).trans hash
      rw [show before.agent.acceptedRuntimeConfigVersion = some accepted from found, equal, matching]
  rw [version]
  refine ⟨⟨tended, alone, fun jobId request task => ?_, ?_, ?_, ?_⟩, ordered⟩
  · rw [idle jobId] at task
    cases task
  · intro stored member
    rw [persisted, List.mem_cons] at member
    rw [version]
    rcases member with rfl | older
    · exact .refl
    · exact (governed.bounded stored older).trans ordered
  · intro stored member accepted
    rw [version, Option.some_inj] at accepted
    rw [content]
    rw [persisted, List.mem_cons] at member
    rcases member with rfl | older
    · rfl
    · exact same stored older accepted.symm
  · intro left leftMember right rightMember matching
    rw [persisted, List.mem_cons] at leftMember rightMember
    rcases leftMember with rfl | leftOlder
    · rcases rightMember with rfl | rightOlder
      · rfl
      · exact (same right rightOlder matching.symm).symm
    · rcases rightMember with rfl | rightOlder
      · exact same left leftOlder matching
      · exact governed.agree left leftOlder right rightOlder matching

theorem Governed.boot (config : Content) :
    Governed platform (Supervised.boot config ledger cached accepted) where
  tended := .boot config
  alone := fun _ _ found => absurd found nofun
  current := fun _ _ task => absurd task nofun
  bounded := fun _ member => absurd member List.not_mem_nil
  latest := fun _ member => absurd member List.not_mem_nil
  agree := fun _ member => absurd member List.not_mem_nil

theorem candidateOf_eq_some (candidate : candidateOf validShape command = some config) :
    ∃ desiredVersion reason, command = .runtimeConfigSync desiredVersion reason config := by
  cases command with
  | configRead | operation => cases candidate
  | runtimeConfigSync desiredVersion reason =>
    obtain ⟨_, _, same⟩ := Option.map_eq_some_iff.mp candidate
    exact ⟨desiredVersion, reason, same ▸ rfl⟩

/-- What a task changes at its end: nothing, or the settings to the configuration of its
    command, which is then stored. -/
theorem ended_settings (task : before.tasks.lookup jobId = some request) :
    ((taskResult validShape request ending).settingsAfter conditions settings = settings ∧
      before.persistedAfter validShape (.finished conditions jobId ending) = before.persisted) ∨
    ∃ desiredVersion reason config,
      request.command = .runtimeConfigSync desiredVersion reason config ∧
      (taskResult validShape request ending).settingsAfter conditions settings =
        (config.content, some config.version) ∧
      before.persistedAfter validShape (.finished conditions jobId ending) =
        config :: before.persisted := by
  dsimp only [CommandExecutionResult.settingsAfter, Supervised.persistedAfter]
  rw [task]
  cases ending with
  | panicked =>
    refine .inl ⟨rfl, ?_⟩
    cases conditions.storeFailure <;> rfl
  | returned =>
    cases candidate : candidateOf validShape request.command with
    | none =>
      refine .inl ⟨?_, ?_⟩
      · simp only [taskResult, candidate]
        rfl
      · cases conditions.storeFailure with
        | some => rfl
        | none =>
          simp only [taskResult, candidate]
          rfl
    | some config =>
      obtain ⟨desiredVersion, reason, command⟩ := candidateOf_eq_some validShape candidate
      cases conditions.storeFailure with
      | some =>
        refine .inl ⟨?_, rfl⟩
        simp [taskResult, candidate]
      | none =>
        refine .inr ⟨desiredVersion, reason, config, command, ?_, ?_⟩
        all_goals
          simp only [taskResult, candidate]
          rfl

theorem Governed.step (governed : Governed platform before)
    (stepped : Supervised.step platform validShape before act = some after) :
    Governed platform after ∧ VersionLe before.agent.acceptedRuntimeConfigVersion
      after.agent.acceptedRuntimeConfigVersion := by
  have outcome := Supervised.step_outcome platform validShape governed.tended stepped
  have tended := Supervised.Tended.step platform validShape governed.tended outcome
  cases outcome with
  | turned _ _ turns tasks persisted =>
    refine governed.unchanged tended ((Shrinks.of_turns turns).alone governed.alone)
      (settings_of_turns turns) ?_ persisted
    rw [tasks]
    exact governed.current
  | untouched _ _ _ leaves tasks persisted =>
    refine governed.unchanged tended ((Shrinks.of_same leaves.table).alone governed.alone)
      leaves.settings ?_ persisted
    rw [tasks]
    exact governed.current
  | admitted _ _ _ _ admits tasks persisted =>
    refine governed.unchanged tended (admits.alone platform governed.alone) admits.settings ?_ persisted
    intro jobId other task
    rw [tasks] at task
    rcases HashMap.lookup_insert_cases task with ⟨-, rfl⟩ | task
    · exact admits.current
    · exact governed.current jobId other task
  | queued _ output active _ found _ replaced settings turns tasks persisted =>
    have shrinks := (Shrinks.of_replaced found replaced
      (enqueueOutput_effect platform active output).2.1).trans (.of_turns turns)
    refine governed.unchanged tended (shrinks.alone governed.alone)
      ((settings_of_turns turns).trans settings) ?_ persisted
    rw [tasks]
    exact governed.current
  | ended conditions jobId ending request active middle task concerns found replaced settings
      remembered turns tasks persisted =>
      have alone := ((Shrinks.of_replaced found replaced (finish_safety platform active)).trans
        (.of_turns turns)).alone governed.alone
      have left {key : Uuid} {other : JobRequest Content}
          (remaining : after.tasks.lookup key = some other) :
          key ≠ jobId ∧ before.tasks.lookup key = some other := by
        rw [tasks] at remaining
        exact HashMap.lookup_of_erase remaining
      rcases ended_settings validShape task with
        ⟨same, kept⟩ | ⟨desiredVersion, reason, config, command, taken, stored⟩
      · refine governed.unchanged tended alone ((settings_of_turns turns).trans (settings.trans same))
          ?_ (persisted.trans kept)
        exact fun key other remaining => governed.current key other (left remaining).2
      · have supersedes : Supersedes platform before.agent.settings config := by
          have current := governed.current jobId request task
          rw [command] at current
          exact supersedes_of_not_rejected platform current
        have idle : ∀ key, after.tasks.lookup key = none := by
          intro key
          by_contra busy
          obtain ⟨other, remaining⟩ := Option.ne_none_iff_exists'.mp busy
          obtain ⟨different, was⟩ := left remaining
          obtain ⟨_, running, runningFound, _⟩ := governed.tended key other was
          obtain ⟨_, exclusive, exclusiveFound, _, safety⟩ := governed.tended jobId request task
          rw [command] at safety
          exact different (governed.alone jobId exclusive exclusiveFound safety key running runningFound)
        exact governed.stored tended alone idle supersedes
          ((settings_of_turns turns).trans (settings.trans taken)) (persisted.trans stored)

/-- In every run of a process, the accepted version never decreases, and two configurations
    of one version that were accepted and stored have the same content hash. -/
theorem accepted_config_never_goes_back (config : Content) (ledger : CommandLedger)
    (cached : Option (AgentRuntimeConfig Content)) (accepted : Option Nat)
    (earlier later : List (TaskAction Content)) (middle final : Supervised Content)
    (reached : run (Supervised.step platform validShape)
      (Supervised.boot config ledger cached accepted) earlier = some middle)
    (runs : run (Supervised.step platform validShape) middle later = some final) :
    VersionLe middle.agent.acceptedRuntimeConfigVersion final.agent.acceptedRuntimeConfigVersion ∧
      ∀ left ∈ final.persisted, ∀ right ∈ final.persisted, left.version = right.version →
        runtimeConfigContentHash platform left = runtimeConfigContentHash platform right := by
  have governedMiddle : Governed platform middle :=
    Reachable.invariant (fun _ start => start ▸ Governed.boot config)
      (fun _ _ _ governed stepped => (governed.step validShape stepped).1)
      ⟨Supervised.boot config ledger cached accepted, earlier, rfl, reached⟩
  have kept : ∀ system act next,
      (Governed platform system ∧ VersionLe middle.agent.acceptedRuntimeConfigVersion
        system.agent.acceptedRuntimeConfigVersion) → True →
      Supervised.step platform validShape system act = some next →
      Governed platform next ∧ VersionLe middle.agent.acceptedRuntimeConfigVersion
        next.agent.acceptedRuntimeConfigVersion := by
    intro system act next ⟨governed, grown⟩ _ stepped
    obtain ⟨governedNext, grows⟩ := governed.step validShape stepped
    exact ⟨governedNext, grown.trans grows⟩
  obtain ⟨governed, grown⟩ := run_preserves kept ⟨governedMiddle, .refl⟩ (fun _ _ => trivial) runs
  exact ⟨grown, governed.agree⟩

/-! ## A sample run -/

/-- Configurations that consist of a telemetry interval; a text is its own hash. -/
def intervalPlatform : Platform Nat where
  encodeStatus := fun status => (renderStatus status).toUTF8.toList
  encodeCommand := fun
    | .configRead => (renderStatus [("type", .text "config_read")]).toUTF8.toList
    | .runtimeConfigSync desiredVersion _ config =>
      (renderStatus [("type", .text "runtime_config_sync"),
        ("desired_version", .number desiredVersion),
        ("telemetry_interval_secs", .number config.content)]).toUTF8.toList
    | .operation operation => (renderStatus [("type", .text operation.label)]).toUTF8.toList
  encodeRuntimeConfig := fun config =>
    (renderStatus [("version", .number config.version),
      ("telemetry_interval_secs", .number config.content)]).toUTF8.toList
  encodeLedgerEntry := fun _ => []
  payloadHash := fun bytes => String.ofList (bytes.map fun byte => Char.ofNat byte.toNat)
  runtimeConfigProtocolVersion := fun _ => 3

def syncFrame (jobId : Uuid) (version interval : Nat) : TaskAction Nat :=
  .session (.commandFrame calm ⟨7, some (.supported
    ⟨jobId, 3, .runtimeConfigSync version "" ⟨version, interval⟩, 60⟩)⟩)

def syncFailed (jobId : Uuid) : TaskAction Nat :=
  .finished calm jobId (.returned (.error (.failed "nft failed" "nft failed")))

/-- Version 5 is accepted although applying it failed. -/
def firstSync : List (TaskAction Nat) :=
  [.session (.connect calm 2), syncFrame 0 5 30, syncFailed 0]

/-- Version 5 with another content and version 4 are refused, version 6 cannot be stored at
    first, and version 5 is accepted once more. -/
def laterSyncs : List (TaskAction Nat) :=
  [syncFrame 1 5 31, syncFrame 2 4 30, syncFrame 3 6 40,
    .finished { calm with storeFailure := some "disk full" } 3 (.returned (.ok [])),
    syncFrame 4 5 30, syncFailed 4, syncFrame 5 6 40, syncFailed 5]

theorem later_syncs_keep_order :
    ∃ middle final, run (Supervised.step intervalPlatform fun _ => true)
        (Supervised.boot 60 ∅ none none) firstSync = some middle ∧
      run (Supervised.step intervalPlatform fun _ => true) middle laterSyncs = some final ∧
      final.persisted = [⟨6, 40⟩, ⟨5, 30⟩, ⟨5, 30⟩] ∧
      VersionLe middle.agent.acceptedRuntimeConfigVersion final.agent.acceptedRuntimeConfigVersion ∧
      ∀ left ∈ final.persisted, ∀ right ∈ final.persisted, left.version = right.version →
        runtimeConfigContentHash intervalPlatform left =
          runtimeConfigContentHash intervalPlatform right := by
  have stored : (run (Supervised.step intervalPlatform fun _ => true)
      (Supervised.boot 60 ∅ none none) (firstSync ++ laterSyncs)).map (·.persisted) =
        some [⟨6, 40⟩, ⟨5, 30⟩, ⟨5, 30⟩] := by decide +kernel
  obtain ⟨final, runs, persisted⟩ := Option.map_eq_some_iff.mp stored
  obtain ⟨middle, reached, runs⟩ := run_append_some runs
  exact ⟨middle, final, reached, runs, persisted, accepted_config_never_goes_back (fun _ => true) 60 ∅
    none none firstSync laterSyncs middle final reached runs⟩

/-- In every run of a process, an exclusive command is alone in the active table, and while its
    task runs no other task does. -/
theorem exclusive_commands_run_alone (runs : run (Supervised.step platform validShape)
      (Supervised.boot content ledger cached accepted) actions = some final) :
    final.agent.Alone ∧ ∀ jobId request, final.tasks.lookup jobId = some request →
      jobCommandSafety request.command = .exclusive → ∀ key ∈ final.tasks, key = jobId := by
  have governed : Governed platform final :=
    Reachable.invariant (fun _ start => start ▸ Governed.boot content)
      (fun _ _ _ governed stepped => (governed.step validShape stepped).1) ⟨_, actions, rfl, runs⟩
  refine ⟨governed.alone, fun jobId request task exclusive key running => ?_⟩
  obtain ⟨other, otherTask⟩ := Option.isSome_iff_exists.mp (AList.lookup_isSome.mpr running)
  obtain ⟨_, active, found, _, safety⟩ := governed.tended jobId request task
  obtain ⟨_, otherActive, otherFound, _⟩ := governed.tended key other otherTask
  exact governed.alone jobId active found (safety.trans exclusive) key otherActive otherFound

/-- A second configuration comes while the first is being applied. -/
theorem second_sync_waits :
    ∃ final, run (Supervised.step intervalPlatform fun _ => true) (Supervised.boot 60 ∅ none none)
        [.session (.connect calm 2), syncFrame 0 5 30, syncFrame 1 6 40] = some final ∧
      final.tasks.keys = [0] ∧ final.agent.Alone :=
  ⟨_, Option.get_mem (by decide +kernel), by decide +kernel,
    (exclusive_commands_run_alone _ (Option.get_mem _)).1⟩

end Vpsman.Agent

import Vpsman.Agent.Custody
import Vpsman.Lib.Sha256

/-! # Every job is executed at most once

Once a job was started it stays held, and a held job is not started again, until an
eviction takes its last entry.
-/

namespace Vpsman.Agent

open Vpsman.Lib

variable {Content : Type} {jobId : Uuid} {before after agent : AgentCommandRuntime Content}

/-- Since it was started, the job was not started again and is held, unless it was
    forgotten in the meantime. -/
def HeldSinceStart (jobId : Uuid) (agent : AgentCommandRuntime Content) : Prop :=
  ∀ newer older, agent.log = newer ++ .started jobId :: older → .forgotten jobId ∉ newer →
    .started jobId ∉ newer ∧ agent.Held jobId

theorem earlier_start {rest : List JobEvent} (quiet : .started jobId ∉ events)
    (split : events ++ rest = newer ++ .started jobId :: older) :
    ∃ between, newer = events ++ between ∧ rest = between ++ .started jobId :: older := by
  rcases List.append_eq_append_iff.mp split with ⟨between, here, there⟩ | ⟨between, here, there⟩
  · exact ⟨between, here, there⟩
  cases between with
  | nil => exact ⟨[], by simpa using here.symm, by simpa using there.symm⟩
  | cons =>
    rw [List.cons_append, List.cons.injEq] at there
    rw [here, ← there.1] at quiet
    simp at quiet

theorem HeldSinceStart.keeps (safe : HeldSinceStart jobId before) (keeps : Keeps jobId before after) :
    HeldSinceStart jobId after := by
  obtain ⟨events, log, quiet, held⟩ := keeps
  intro newer older split unforgotten
  rw [log] at split
  obtain ⟨between, rfl, earlierLog⟩ := earlier_start quiet split
  rw [List.mem_append, not_or] at unforgotten
  obtain ⟨once, earlier⟩ := safe between older earlierLog unforgotten.2
  exact ⟨by simp [quiet, once], held unforgotten.1 earlier⟩

theorem HeldSinceStart.starts (safe : HeldSinceStart jobId before)
    (starts : Starts jobId before after) : HeldSinceStart jobId after := by
  obtain ⟨unheld, held, events, log, quiet⟩ := starts
  intro newer older split unforgotten
  rw [log] at split
  obtain ⟨between, rfl, earlierLog⟩ := earlier_start quiet split
  cases between with
  | nil => exact ⟨by simpa using quiet, held⟩
  | cons _ rest =>
    -- an earlier start without a loss since then would have kept the job held
    rw [List.cons_append, List.cons.injEq] at earlierLog
    have clear : .forgotten jobId ∉ rest := by
      intro lost
      exact unforgotten (List.mem_append_right _ (List.mem_cons_of_mem _ lost))
    exact absurd (safe rest older earlierLog.2 clear).2 unheld

theorem HeldSinceStart.custody (safe : HeldSinceStart jobId before)
    (changes : Relation.ReflTransGen (Custody jobId) before after) : HeldSinceStart jobId after := by
  induction changes with
  | refl => exact safe
  | tail _ change ih =>
    rcases change with keeps | starts
    · exact ih.keeps keeps
    · exact ih.starts starts

/-- The runtime of a new process that found this ledger and last accepted configuration. -/
def boot (config : Content) (ledger : CommandLedger)
    (cached : Option (AgentRuntimeConfig Content)) (accepted : Option Nat) :
    AgentCommandRuntime Content where
  config := config
  commandLedger := ledger
  runtimeConfigCache := cached
  acceptedRuntimeConfigVersion := accepted

theorem HeldSinceStart.boot :
    HeldSinceStart jobId (boot config ledger cached accepted) := by
  intro newer older log
  simp [Agent.boot] at log

/-- In every run of a process, from the start of a job on, the job is not started again and
    is in the active table, the recent cache or the ledger, until an eviction from one of
    the latter two leaves it, no longer running, with an entry in neither. -/
theorem started_at_most_once (platform : Platform Content) (config : Content)
    (ledger : CommandLedger) (cached : Option (AgentRuntimeConfig Content)) (accepted : Option Nat)
    (actions : List (Action Content)) (agent : AgentCommandRuntime Content)
    (runs : run (step platform) (boot config ledger cached accepted) actions = some agent)
    (jobId : Uuid) (newer older : List JobEvent)
    (start : agent.log = newer ++ .started jobId :: older)
    (unforgotten : .forgotten jobId ∉ newer) :
    .started jobId ∉ newer ∧
      (jobId ∈ agent.activeCommands ∨ (agent.recentCommands.get jobId).isSome ∨
        agent.commandLedger.Holds jobId) := by
  have kept : ∀ before action after, HeldSinceStart jobId before → True →
      step platform before action = some after → HeldSinceStart jobId after :=
    fun _ _ _ safe _ stepped => safe.custody (step_custody platform stepped)
  have safe : HeldSinceStart jobId agent := run_preserves kept .boot (fun _ _ => trivial) runs
  obtain ⟨once, held⟩ := safe newer older start unforgotten
  exact ⟨once, held.known⟩

/-! ## A job that at most the ledger knows -/

theorem handleSupportedRequest_unremembered (platform : Platform Content) (streamId : Nat)
    (request : JobRequest Content) (agent : AgentCommandRuntime Content)
    (inactive : agent.activeCommands.lookup request.jobId = none)
    (unremembered : agent.recentCommands.get request.jobId = none)
    (found : agent.commandLedger.lookupEntry request.jobId = some entry)
    (readable : conditions.ledgerReadable = true) :
    handleSupportedRequest platform conditions streamId request agent =
      (match entry with
      | some completed => replayLedger platform streamId request.jobId
          (commandPayloadHash platform request.command) completed
      | none => admitCommand platform conditions streamId
          (commandPayloadHash platform request.command) request) agent := by
  have looked : lookupInLedger conditions request.jobId agent = (some entry, agent) := by
    rw [lookupInLedger, Fallible.read_bind, found]
    dsimp only
    rw [if_pos readable, Fallible.pure_apply]
  rw [handleSupportedRequest, Fallible.read_bind, inactive]
  dsimp only
  rw [Fallible.read_bind, unremembered]
  dsimp only
  cases entry <;> simp [Fallible.bind_apply, looked]

/-- A command that is neither exclusive nor in the way of an exclusive one starts once it
    is acknowledged. -/
theorem admitCommand_operation (platform : Platform Content) (conditions : Conditions) (streamId : Nat)
    (payloadHash : String) (request : JobRequest Content) (operation : Operation)
    (command : request.command = .operation operation) (agent : AgentCommandRuntime Content)
    (alone : exclusiveConflict agent operation.safety = false) (writable : agent.writable ≠ 0) :
    ∃ acked : AgentCommandRuntime Content, acked.log = agent.log ∧
      admitCommand platform conditions streamId payloadHash request agent =
        (some (), acked.start request.jobId (newActiveCommand streamId payloadHash request)) := by
  let ack := Message.commandAck streamId request.jobId true "accepted"
  have sent : sendJsonFrame ack agent = (some (), (sendJsonFrame ack agent).2) := by
    rw [sendJsonFrame, if_neg writable]
  refine ⟨(sendJsonFrame ack agent).2, ?_, ?_⟩
  · rw [sendJsonFrame, if_neg writable]
  · rw [admitCommand, Fallible.read_bind, command]
    dsimp only [runtimeConfigRejection]
    rw [Fallible.read_bind, jobCommandSafety, alone, if_neg (by decide), Fallible.bind_apply, sent]
    rfl

/-! ## Sample runs -/

def renderScalar : Scalar → String
  | .null => "null"
  | .number value => toString value
  | .text value => "\"" ++ value ++ "\""

/-- The JSON text of an object whose strings need no escaping; keys are sorted. -/
def renderStatus (status : StatusObject) : String :=
  let fields := status.insertionSort fun left right => left.1 ≤ right.1
  "\x7b" ++ ",".intercalate (fields.map fun field =>
    "\"" ++ field.1 ++ "\":" ++ renderScalar field.2) ++ "\x7d"

/-- Commands without arguments, status objects and hashes as they really are. -/
def samplePlatform : Platform Unit where
  encodeStatus := fun status => (renderStatus status).toUTF8.toList
  encodeCommand := fun
    | .configRead => (renderStatus [("type", .text "config_read")]).toUTF8.toList
    | .runtimeConfigSync _ _ _ => []
    | .operation operation => (renderStatus [("type", .text operation.label)]).toUTF8.toList
  encodeRuntimeConfig := fun _ => []
  encodeLedgerEntry := fun _ => []
  payloadHash := Sha256.hex
  runtimeConfigProtocolVersion := fun _ => 3

def userSessions : Operation where
  label := "user_sessions"
  safety := .read
  minSupportedProtocolVersion := 1
  protocolVersion := 1
  arguments := []

def calm : Conditions := { writable := 8 }

/-- A frame with a `user_sessions` command for the job. -/
def userSessionsFrame (jobId : Uuid) : Action Unit :=
  .commandFrame calm ⟨7, some (.supported ⟨jobId, 1, .operation userSessions, 60⟩)⟩

/-- The command of the job ends while the ledger cannot be written. -/
def finishedUnrecorded (jobId : Uuid) : Action Unit :=
  .finished { calm with ledgerWritable := false }
    ⟨jobId, "user_sessions", 60, .ok [⟨jobId, .status, [], some 0, true⟩], none, none⟩

/-- Recording the end of job 0 fails, which ends the session; the next session sends its
    output and takes it out of the active table. -/
def unrecordedRun : List (Action Unit) :=
  [.connect calm 2, userSessionsFrame 0, finishedUnrecorded 0,
    .connect { calm with order := [0] } 2]

/-- The job that was not recorded is answered from the recent cache. -/
theorem unrecorded_job_not_repeated :
    ∃ agent, run (step samplePlatform) (boot () ∅ none none)
        (unrecordedRun ++ [userSessionsFrame 1, userSessionsFrame 0]) = some agent ∧
      .started 0 ∉ [JobEvent.started 1] ∧
      (0 ∈ agent.activeCommands ∨ (agent.recentCommands.get 0).isSome ∨
        agent.commandLedger.Holds 0) := by
  have logged : (run (step samplePlatform) (boot () ∅ none none)
      (unrecordedRun ++ [userSessionsFrame 1, userSessionsFrame 0])).map (·.log) =
        some ([.started 1] ++ .started 0 :: []) := by decide +kernel
  obtain ⟨agent, runs, log⟩ := Option.map_eq_some_iff.mp logged
  exact ⟨agent, runs, started_at_most_once samplePlatform () ∅ none none _ agent runs 0 _ _ log
    (by decide)⟩

/-- A request with a command this agent does not know. -/
def unknownRequest (jobId : Uuid) : UnsupportedJobRequest where
  jobId := jobId
  commandVersion := 1
  commandType := "defragment"
  payloadHash := Sha256.hex (renderStatus [("type", .text "defragment")]).toUTF8.toList
  message := "unknown variant defragment"

def unknownFrame (jobId : Uuid) : Action Unit :=
  .commandFrame calm ⟨7, some (.unsupported (unknownRequest jobId))⟩

/-- Job 0 has ended and is only known to the recent cache, where the jobs in `newer` were
    remembered since. -/
structure Crowded (newer : List Uuid) (agent : AgentCommandRuntime Unit) : Prop where
  connected : agent.connected = true
  inactive : agent.activeCommands.entries = []
  unrecorded : agent.commandLedger.lookup 0 = none
  capped : agent.recentCommands.maxEntries = 512
  short : agent.recentCommands.order.length ≤ 512
  behind : 0 ∈ agent.recentCommands.order → ∃ older, agent.recentCommands.order = older ++ 0 :: newer
  started : .started 0 ∈ agent.log
  ledgerKept : ∀ key, .evictedFromLedger key ∉ agent.log

variable {agent : AgentCommandRuntime Unit}

theorem Crowded.unknownFrame (crowded : Crowded newer agent) (fresh : jobId ∉ 0 :: newer) :
    ∃ next, step samplePlatform agent (unknownFrame jobId) = some next ∧
      Crowded (newer ++ [jobId]) next := by
  have other : (0 : Uuid) ≠ jobId := fun same => fresh (same ▸ List.mem_cons_self)
  obtain ⟨events, log, noted⟩ := @AgentCommandRuntime.rememberRecent_log _ jobId agent
    (unknownRequest jobId).payloadHash (sequencedOutputsStartingAt 0
      [unsupportedCommandShapeOutput samplePlatform (unknownRequest jobId)]) _ false
  refine ⟨_, if_pos crowded.connected,
    ⟨crowded.connected, crowded.inactive, ?_, ?_, ?_, ?_, ?_, ?_⟩⟩
  · exact (AList.lookup_insert_ne other).trans crowded.unrecorded
  · exact (RecentCommandCache.remember_maxEntries _).trans crowded.capped
  · exact le_trans (RecentCommandCache.remember_length_le _) (le_of_eq crowded.capped)
  · intro kept
    have earlier := RecentCommandCache.mem_of_mem_remember _ other kept
    exact RecentCommandCache.remember_behind _ (crowded.behind earlier) fresh kept
  · exact log ▸ List.mem_append_right events crowded.started
  · intro key evicted
    rcases List.mem_append.mp (log ▸ evicted) with new | old
    · obtain ⟨_, forgotten | cached⟩ := noted _ new
      · simp at forgotten
      · simp at cached
    · exact crowded.ledgerKept key old

theorem Crowded.unknownFrames :
    ∀ (keys newer : List Uuid) (agent : AgentCommandRuntime Unit), Crowded newer agent →
      (0 :: (newer ++ keys)).Nodup →
      ∃ final, run (step samplePlatform) agent (keys.map Agent.unknownFrame) = some final ∧
        Crowded (newer ++ keys) final := by
  intro keys
  induction keys with
  | nil =>
    intro newer agent crowded _
    exact ⟨agent, rfl, by rwa [List.append_nil]⟩
  | cons jobId _ ih =>
    intro newer agent crowded distinct
    have fresh : jobId ∉ 0 :: newer := by
      rw [← List.cons_append, List.nodup_append] at distinct
      exact fun member => distinct.2.2 jobId member jobId List.mem_cons_self rfl
    obtain ⟨next, stepped, crowded⟩ := crowded.unknownFrame fresh
    rw [List.append_cons] at distinct ⊢
    obtain ⟨final, runs, crowded⟩ := ih _ next crowded distinct
    exact ⟨final, by rw [List.map_cons, run_cons, stepped, Option.bind_some, runs], crowded⟩

/-- With 512 newer jobs in the cache there is no room left for job 0, which then starts. -/
theorem Crowded.startsAgain (crowded : Crowded newer agent) (full : newer.length = 512) :
    ∃ final, step samplePlatform agent (userSessionsFrame 0) = some final ∧
      final.log = .started 0 :: agent.log := by
  have unremembered : agent.recentCommands.get 0 = none := by
    rw [← Option.not_isSome_iff_eq_none, RecentCommandCache.get_isSome]
    intro kept
    obtain ⟨older, order⟩ := crowded.behind kept
    have short := crowded.short
    rw [order, List.length_append, List.length_cons] at short
    omega
  have inactive : agent.activeCommands.lookup 0 = none := by
    rw [AList.lookup, crowded.inactive]
    rfl
  have unrecorded : agent.commandLedger.lookupEntry 0 = some none := by
    rw [CommandLedger.lookupEntry, crowded.unrecorded]
  have alone : exclusiveConflict agent .read = false := by
    rw [exclusiveConflict, crowded.inactive]
    rfl
  refine ⟨_, if_pos crowded.connected, ?_⟩
  let request : JobRequest Unit := ⟨0, 1, .operation userSessions, 60⟩
  obtain ⟨acked, log, started⟩ := admitCommand_operation samplePlatform calm 7 _ request userSessions rfl
    { agent with writable := calm.writable } alone (show calm.writable ≠ 0 by decide)
  have handled := handleSupportedRequest_unremembered samplePlatform 7 request
    { agent with writable := calm.writable } inactive unremembered unrecorded
    (show calm.ledgerReadable = true from rfl)
  have framed : handleCommandFrame samplePlatform calm ⟨7, some (.supported request)⟩
      { agent with writable := calm.writable } = _ := handled.trans started
  rw [inSession, framed]
  exact congrArg (.started 0 :: ·) log

def otherJobs : List Uuid := (List.range 512).map fun key => BitVec.ofNat 128 (key + 1)

theorem otherJobs_distinct : (0 :: otherJobs).Nodup := by
  have value : ∀ key < 512, (BitVec.ofNat 128 (key + 1)).toNat = key + 1 := by
    intro key small
    rw [BitVec.toNat_ofNat]
    omega
  refine List.nodup_cons.mpr ⟨fun member => ?_, List.nodup_range.map_on ?_⟩
  · obtain ⟨key, small, same⟩ := List.mem_map.mp member
    have number := congrArg BitVec.toNat same
    rw [value key (List.mem_range.mp small)] at number
    simp at number
  · intro left leftSmall right rightSmall same
    have number := congrArg BitVec.toNat same
    rw [value left (List.mem_range.mp leftSmall), value right (List.mem_range.mp rightSmall)] at number
    omega

/-- Job 0 ends unrecorded, 512 other jobs are remembered, and job 0 arrives again. -/
def crowdingRun : List (Action Unit) :=
  unrecordedRun ++ (otherJobs.map unknownFrame ++ [userSessionsFrame 0])

theorem crowded_unrecordedRun :
    ∃ agent, run (step samplePlatform) (boot () ∅ none none) unrecordedRun = some agent ∧
      Crowded [] agent := by
  have observed : (run (step samplePlatform) (boot () ∅ none none) unrecordedRun).any (fun agent =>
      agent.connected && agent.activeCommands.entries.isEmpty &&
        (agent.commandLedger.lookup 0).isNone && agent.recentCommands.maxEntries == 512 &&
        agent.recentCommands.order == [0] && agent.log == [.started 0]) = true := by
    decide +kernel
  obtain ⟨agent, runs, facts⟩ := (Option.any_eq_true _ _).mp observed
  simp only [Bool.and_eq_true, List.isEmpty_iff, Option.isNone_iff_eq_none, beq_iff_eq] at facts
  obtain ⟨⟨⟨⟨⟨connected, inactive⟩, unrecorded⟩, capped⟩, order⟩, log⟩ := facts
  refine ⟨agent, runs, connected, inactive, unrecorded, capped, ?_, ?_, ?_, ?_⟩
  · rw [order]
    decide
  · exact fun _ => ⟨[], order⟩
  · simp [log]
  · simp [log]

/-- Job 0 is evicted from the recent cache only, and is started a second time. -/
theorem unrecorded_job_runs_twice :
    ∃ agent, run (step samplePlatform) (boot () ∅ none none) crowdingRun = some agent ∧
      ∃ newer older, agent.log = newer ++ .started 0 :: older ∧
        ¬ (.evictedFromRecent 0 ∈ newer ∧ .evictedFromLedger 0 ∈ newer) ∧ .started 0 ∈ newer := by
  obtain ⟨ended, endedRuns, crowded⟩ := crowded_unrecordedRun
  obtain ⟨full, fullRuns, crowded⟩ := Crowded.unknownFrames otherJobs [] ended crowded (by
    rw [List.nil_append]
    exact otherJobs_distinct)
  rw [List.nil_append] at crowded
  obtain ⟨agent, stepped, log⟩ := crowded.startsAgain (by
    rw [otherJobs, List.length_map, List.length_range])
  refine ⟨agent, ?_, ?_⟩
  · rw [crowdingRun, run_append, endedRuns, Option.bind_some, run_append, fullRuns,
      Option.bind_some, run_cons, stepped]
    rfl
  · obtain ⟨between, older, split⟩ := List.append_of_mem crowded.started
    refine ⟨.started 0 :: between, older, by rw [log, split, List.cons_append], ?_, List.mem_cons_self⟩
    rintro ⟨_, evicted⟩
    refine crowded.ledgerKept 0 ?_
    rw [split]
    exact List.mem_append_left _ (by simpa using evicted)

end Vpsman.Agent

import Vpsman.Transfer.Session

/-! # What a transfer request can do

The effect of each request on the files of its session and the answer that goes with it, for
every way in which operations fail and the request is dropped. Without faults a request that
is not answered has written nothing.
-/

namespace Vpsman.Transfer

open Vpsman.Lib

attribute [local simp] Call.perform

/-! ## Rules for handlers -/

section Rules

variable {α β : Type} {faults : Bool} {world : World}

/-- The outcome holds with whatever the handler answers, and without an answer wherever it
    is dropped. -/
def Safe (faults : Bool) (outcome : Option (Except String α) → World → Prop) (handler : Handler α)
    (world : World) : Prop :=
  Program.Keeps (environment faults) (fun _ => outcome none) (fun result _ => outcome (some result))
    handler.run () world

/-- The handler may fail or be dropped here. -/
def Stops (outcome : Option (Except String α) → World → Prop) (world : World) : Prop :=
  outcome none world ∧ ∀ error, outcome (some (.error error)) world

variable {outcome : Option (Except String α) → World → Prop}

theorem Safe.bind {handler : Handler β}
    (safe : Safe faults (fun result world =>
      match result with
      | some (.ok value) => Safe faults outcome (next value) world
      | some (.error error) => outcome (some (.error error)) world
      | none => outcome none world) handler world) :
    Safe faults outcome (handler >>= next) world := by
  refine Program.Keeps.bindExcept (Program.Keeps.imp safe fun result _ _ after => ?_)
  cases result with
  | ok | error => exact after

variable {call : Call}

theorem environment_perform (performed : answered (call.perform world).1 (call.perform world).2)
    (canceled : call.cancelable = true → ∀ error, answered (.error error) world)
    (stopped : faults = true → ∀ progress, dropped (call.reached world progress) ∧
      ∀ error, answered (.error error) (call.reached world progress)) :
    ((environment faults).perform call choice world).All answered dropped crashed := by
  cases choice with
  | succeed => exact performed
  | cancel =>
    cases looks : call.cancelable with
    | false => simpa [environment, looks, Outcome.All] using performed
    | true => simpa [environment, Choice.isFault, looks, Outcome.All] using canceled looks _
  | fail progress error | drop progress =>
    cases faults with
    | false => exact performed
    | true => first | exact (stopped rfl progress).2 error | exact (stopped rfl progress).1

theorem Safe.operation {outcome : Option call.Answer → World → Prop}
    (performed : call.perform world = (answer, after)) (deaf : call.cancelable = false)
    (waiting : outcome none world)
    (stopped : faults = true → ∀ progress, Stops outcome (call.reached world progress))
    (done : outcome (some answer) after) : Safe faults outcome (invoke call) world := by
  refine ⟨waiting, fun choice => environment_perform ?_ (fun looks => ?_) stopped⟩
  · rw [performed]
    exact done
  · rw [deaf] at looks
    cases looks

/-- Any other operation than a write that is stopped has had no effect or all of it. -/
theorem Safe.effect {outcome : Option call.Answer → World → Prop}
    (performed : call.perform world = (answer, after)) (deaf : call.cancelable = false)
    (whole : ∀ progress, call.reached world progress =
      if progress = 0 then world else (call.perform world).2) (waiting : outcome none world)
    (stopped : faults = true → Stops outcome world ∧ Stops outcome after)
    (done : outcome (some answer) after) : Safe faults outcome (invoke call) world := by
  refine .operation performed deaf waiting (fun faulty progress => ?_) done
  rw [whole, performed]
  split
  · exact (stopped faulty).1
  · exact (stopped faulty).2

def Call.readsOnly : Call → Bool
  | .checkCanceled _ | .metadataDirectory | .throttle _ | .readMetadata | .statDestination _
  | .tempExists _ | .tempLength _ _ | .readTemp _ _ _ _ | .readAll _ _ => true
  | _ => false

theorem Call.perform_readsOnly (reads : call.readsOnly = true) :
    (call.perform world).2 = world := by
  cases call with
  | checkCanceled | metadataDirectory | throttle | readMetadata | statDestination | tempExists
  | tempLength | readTemp | readAll => rfl
  | _ => cases reads

theorem Call.reached_readsOnly (reads : call.readsOnly = true) :
    call.reached world progress = world := by
  cases call with
  | checkCanceled | metadataDirectory | throttle | readMetadata | statDestination | tempExists
  | tempLength | readTemp | readAll => exact ite_self _
  | _ => cases reads

theorem Safe.query (call : Call) {outcome : Option call.Answer → World → Prop}
    (reads : call.readsOnly = true) (now : Stops outcome world)
    (done : ∀ value, (call.perform world).1 = .ok value → outcome (some (.ok value)) world) :
    Safe faults outcome (invoke call) world := by
  refine ⟨now.1, fun choice => environment_perform ?_ (fun _ => now.2) fun _ progress => ?_⟩
  · rw [Call.perform_readsOnly reads]
    cases answer : (call.perform world).1 with
    | ok value => exact done value answer
    | error error => exact now.2 error
  · rw [Call.reached_readsOnly reads]
    exact now

theorem Safe.check (now : Stops outcome world)
    (done : ∀ value, result = .ok value → outcome (some (.ok value)) world) :
    Safe faults outcome (check result) world := by
  cases result with
  | ok value => exact done value rfl
  | error error => exact now.2 error

theorem Safe.pure (done : outcome (some (.ok value)) world) :
    Safe faults outcome (pure value) world :=
  done

theorem Safe.validated (now : Stops outcome world)
    (done : ∀ value, result = .ok value → outcome (some (.ok value)) world) :
    Safe faults outcome (validated result) world := by
  cases result with
  | ok value => exact done value rfl
  | error => exact now.2 _

theorem Safe.attemptQuery {outcome : Option (Except String call.Answer) → World → Prop}
    (reads : call.readsOnly = true) (now : Stops outcome world)
    (done : ∀ value, (call.perform world).1 = .ok value → outcome (some (.ok (.ok value))) world)
    (missed : ∀ error, (faults = false → call.cancelable = false →
      (call.perform world).1 = .error error) → outcome (some (.ok (.error error))) world) :
    Safe faults outcome (attempt call) world := by
  refine ⟨now.1, fun choice => environment_perform ?_ (fun looks error => missed error ?_)
    (fun faulty progress => ?_)⟩
  · rw [Call.perform_readsOnly reads]
    cases answer : (call.perform world).1 with
    | ok value => exact done value answer
    | error error => exact missed error fun _ _ => answer
  · intro _ deaf
    rw [looks] at deaf
    cases deaf
  · rw [Call.reached_readsOnly reads]
    refine ⟨now.1, fun error => missed error fun sound => ?_⟩
    rw [faulty] at sound
    cases sound

theorem Safe.ignore {outcome : Option (Except String Unit) → World → Prop}
    (now : outcome none world)
    (reached : faults = true → ∀ progress, outcome none (call.reached world progress) ∧
      outcome (some (.ok ())) (call.reached world progress))
    (untouched : call.cancelable = false) (done : outcome (some (.ok ())) (call.perform world).2) :
    Safe faults outcome (discard (attempt call)) world := by
  refine ⟨now, fun choice => environment_perform done (fun looks => ?_)
    (fun faulty progress => ⟨(reached faulty progress).1, fun _ => (reached faulty progress).2⟩)⟩
  rw [untouched] at looks
  cases looks

end Rules

/-! ## Steps that the requests share -/

section Steps

variable {faults : Bool} {world : World}

theorem Safe.canceled (now : Stops outcome world) (done : outcome (some (.ok ())) world) :
    Safe faults outcome (invoke (.checkCanceled operationType)) world :=
  Safe.query (.checkCanceled operationType) rfl now fun _ _ => done

theorem Safe.paths
    (now : Stops outcome world) (done : outcome (some (.ok (pathTarget path))) world) :
    Safe faults outcome (transferSessionPaths path) world := by
  refine .bind (.validated now fun _ _ => ?_)
  refine .bind (.check now fun _ _ => ?_)
  refine .bind (.check now fun _ _ => ?_)
  refine .bind (.query .metadataDirectory rfl now fun _ _ => ?_)
  exact .pure done

theorem Safe.metadata (now : Stops outcome world)
    (done : ∀ metadata, world.metadata = some metadata → outcome (some (.ok metadata)) world) :
    Safe faults outcome (readMetadataBySession sessionId) world := by
  refine .bind (.check now fun _ _ => ?_)
  refine .bind (.query .metadataDirectory rfl now fun _ _ => ?_)
  refine .query .readMetadata rfl now fun metadata found => done metadata ?_
  cases known : world.metadata <;> simp_all

theorem Safe.currentOffset (now : Stops outcome world)
    (done : ∀ file, openTemp world target expected = .ok file →
      file.content.length ≤ declaredSize → outcome (some (.ok file.content.length)) world) :
    Safe faults outcome (currentTransferOffset target declaredSize expected) world := by
  refine .bind (.query (.tempLength target expected) rfl now fun length measured => ?_)
  refine .bind (.check now fun _ small => ?_)
  obtain ⟨file, opened, rfl⟩ := map_ok.mp measured
  exact .pure (done file opened (demand_ok.mp small))

end Steps

/-! ## Outcomes -/

/-- A chunk that passed the checks, with the open temporary file. -/
structure Fits (codec : Codec) (world : World) (request : ChunkRequest)
    (metadata : FileTransferSessionMetadata) (file : RegularFile) (decoded : Bytes) : Prop where
  known : world.metadata = some metadata
  decodes : decodeFileTransferChunk codec request.chunk metadata.chunkSizeBytes = .ok decoded
  declared : satAdd request.offset decoded.length ≤ metadata.sizeBytes
  opened : openTemp world (pathTarget metadata.path) metadata.tempIdentity = .ok file
  within : file.content.length ≤ metadata.sizeBytes

/-- A temporary file that may become the destination. -/
structure Complete (codec : Codec) (world : World) (metadata : FileTransferSessionMetadata)
    (file : RegularFile) : Prop where
  known : world.metadata = some metadata
  opened : openTemp world (pathTarget metadata.path) metadata.tempIdentity = .ok file
  length : file.content.length = metadata.sizeBytes
  hash : codec.payloadHash file.content = metadata.sha256Hex

def startedStatus (sessionId : Uuid) (request : StartRequest) : Status :=
  startStatus sessionId request 0
    (.started request.chunkSizeBytes request.rateLimitKbps request.existingPolicy)

def committedStatus (sessionId : Uuid) (metadata : FileTransferSessionMetadata) : Status :=
  ⟨"file_transfer_commit", sessionId, metadata.path, metadata.sizeBytes, some metadata.sizeBytes,
    .committed metadata.sha256Hex metadata.mode metadata.existingPolicy⟩

def abortedStatus (sessionId : Uuid) (metadata : FileTransferSessionMetadata) : Status :=
  ⟨"file_transfer_abort", sessionId, metadata.path, 0, some metadata.sizeBytes, .aborted⟩

/-- An operation failed, or the request was dropped before its end. -/
def Disturbed (faults : Bool) (reply : Reply) : Prop :=
  faults = true ∧ reply.status? = none ∨ reply = none

theorem Disturbed.silent (disturbed : Disturbed faults reply) : reply.status? = none := by
  rcases disturbed with ⟨-, silent⟩ | rfl
  · exact silent
  · rfl

/-- The request is answered with this status, unless it was disturbed. -/
def Answered (faults : Bool) (reply : Reply) (status : Status) : Prop :=
  reply = some (.ok status) ∨ Disturbed faults reply

/-- Remove the metadata, or leave it. -/
def World.withoutMetadata (world : World) (removed : Bool) : World :=
  if removed then { world with metadata := none } else world

/-- The answers to a request and the files after it. -/
inductive Handled (codec : Codec) (sessionId : Uuid) (faults : Bool) (world : World) :
    Request → Reply → World → Prop
  | refused {request : Request} {reply : Reply} (silent : reply.status? = none) :
      Handled codec sessionId faults world request reply world
  | resumed {request : StartRequest} {metadata : FileTransferSessionMetadata} {file : RegularFile}
      (known : world.metadata = some metadata) (same : metadata.Matches request)
      (opened : openTemp world (pathTarget request.path) metadata.tempIdentity = .ok file)
      (within : file.content.length ≤ request.sizeBytes) :
      Handled codec sessionId faults world (.start request)
        (some (.ok (startStatus sessionId request file.content.length
          (.resumed metadata.chunkSizeBytes metadata.rateLimitKbps metadata.existingPolicy)))) world
  | skipped {request : StartRequest} {node : Node}
      (absent : world.temp (pathTarget request.path) = none)
      (taken : world.destination (pathTarget request.path) = some node)
      (policy : request.existingPolicy = .skip) :
      Handled codec sessionId faults world (.start request)
        (some (.ok (startStatus sessionId request request.sizeBytes (.skipped .skip)))) world
  | created {request : StartRequest} {reply : Reply} (disturbed : Disturbed faults reply)
      (absent : world.temp (pathTarget request.path) = none) :
      Handled codec sessionId faults world (.start request) reply
        (world.createTemp (pathTarget request.path))
  | started {request : StartRequest} {reply : Reply}
      (small : request.sizeBytes ≤ maxResumableFilePushBytes) (fresh : world.metadata = none)
      (absent : world.temp (pathTarget request.path) = none)
      (answered : Answered faults reply (startedStatus sessionId request)) :
      Handled codec sessionId faults world (.start request) reply
        { world.createTemp (pathTarget request.path) with
          metadata := some (request.metadata world.nextIdentity) }
  | cut {request : ChunkRequest} {metadata : FileTransferSessionMetadata} {file : RegularFile}
      {decoded : Bytes} {reply : Reply} (count : Nat) (disturbed : Disturbed faults reply)
      (fits : Fits codec world request metadata file decoded)
      (next : request.offset = file.content.length) :
      Handled codec sessionId faults world (.chunk request) reply
        (world.writeTemp (pathTarget metadata.path) request.offset (decoded.take count))
  | accepted {request : ChunkRequest} {metadata : FileTransferSessionMetadata} {file : RegularFile}
      {decoded : Bytes} (fits : Fits codec world request metadata file decoded)
      (next : request.offset = file.content.length) :
      Handled codec sessionId faults world (.chunk request)
        (some (.ok (chunkStatus sessionId metadata request.offset decoded
          (request.offset + decoded.length) false)))
        (world.writeTemp (pathTarget metadata.path) request.offset decoded)
  | duplicate {request : ChunkRequest} {metadata : FileTransferSessionMetadata} {file : RegularFile}
      {decoded : Bytes} (fits : Fits codec world request metadata file decoded)
      (covered : request.offset + decoded.length ≤ file.content.length)
      (equal : (file.content.drop request.offset).take decoded.length = decoded) :
      Handled codec sessionId faults world (.chunk request)
        (some (.ok (chunkStatus sessionId metadata request.offset decoded file.content.length true)))
        world
  | chmodded {resumeTokenHash : Text} {metadata : FileTransferSessionMetadata} {reply : Reply}
      (silent : reply.status? = none) :
      Handled codec sessionId faults world (.commit resumeTokenHash) reply
        (world.chmodTemp (pathTarget metadata.path) metadata.mode)
  | committed {resumeTokenHash : Text} {metadata : FileTransferSessionMetadata} {file : RegularFile}
      {reply : Reply} (removed : Bool) (complete : Complete codec world metadata file)
      (answered : Answered faults reply (committedStatus sessionId metadata)) :
      Handled codec sessionId faults world (.commit resumeTokenHash) reply
        (((world.chmodTemp (pathTarget metadata.path) metadata.mode).moveTemp
          (pathTarget metadata.path) { file with mode := metadata.mode }).withoutMetadata removed)
  | aborted {resumeTokenHash : Text} {metadata : FileTransferSessionMetadata} {reply : Reply}
      (tempRemoved removed : Bool) (known : world.metadata = some metadata)
      (answered : Answered faults reply (abortedStatus sessionId metadata))
      (gone : faults = false → tempRemoved = true ∨ world.temp (pathTarget metadata.path) = none) :
      Handled codec sessionId faults world (.abort resumeTokenHash) reply
        ((if tempRemoved then world.setTemp (pathTarget metadata.path) none
          else world).withoutMetadata removed)

variable {codec : Codec} {sessionId : Uuid} {faults : Bool} {world : World}

/-- Any request may end without a status while nothing has changed. -/
theorem Handled.stops : Stops (Handled codec sessionId faults world request) world :=
  ⟨.refused rfl, fun _ => .refused rfl⟩

open Handled (stops)

theorem createSession_handled (codec : Codec) (sessionId : Uuid)
    (small : request.sizeBytes ≤ maxResumableFilePushBytes)
    (absent : world.temp (pathTarget request.path) = none)
    (unknown : faults = false → world.metadata = none) :
    Safe faults (Handled codec sessionId faults world (.start request))
      (createSession sessionId request (pathTarget request.path)) world := by
  have made : (Call.createTemp (pathTarget request.path)).perform world =
      (.ok world.nextIdentity, world.createTemp (pathTarget request.path)) := by
    simp [absent]
  have alone : faults = true → Stops (Handled codec sessionId faults world (.start request))
      (world.createTemp (pathTarget request.path)) := fun faulty =>
    ⟨.created (.inr rfl) absent, fun _ => .created (.inl ⟨faulty, rfl⟩) absent⟩
  refine .bind (.canceled stops ?_)
  refine .bind (.effect made rfl (fun _ => rfl) (.refused rfl)
    (fun faulty => ⟨stops, alone faulty⟩) ?_)
  cases known : world.metadata with
  | some metadata =>
    -- The metadata could not be read, but is there.
    have refused : (Call.writeMetadata (request.metadata world.nextIdentity)).perform
        (world.createTemp (pathTarget request.path)) =
          (.error "failed to publish", world.createTemp (pathTarget request.path)) := by
      simp [World.createTemp, World.setTemp, known]
    have faulty : faults = true := by
      by_contra sound
      rw [unknown (Bool.eq_false_iff.mpr sound)] at known
      cases known
    exact .bind (.effect refused rfl (fun _ => rfl) (alone faulty).1
      (fun _ => ⟨alone faulty, alone faulty⟩) ((alone faulty).2 _))
  | none =>
    have published : (Call.writeMetadata (request.metadata world.nextIdentity)).perform
        (world.createTemp (pathTarget request.path)) =
          (.ok (), { world.createTemp (pathTarget request.path) with
            metadata := some (request.metadata world.nextIdentity) }) := by
      simp [World.createTemp, World.setTemp, known]
    refine .bind (.effect published rfl (fun _ => rfl) (.created (.inr rfl) absent)
      (fun faulty => ⟨alone faulty, .started small known absent (.inr (.inr rfl)),
        fun _ => .started small known absent (.inr (.inl ⟨faulty, rfl⟩))⟩) ?_)
    exact .pure (.started small known absent (.inl rfl))

theorem executeFileTransferStart_handled :
    Safe faults (Handled codec sessionId faults world (.start request))
      (executeFileTransferStart sessionId request) world := by
  refine .bind (.canceled stops ?_)
  refine .bind (.validated stops fun _ valid => ?_)
  have small := sizeBytes_le_of_valid valid
  refine .bind (.paths stops ?_)
  refine .bind (.attemptQuery rfl stops (fun metadata read => ?_) fun _ unread => ?_)
  · have known : world.metadata = some metadata := by
      cases found : world.metadata <;> simp_all
    refine .bind (.check stops fun _ same => ?_)
    refine .bind (.currentOffset stops fun file opened within => ?_)
    exact .pure (.resumed known (demand_ok.mp same) opened within)
  · have unknown : faults = false → world.metadata = none := by
      intro sound
      have failed := unread sound rfl
      cases found : world.metadata <;> simp_all
    refine .bind (.query (.tempExists _) rfl stops fun present answered => ?_)
    refine .bind (.check stops fun _ missing => ?_)
    have absent : world.temp (pathTarget request.path) = none := by
      cases answered
      simpa using demand_ok.mp missing
    have creates := createSession_handled codec sessionId small absent unknown
    refine .bind (.attemptQuery rfl stops (fun node found => ?_) fun _ _ => ?_)
    · refine .bind (.check stops fun _ _ => ?_)
      have taken : world.destination (pathTarget request.path) = some node := by
        cases destination : world.destination (pathTarget request.path) <;> simp_all
      show Safe _ _ (ite _ _ _) _
      split
      next policy =>
        refine .bind (.canceled stops ?_)
        rw [policy]
        exact .pure (.skipped absent taken policy)
      next => exact creates
    · exact creates

variable {outcome : Option (Except String Unit) → World → Prop}

theorem maybeThrottle_safe (waiting : outcome none world) (done : outcome (some (.ok ())) world) :
    Safe faults outcome (maybeThrottleCompleteOnCancel rateLimitKbps byteCount) world := by
  unfold maybeThrottleCompleteOnCancel
  dsimp only
  split
  · refine .ignore waiting (fun _ progress => ?_) rfl done
    rw [Call.reached_readsOnly rfl]
    exact ⟨waiting, done⟩
  · exact .pure done

variable {expected : NodeIdentity} {file : RegularFile} {target : Target}

theorem Call.reached_writeTemp (opened : openTemp world target expected = .ok file) :
    (Call.writeTemp target expected offset data).reached world progress =
      world.writeTemp target offset (data.take progress) := by
  simp [Call.reached, opened]

theorem executeFileTransferChunk_handled :
    Safe faults (Handled codec sessionId faults world (.chunk request))
      (executeFileTransferChunk codec sessionId request) world := by
  refine .bind (.canceled stops ?_)
  refine .bind (.validated stops fun _ _ => ?_)
  refine .bind (.check stops fun _ _ => ?_)
  refine .bind (.metadata stops fun metadata known => ?_)
  refine .bind (.check stops fun _ _ => ?_)
  refine .bind (.paths stops ?_)
  refine .bind (.validated stops fun decoded decodes => ?_)
  refine .bind (.check stops fun _ declared => ?_)
  refine .bind (.currentOffset stops fun file opened within => ?_)
  have fits : Fits codec world request metadata file decoded :=
    ⟨known, decodes, demand_ok.mp declared, opened, within⟩
  show Safe _ _ (ite _ _ (ite _ _ _)) _
  split
  next next =>
    have written : (Call.writeTemp (pathTarget metadata.path) metadata.tempIdentity request.offset
        decoded).perform world =
          (.ok (), world.writeTemp (pathTarget metadata.path) request.offset decoded) := by
      simp [opened]
    refine .bind (.canceled stops ?_)
    refine .bind (.operation written rfl (.refused rfl) (fun faulty progress => ?_) ?_)
    · rw [Call.reached_writeTemp opened]
      exact ⟨.cut progress (.inr rfl) fits next,
        fun _ => .cut progress (.inl ⟨faulty, rfl⟩) fits next⟩
    · refine .bind (maybeThrottle_safe ?_ (.pure (.accepted fits next)))
      have cut : Handled codec sessionId faults world (.chunk request) none
          (world.writeTemp (pathTarget metadata.path) request.offset (decoded.take decoded.length)) :=
        .cut decoded.length (.inr rfl) fits next
      rwa [List.take_length] at cut
  next =>
    split
    next covered =>
      refine .bind (.canceled stops ?_)
      refine .bind (.bind (.query (.readTemp _ _ _ _) rfl stops fun existing read => ?_))
      refine .check stops fun _ same => .pure (.duplicate fits covered.2 ?_)
      rw [demand_ok.mp same] at read
      simpa [opened, Except.bind, covered.2] using read
    next => exact .check stops fun _ impossible => by cases impossible

theorem openTemp_ok :
    openTemp world target expected = .ok file ↔
      world.temp target = some file ∧ file.identity = expected := by
  cases found : world.temp target with
  | none => simp [openTemp, found, bind, Except.bind]
  | some present =>
    by_cases same : present.identity = expected
    · simp [openTemp, bind, Except.bind, demand, pure, Except.pure]
      grind
    · simp [openTemp, bind, Except.bind, demand]
      grind

theorem temp_setTemp (file : Option RegularFile) :
    (world.setTemp target file).temp t = if t = target then file else world.temp t := rfl

theorem openTemp_chmodTemp (opened : openTemp world target expected = .ok file) (mode : Nat) :
    openTemp (world.chmodTemp target mode) target expected = .ok { file with mode := mode } := by
  rw [openTemp_ok] at opened ⊢
  simp [World.chmodTemp, temp_setTemp, opened]

theorem removeMetadata_safe (waiting : ∀ removed, outcome none (world.withoutMetadata removed))
    (done : ∀ removed, outcome (some (.ok ())) (world.withoutMetadata removed)) :
    Safe faults outcome (discard (attempt .removeMetadata)) world := by
  have removes : ∃ removed,
    (Call.removeMetadata.perform world).2 = world.withoutMetadata removed := by
    cases known : world.metadata with
    | none => exact ⟨false, by simp [known, World.withoutMetadata]⟩
    | some => exact ⟨true, by simp [known, World.withoutMetadata]⟩
  obtain ⟨removed, performed⟩ := removes
  refine .ignore (waiting false) (fun _ progress => ?_) rfl ?_
  · simp only [Call.reached, performed]
    split
    · exact ⟨waiting false, done false⟩
    · exact ⟨waiting removed, done removed⟩
  · rw [performed]
    exact done removed

theorem executeFileTransferCommit_handled :
    Safe faults (Handled codec sessionId faults world (.commit resumeTokenHash))
      (executeFileTransferCommit codec sessionId resumeTokenHash) world := by
  refine .bind (.canceled stops ?_)
  refine .bind (.validated stops fun _ _ => ?_)
  refine .bind (.metadata stops fun metadata known => ?_)
  refine .bind (.check stops fun _ _ => ?_)
  refine .bind (.paths stops ?_)
  refine .bind (.currentOffset stops fun file opened _ => ?_)
  refine .bind (.check stops fun _ all => ?_)
  refine .bind (.query (.readAll _ _) rfl stops fun content read => ?_)
  obtain rfl : file.content = content := by simpa [opened, Except.map] using read
  refine .bind (.check stops fun _ same => ?_)
  have complete : Complete codec world metadata file :=
    ⟨known, opened, demand_ok.mp all, demand_ok.mp same⟩
  refine .bind (.canceled stops ?_)
  let chmodded := world.chmodTemp (pathTarget metadata.path) metadata.mode
  have stops : Stops (Handled codec sessionId faults world (.commit resumeTokenHash)) chmodded :=
    ⟨.chmodded rfl, fun _ => .chmodded rfl⟩
  have changed : (Call.chmodTemp (pathTarget metadata.path) metadata.tempIdentity
      metadata.mode).perform world = (.ok (), chmodded) := by
    simp [opened, chmodded]
  refine .bind (.effect changed rfl (fun _ => rfl) (.refused rfl)
    (fun _ => ⟨Handled.stops, stops⟩) ?_)
  refine .bind (.canceled stops ?_)
  have reopened := openTemp_chmodTemp opened metadata.mode
  by_cases free : chmodded.destination (pathTarget metadata.path) = none ∨
      decide (metadata.existingPolicy = .replace) ∧
        chmodded.destination (pathTarget metadata.path) ≠ some .directory
  · have moved : (Call.renameTemp (pathTarget metadata.path) metadata.tempIdentity
        (decide (metadata.existingPolicy = .replace))).perform chmodded =
          (.ok (),
            chmodded.moveTemp (pathTarget metadata.path) { file with mode := metadata.mode }) := by
      simp only [Call.perform, chmodded, reopened]
      exact if_pos free
    have ended : ∀ reply, Answered faults reply (committedStatus sessionId metadata) → ∀ removed,
        Handled codec sessionId faults world (.commit resumeTokenHash) reply
          ((chmodded.moveTemp (pathTarget metadata.path)
            { file with mode := metadata.mode }).withoutMetadata removed) :=
      fun reply answered removed => .committed removed complete answered
    refine .bind (.effect moved rfl (fun _ => rfl) stops.1
      (fun faulty => ⟨stops, ended none (.inr (.inr rfl)) false,
        fun _ => ended _ (.inr (.inl ⟨faulty, rfl⟩)) false⟩) ?_)
    refine .bind (removeMetadata_safe (ended none (.inr (.inr rfl))) fun removed => ?_)
    refine .pure (ended _ (.inl ?_) removed)
    rw [complete.hash, committedStatus]
  · have refused : (Call.renameTemp (pathTarget metadata.path) metadata.tempIdentity
        (decide (metadata.existingPolicy = .replace))).perform chmodded =
          (.error "failed to move file into place", chmodded) := by
      simp only [Call.perform, chmodded, reopened]
      exact if_neg free
    exact .bind (.effect refused rfl (fun _ => rfl) stops.1 (fun _ => ⟨stops, stops⟩) (stops.2 _))

theorem executeFileTransferAbort_handled :
    Safe faults (Handled codec sessionId faults world (.abort resumeTokenHash))
      (executeFileTransferAbort sessionId resumeTokenHash) world := by
  refine .bind (.canceled stops ?_)
  refine .bind (.validated stops fun _ _ => ?_)
  refine .bind (.metadata stops fun metadata known => ?_)
  refine .bind (.check stops fun _ _ => ?_)
  refine .bind (.paths stops ?_)
  -- The files once the temporary file is removed or left.
  have rest : ∀ tempRemoved, (faults = false → tempRemoved = true ∨
      world.temp (pathTarget metadata.path) = none) →
      Safe faults (Handled codec sessionId faults world (.abort resumeTokenHash))
        (do
          discard (attempt .removeMetadata)
          return abortedStatus sessionId metadata)
        (if tempRemoved then world.setTemp (pathTarget metadata.path) none else world) := by
    intro tempRemoved gone
    refine .bind (removeMetadata_safe (fun removed => ?_) fun removed => ?_)
    · exact .aborted tempRemoved removed known (.inr (.inr rfl)) gone
    · exact .pure (.aborted tempRemoved removed known (.inl rfl) gone)
  have removes : ∃ tempRemoved : Bool,
      ((Call.removeTemp (pathTarget metadata.path)).perform world).2 =
        (if tempRemoved then world.setTemp (pathTarget metadata.path) none else world) ∧
      (tempRemoved = true ∨ world.temp (pathTarget metadata.path) = none) := by
    cases found : world.temp (pathTarget metadata.path) with
    | none => exact ⟨false, by simp [found], .inr rfl⟩
    | some => exact ⟨true, by simp [found], .inl rfl⟩
  obtain ⟨tempRemoved, performed, gone⟩ := removes
  have removedNow : Handled codec sessionId faults world (.abort resumeTokenHash) none
      (if tempRemoved then world.setTemp (pathTarget metadata.path) none else world) :=
    .aborted tempRemoved false known (.inr (.inr rfl)) fun _ => gone
  refine .bind (.ignore (.refused rfl) (fun faulty progress => ?_) rfl ?_)
  · have unsound : faults = false → false = true ∨ world.temp (pathTarget metadata.path) = none := by
      intro sound
      rw [faulty] at sound
      cases sound
    simp only [Call.reached, performed]
    split
    · exact ⟨.refused rfl, rest false unsound⟩
    · exact ⟨removedNow, rest tempRemoved fun _ => gone⟩
  · rw [performed]
    exact rest tempRemoved fun _ => gone

theorem environment_perform_eq (sound : choice.isFault = false) :
    (environment false).perform call choice = (environment true).perform call choice := by
  simp [environment, sound]

theorem handle_handled (codec : Codec) (sessionId : Uuid) (world : World) (request : Request)
    (choices : List Choice) :
    Handled codec sessionId (choices.any Choice.isFault) world request
      (handle codec sessionId world request choices).1
      (handle codec sessionId world request choices).2 := by
  have safe : Safe (choices.any Choice.isFault)
      (Handled codec sessionId (choices.any Choice.isFault) world request)
      (execute codec sessionId request) world := by
    cases request with
    | start => exact executeFileTransferStart_handled
    | chunk => exact executeFileTransferChunk_handled
    | commit => exact executeFileTransferCommit_handled
    | abort => exact executeFileTransferAbort_handled
  have same : (execute codec sessionId request).run.exec (environment (choices.any Choice.isFault))
      choices () world =
        (execute codec sessionId request).run.exec (environment true) choices () world := by
    cases faulty : choices.any Choice.isFault with
    | true => rfl
    | false =>
      have alike : ∀ call, ∀ choice ∈ choices,
          (environment false).perform call choice = (environment true).perform call choice :=
        fun call choice member => environment_perform_eq
          (Bool.eq_false_iff.mpr (List.any_eq_false.mp faulty choice member))
      refine Program.exec_congr ?_ alike _ _
      rfl
  have outcome := Program.Keeps.exec_cases safe choices
  rw [same] at outcome
  unfold handle
  generalize (execute codec sessionId request).run.exec (environment true) choices () world = after
    at outcome ⊢
  obtain ⟨reply, _, world'⟩ := after
  cases reply with
  | none | some => exact outcome

end Vpsman.Transfer

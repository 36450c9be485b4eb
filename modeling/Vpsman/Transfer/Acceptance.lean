import Vpsman.Transfer.Contents

/-! # Accepted transfers can be committed

A session that was started can be resumed at any time, whatever chunks came in since. When
they have delivered the declared bytes, a commit that nothing disturbs comes through its
checks, unless the digest was declared with white space around it.
-/

namespace Vpsman.Transfer

open Vpsman.Lib

/-- What a handler answers if nothing disturbs it, and the files it leaves. -/
def undisturbedly {α : Type} : Program Unit Call.Answer α → World → α × World
  | .done result, world => (result, world)
  | .read next, world => undisturbedly (next ()) world
  | .assign _ next, world => undisturbedly next world
  | .await call next, world =>
    undisturbedly (next (call.perform world).1) (call.perform world).2

/-- Chunks are delivered, and others do what they do. -/
def Event.delivers : Event → Bool
  | .request (.chunk _) _ | .others _ _ => true
  | .request _ _ => false

/-- What a commit answers once the declared bytes are in the file. -/
def commitResult (sessionId : Uuid) (request : StartRequest) (world : World) (file : RegularFile) :
    Except String Status :=
  if trim request.sha256Hex = request.sha256Hex then
    if world.destination (pathTarget request.path) = none ∨ request.existingPolicy = .replace ∧
        world.destination (pathTarget request.path) ≠ some .directory then
      .ok (committedStatus sessionId (request.metadata file.identity))
    else .error "failed to move file into place"
  else .error "file transfer final hash mismatch"

section Accepted

variable {codec : Codec} {sessionId : Uuid} {request : StartRequest} {world : World}
  {file : RegularFile}

theorem exec_undisturbed {α : Type} (program : Program Unit Call.Answer α) (world : World) :
    ∃ count, ∀ more, program.exec (environment true) (List.replicate count .succeed ++ more) ()
      world = (some (undisturbedly program world).1, (), (undisturbedly program world).2) := by
  induction program generalizing world with
  | done => exact ⟨0, fun _ => rfl⟩
  | read _ ih => exact ih () world
  | assign _ _ ih => exact ih world
  | await call _ ih =>
    obtain ⟨count, runs⟩ := ih (call.perform world).1 (call.perform world).2
    exact ⟨count + 1, runs⟩

theorem handle_undisturbed (codec : Codec) (sessionId : Uuid) (world : World) (request : Request) :
    ∃ count, ∀ more, handle codec sessionId world request (List.replicate count .succeed ++ more) =
        (undisturbedly (execute codec sessionId request).run world).map some id := by
  obtain ⟨count, runs⟩ := exec_undisturbed (execute codec sessionId request).run world
  exact ⟨count, fun more => by rw [handle, runs]; rfl⟩

@[simp] theorem undisturbedly_bind {α β : Type} (program : Program Unit Call.Answer α)
    (next : α → Program Unit Call.Answer β) :
    undisturbedly (program >>= next) world =
      undisturbedly (next (undisturbedly program world).1) (undisturbedly program world).2 := by
  change undisturbedly (program.bind next) world = _
  induction program generalizing world with
  | done => rfl
  | read _ ih => exact ih ()
  | assign _ _ ih => exact ih
  | await _ _ ih => exact ih _

@[simp] theorem undisturbedly_pure {α : Type} (result : α) :
    undisturbedly (pure result) world = (result, world) := rfl

attribute [local simp] undisturbedly invoke check validated Call.perform demand Except.mapError
  ExceptT.run_bind

/-- The request passes the checks that are made before any file is touched. -/
structure Admissible (sessionId : Uuid) (request : StartRequest) : Prop where
  valid : validateFileTransferSession sessionId request = .ok ()
  named : request.path ≠ ['/']
  inside : pathTarget request.path ≠ []

/-- The session of a start request, with the file that was delivered so far. -/
structure Serves (sessionId : Uuid) (request : StartRequest) (world : World) (file : RegularFile) :
    Prop where
  admissible : Admissible sessionId request
  known : world.metadata = some (request.metadata file.identity)
  holds : world.temp (pathTarget request.path) = some file
  within : file.content.length ≤ request.sizeBytes

theorem Admissible.paths (admissible : Admissible sessionId request) :
    undisturbedly (transferSessionPaths request.path).run world =
      (.ok (pathTarget request.path), world) := by
  obtain ⟨valid, named, inside⟩ := admissible
  simp only [validateFileTransferSession, bind_ok] at valid
  obtain ⟨_, -, _, path, -⟩ := valid
  simp [transferSessionPaths, path, named, inside]

theorem Serves.opened (serves : Serves sessionId request world file) :
    openTemp world (pathTarget request.path) file.identity = .ok file :=
  openTemp_ok.mpr ⟨serves.holds, rfl⟩

theorem Serves.offset (serves : Serves sessionId request world file) :
    undisturbedly (currentTransferOffset (pathTarget request.path) request.sizeBytes
      file.identity).run world = (.ok file.content.length, world) := by
  simp [currentTransferOffset, serves.opened, serves.within, Except.map]

theorem Serves.resumes (serves : Serves sessionId request world file) :
    undisturbedly (executeFileTransferStart sessionId request).run world =
      (.ok (startStatus sessionId request file.content.length (.resumed request.chunkSizeBytes
        request.rateLimitKbps request.existingPolicy)), world) := by
  have offset := serves.offset
  simp [executeFileTransferStart, attempt, serves.admissible.valid,
    serves.admissible.paths, serves.known, ensureMetadataMatches, FileTransferSessionMetadata.Matches,
    StartRequest.metadata, offset]

theorem Serves.commits (serves : Serves sessionId request world file)
    (whole : file.content.length = request.sizeBytes)
    (digest : normalizeSha256Hex request.sha256Hex = .ok (codec.payloadHash file.content)) :
    (undisturbedly (executeFileTransferCommit codec sessionId request.resumeTokenHash).run world).1 =
      commitResult sessionId request world file := by
  have offset := serves.offset
  have opened := serves.opened
  have valid := serves.admissible.valid
  simp only [validateFileTransferSession, bind_ok, demand_ok] at valid
  obtain ⟨_, session, _, -, _, -, _, -, _, -, _, -, _, -, token⟩ := valid
  have known : sessionId ≠ 0#128 := session
  have sound : validateFileTransferSessionToken sessionId request.resumeTokenHash = .ok () :=
    bind_ok.mpr ⟨(), demand_ok.mpr session, token⟩
  have hash : codec.payloadHash file.content = asciiLower (trim request.sha256Hex) := by
    simp only [normalizeSha256Hex] at digest
    split at digest
    · cases digest
    · exact (Except.ok.inj digest).symm
  have placed : ∀ mode, (world.chmodTemp (pathTarget request.path) mode).destination =
      world.destination := fun _ => rfl
  simp [executeFileTransferCommit, readMetadataBySession, sound, known, serves.admissible.paths,
    serves.known, ensureResumeToken, StartRequest.metadata, offset, opened, hash, whole, Except.map,
    commitResult]
  by_cases plain : trim request.sha256Hex = request.sha256Hex
  · simp only [plain, ↓reduceIte, undisturbedly_bind, undisturbedly, Call.perform, opened,
      openTemp_chmodTemp opened, placed, decide_eq_true_eq, ne_eq]
    by_cases free : world.destination (pathTarget request.path) = none ∨
        request.existingPolicy = .replace ∧ ¬world.destination (pathTarget request.path) = some .directory
    · rw [if_pos free, if_pos free]
      rfl
    · rw [if_neg free, if_neg free]
      rfl
  · simp [plain, mt asciiLower_trim_inj plain]

theorem admissible_of_status
    (answered : (handle codec sessionId world (.start request) choices).1 = some (.ok status)) :
    Admissible sessionId request := by
  by_contra barred
  have safe : Safe true (fun reply _ => Reply.status? reply = none)
      (executeFileTransferStart sessionId request) world := by
    refine .bind (.canceled ⟨rfl, fun _ => rfl⟩ ?_)
    refine .bind (.validated ⟨rfl, fun _ => rfl⟩ fun _ valid => ?_)
    refine .bind (.bind (.validated ⟨rfl, fun _ => rfl⟩ fun _ _ => ?_))
    refine .bind (.check ⟨rfl, fun _ => rfl⟩ fun _ named => ?_)
    refine .bind (.check ⟨rfl, fun _ => rfl⟩ fun _ inside => ?_)
    exact absurd ⟨valid, demand_ok.mp named, demand_ok.mp inside⟩ barred
  have silent := Program.Keeps.exec_cases safe choices
  simp only [handle, execute] at answered
  simp only [answered] at silent
  cases silent

theorem serves_of_started (fresh : (handle codec sessionId world (.start request) choices).1 =
      some (.ok (startedStatus sessionId request))) :
    ∃ file, Serves sessionId request (handle codec sessionId world (.start request) choices).2 file := by
  have admissible := admissible_of_status fresh
  have handled := handle_handled codec sessionId world (.start request) choices
  generalize handle codec sessionId world (.start request) choices = result at fresh handled ⊢
  obtain ⟨reply, after⟩ := result
  cases handled with
  | refused silent => rw [fresh] at silent; cases silent
  | created disturbed => rw [fresh] at disturbed; cases disturbed.silent
  | resumed | skipped => exact absurd fresh (by simp [startedStatus, startStatus])
  | started =>
    exact ⟨⟨world.nextIdentity, [], _⟩, admissible, rfl, if_pos rfl, Nat.zero_le _⟩

theorem Serves.grow (serves : Serves sessionId request world file)
    (room : file.content.length + data.length ≤ request.sizeBytes) :
    Serves sessionId request (world.writeTemp (pathTarget request.path) file.content.length data)
      { file with content := file.content ++ data } := by
  refine ⟨serves.admissible, serves.known, ?_, by simpa using room⟩
  simp [World.writeTemp, temp_setTemp, serves.holds, writeAt_end]

theorem Serves.step (serves : Serves sessionId request world file) (delivers : event.delivers) :
    ∃ file, Serves sessionId request (step codec sessionId world event) file := by
  cases event with
  | others =>
    exact ⟨file, serves.admissible, serves.known, serves.holds, serves.within⟩
  | request asked choices =>
    cases asked with
    | start | commit | abort => cases delivers
    | chunk chunk =>
      have small := sizeBytes_le_of_valid serves.admissible.valid
      have room : ∀ {metadata opened decoded}, Fits codec world chunk metadata opened decoded →
          metadata = request.metadata file.identity ∧ opened = file ∧
            chunk.offset + decoded.length ≤ request.sizeBytes := by
        intro metadata opened decoded fits
        cases fits.known.symm.trans serves.known
        cases (openTemp_ok.mp fits.opened).1.symm.trans serves.holds
        exact ⟨rfl, rfl, fits.end_le small⟩
      have handled := handle_handled codec sessionId world (.chunk chunk) choices
      simp only [Transfer.step]
      generalize handle codec sessionId world (.chunk chunk) choices = result at handled ⊢
      obtain ⟨reply, after⟩ := result
      cases handled with
      | refused | duplicate => exact ⟨file, serves⟩
      | cut _ _ fits next | accepted fits next =>
        obtain ⟨rfl, rfl, bound⟩ := room fits
        rw [next] at bound ⊢
        exact ⟨_, serves.grow (by grind)⟩

theorem Serves.run {events : List Event} (serves : Serves sessionId request world file)
    (delivers : ∀ event ∈ events, event.delivers) :
    ∃ file, Serves sessionId request (events.foldl (Transfer.step codec sessionId) world) file := by
  induction events generalizing world file with
  | nil => exact ⟨file, serves⟩
  | cons _ _ ih =>
    obtain ⟨first, others⟩ := List.forall_mem_cons.mp delivers
    obtain ⟨file, serves⟩ := serves.step first
    exact ih serves others

/-- After a start that created a session and any chunks, a start with the same values resumes
    the session, and once the declared bytes are there a commit comes through its checks,
    unless the digest was declared with white space around it. -/
theorem accepted_transfer_commits_iff (codec : Codec) (sessionId : Uuid) (world : World)
    (request : StartRequest) (choices : List Choice) (events : List Event)
    (fresh : (handle codec sessionId world (.start request) choices).1 =
      some (.ok (startedStatus sessionId request)))
    (delivers : ∀ event ∈ events, event.delivers) :
    let after := events.foldl (step codec sessionId)
      (handle codec sessionId world (.start request) choices).2
    let target := pathTarget request.path
    ∃ file, after.temp target = some file ∧
      (∃ count, ∀ more, handle codec sessionId after (.start request)
        (List.replicate count .succeed ++ more) =
          (some (.ok (startStatus sessionId request file.content.length (.resumed
            request.chunkSizeBytes request.rateLimitKbps request.existingPolicy))), after)) ∧
      (file.content.length = request.sizeBytes →
        normalizeSha256Hex request.sha256Hex = .ok (codec.payloadHash file.content) →
        ∃ count, ∀ more, (handle codec sessionId after (.commit request.resumeTokenHash)
          (List.replicate count .succeed ++ more)).1 =
            some (commitResult sessionId request after file)) := by
  obtain ⟨_, started⟩ := serves_of_started fresh
  obtain ⟨file, serves⟩ := started.run delivers
  refine ⟨file, serves.holds, ?_, fun whole digest => ?_⟩
  · obtain ⟨count, runs⟩ := handle_undisturbed codec sessionId _ (.start request)
    exact ⟨count, fun more => by rw [runs, execute, serves.resumes]; rfl⟩
  · obtain ⟨count, runs⟩ := handle_undisturbed codec sessionId _ (.commit request.resumeTokenHash)
    exact ⟨count, fun more => by rw [runs, Prod.map_fst, execute, serves.commits whole digest]⟩

end Accepted

/-- The chunks of the sample deliver what its start declared. -/
theorem sampleEvents_commit :
    ∃ count, ∀ more, (handle sampleCodec 1 (afterEvents sampleCodec 1 sampleEvents)
      (.commit (List.replicate 64 'b')) (List.replicate count .succeed ++ more)).1 =
        some (.ok (committedStatus 1 ((sampleStart .replace).metadata ⟨0, 0⟩))) := by
  obtain ⟨file, found, -, commits⟩ := accepted_transfer_commits_iff sampleCodec 1 {}
    (sampleStart .replace) undisturbed sampleEvents.tail (by decide) (by decide)
  cases found.symm.trans (show _ = some ⟨⟨0, 0⟩, [119, 120, 121, 122], 0o600⟩ by decide)
  exact commits (by decide) (by decide)

/-- A digest with white space before it passes validation and never equals the one of the file. -/
theorem padded_digest_never_matches :
    let start := { sampleStart .replace with sha256Hex := ' ' :: List.replicate 64 'A' }
    let started := handle sampleCodec 1 {} (.start start) undisturbed
    let world := [sampleChunk 0 ['w', 'x'], sampleChunk 2 ['y', 'z']].foldl
      (fun world request => (handle sampleCodec 1 world request undisturbed).2) started.2
    started.1 = some (.ok (startedStatus 1 start)) ∧
      world.content [['f']] = some [119, 120, 121, 122] ∧ start.sizeBytes = 4 ∧
      normalizeSha256Hex start.sha256Hex = .ok (sampleCodec.payloadHash [119, 120, 121, 122]) ∧
      (handle sampleCodec 1 world (.commit start.resumeTokenHash) undisturbed).1 =
        some (.error "file transfer final hash mismatch") := by
  decide

end Vpsman.Transfer

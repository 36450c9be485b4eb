import Mathlib.Data.List.Forall2
import Vpsman.Transfer.Outcome

/-! # A transfer writes only the declared bytes

Over every history of a session, the temporary file is the chunks that were accepted since
it was created, one after the other. A request that was disturbed may have left the first
part of its chunk. The destination is only ever replaced by what a start request declared.
-/

namespace Vpsman.Transfer

open Vpsman.Lib

/-- A request with its answer; it is faulty if an operation failed or it was dropped. -/
structure Record where
  request : Request
  reply : Reply
  faulty : Bool

/-- The bytes that a request adds to the temporary file of a destination. -/
inductive Contributes (codec : Codec) (target : Target) : Record → Bytes → Prop
  | accepted {request : ChunkRequest} {status : Status} {faulty : Bool} {offset size : Nat}
      {piece : Bytes} (extra : status.extra = .acknowledged offset size false)
      (here : pathTarget status.path = target)
      (data : codec.decodeBase64 request.chunk.dataBase64 = some piece) :
      Contributes codec target ⟨.chunk request, some (.ok status), faulty⟩ piece
  | elsewhere {request : ChunkRequest} {status : Status} {faulty : Bool}
      (there : pathTarget status.path ≠ target) :
      Contributes codec target ⟨.chunk request, some (.ok status), faulty⟩ []
  | duplicate {request : ChunkRequest} {status : Status} {faulty : Bool} {offset size : Nat}
      (extra : status.extra = .acknowledged offset size true) :
      Contributes codec target ⟨.chunk request, some (.ok status), faulty⟩ []
  | unanswered {request : ChunkRequest} {reply : Reply} {faulty : Bool}
      (silent : reply.status? = none) :
      Contributes codec target ⟨.chunk request, reply, faulty⟩ []
  | cut {request : ChunkRequest} {reply : Reply} {faulty : Bool} {decoded piece : Bytes}
      (disturbed : Disturbed faulty reply)
      (data : codec.decodeBase64 request.chunk.dataBase64 = some decoded) (part : piece <+: decoded) :
      Contributes codec target ⟨.chunk request, reply, faulty⟩ piece
  | other {request : Request} {reply : Reply} {faulty : Bool}
      (different : ∀ chunk, request ≠ .chunk chunk) :
      Contributes codec target ⟨request, reply, faulty⟩ []

/-- The requests of a history with their answers. -/
def history (codec : Codec) (sessionId : Uuid) : World → List Event → List Record
  | _, [] => []
  | world, .request request choices :: rest =>
    ⟨request, (handle codec sessionId world request choices).1, choices.any Choice.isFault⟩ ::
      history codec sessionId (handle codec sessionId world request choices).2 rest
  | world, .others destination nextIdentity :: rest =>
    history codec sessionId (step codec sessionId world (.others destination nextIdentity)) rest

theorem StartRequest.matches_metadata (start : StartRequest) (identity : NodeIdentity) :
    (start.metadata identity).Matches start := by
  simp [FileTransferSessionMetadata.Matches, StartRequest.metadata]

def World.content (world : World) (target : Target) : Option Bytes :=
  (world.temp target).map (·.content)

/-- How the content of a temporary file changes with a request. -/
inductive ContentStep (codec : Codec) (target : Target) (record : Record) :
    Option Bytes → Option Bytes → Prop
  | gone {before : Option Bytes} : ContentStep codec target record before none
  | created {request : StartRequest} (starts : record.request = .start request) :
      ContentStep codec target record none (some [])
  | grown {content piece : Bytes} (contributes : Contributes codec target record piece) :
      ContentStep codec target record (some content) (some (content ++ piece))

section Steps

variable {codec : Codec} {sessionId : Uuid} {faults : Bool} {world after : World}
  {request : Request} {reply : Reply} {target : Target} {record : Record}

theorem ContentStep.kept (nothing : Contributes codec target record []) :
    ContentStep codec target record content content := by
  cases content with
  | none => exact .gone
  | some content =>
    have grown : ContentStep codec target record (some content) (some (content ++ [])) :=
      .grown nothing
    rwa [List.append_nil] at grown

theorem writeAt_end : writeAt content.length data content = content ++ data := by
  simp [writeAt]

theorem content_setTemp :
    (world.setTemp target file).content t =
      if t = target then file.map (·.content) else world.content t := by
  unfold World.content
  rw [temp_setTemp]
  split <;> rfl

theorem content_writeTemp (found : world.temp path = some file) :
    (world.writeTemp path file.content.length data).content t =
      if t = path then some (file.content ++ data) else world.content t := by
  rw [World.writeTemp, content_setTemp, found]
  simp [writeAt_end]

theorem content_chmodTemp : (world.chmodTemp path mode).content t = world.content t := by
  rw [World.chmodTemp, content_setTemp]
  split
  next same => simp [World.content, same, Function.comp_def]
  next => rfl

@[simp] theorem content_withoutMetadata :
    (world.withoutMetadata removed).content t = world.content t := by
  cases removed <;> rfl

theorem decodeBase64_of_decodes
    (decodes : decodeFileTransferChunk codec chunk maxChunkBytes = .ok decoded) :
    codec.decodeBase64 chunk.dataBase64 = some decoded := by
  simp only [decodeFileTransferChunk, bind_ok, demand_ok] at decodes
  obtain ⟨_, -, _, -, _, -, _, -, data, decoded_eq, _, -, _, -, returned⟩ := decodes
  cases returned
  cases found : codec.decodeBase64 chunk.dataBase64 <;> simp_all

theorem Handled.content (handled : Handled codec sessionId faults world request reply after)
    (target : Target) :
    ContentStep codec target ⟨request, reply, faults⟩ (world.content target) (after.content target) := by
  cases handled with
  | refused silent =>
    refine .kept ?_
    cases request with
    | chunk => exact .unanswered silent
    | start | commit | abort => exact .other fun _ => by simp
  | resumed | skipped => exact .kept (.other fun _ => by simp)
  | duplicate => exact .kept (.duplicate rfl)
  | created disturbed absent | started small fresh absent answered =>
    rename_i start
    show ContentStep codec target _ _ ((world.createTemp (pathTarget start.path)).content target)
    rw [World.createTemp, content_setTemp]
    split
    next here =>
      rw [here, World.content, absent]
      exact .created rfl
    next => exact .kept (.other fun _ => by simp)
  | cut _ disturbed fits next =>
    rw [next, content_writeTemp (openTemp_ok.mp fits.opened).1]
    split
    next here =>
      rw [here, World.content, (openTemp_ok.mp fits.opened).1]
      exact .grown (.cut disturbed (decodeBase64_of_decodes fits.decodes) (List.take_prefix _ _))
    next => exact .kept (.unanswered disturbed.silent)
  | accepted fits next =>
    rw [next, content_writeTemp (openTemp_ok.mp fits.opened).1]
    split
    next here =>
      rw [here, World.content, (openTemp_ok.mp fits.opened).1]
      exact .grown (.accepted rfl rfl (decodeBase64_of_decodes fits.decodes))
    next there => exact .kept (.elsewhere fun here => there here.symm)
  | chmodded =>
    rw [content_chmodTemp]
    exact .kept (.other fun _ => by simp)
  | committed =>
    rw [content_withoutMetadata]
    show ContentStep codec target _ _ (((world.chmodTemp _ _).setTemp _ none).content target)
    rw [content_setTemp, content_chmodTemp]
    split
    next => exact .gone
    next => exact .kept (.other fun _ => by simp)
  | aborted tempRemoved =>
    rw [content_withoutMetadata]
    cases tempRemoved with
    | false => exact .kept (.other fun _ => by simp)
    | true =>
      rw [if_pos rfl, content_setTemp]
      split
      next => exact .gone
      next => exact .kept (.other fun _ => by simp)

end Steps

/-! ## Histories -/

section Histories

variable {codec : Codec} {sessionId : Uuid}

theorem history_append (world : World) :
    history codec sessionId world (events ++ more) =
      history codec sessionId world events ++
        history codec sessionId (events.foldl (step codec sessionId) world) more := by
  induction events generalizing world with
  | nil => rfl
  | cons event _ ih =>
    cases event with
    | request => exact congrArg _ (ih _)
    | others => exact ih _

theorem afterEvents_append (events more : List Event) :
    afterEvents codec sessionId (events ++ more) =
      more.foldl (step codec sessionId) (afterEvents codec sessionId events) := by
  rw [afterEvents, List.foldl_append]
  rfl

/-- The content is what the requests since the temporary file was created have added, one
    piece for each of them. -/
def Assembled (codec : Codec) (sessionId : Uuid) (events : List Event) (target : Target)
    (content : Bytes) : Prop :=
  ∃ earlier request choices since pieces,
    events = earlier ++ .request (.start request) choices :: since ∧
    (afterEvents codec sessionId earlier).temp target = none ∧
    List.Forall₂ (Contributes codec target)
      (history codec sessionId
        (afterEvents codec sessionId (earlier ++ [.request (.start request) choices])) since) pieces ∧
    content = pieces.flatten

variable {target : Target} {request : Request} {events : List Event}

theorem Assembled.grow (assembled : Assembled codec sessionId events target content)
    (contributes : Contributes codec target
      ⟨request, (handle codec sessionId (afterEvents codec sessionId events) request choices).1,
        choices.any Choice.isFault⟩ piece) :
    Assembled codec sessionId (events ++ [.request request choices]) target (content ++ piece) := by
  obtain ⟨earlier, start, first, since, pieces, rfl, absent, contribute, rfl⟩ := assembled
  refine ⟨earlier, start, first, since ++ [.request request choices], pieces ++ [piece], by simp,
    absent, ?_, by simp⟩
  rw [history_append]
  refine List.rel_append contribute ?_
  have now : since.foldl (step codec sessionId)
      (afterEvents codec sessionId (earlier ++ [.request (.start start) first])) =
        afterEvents codec sessionId (earlier ++ .request (.start start) first :: since) := by
    rw [← afterEvents_append, List.append_assoc, List.singleton_append]
  rw [now]
  exact .cons contributes .nil

variable {content : Bytes}

theorem Assembled.others (assembled : Assembled codec sessionId events target content) :
    Assembled codec sessionId (events ++ [.others destination nextIdentity]) target content := by
  obtain ⟨earlier, start, first, since, pieces, rfl, absent, contribute, rfl⟩ := assembled
  refine ⟨earlier, start, first, since ++ [.others destination nextIdentity], pieces, by simp,
    absent, ?_, rfl⟩
  rw [history_append]
  simpa [history] using contribute

theorem content_assembled (events : List Event)
    (holds : (afterEvents codec sessionId events).content target = some content) :
    Assembled codec sessionId events target content := by
  induction events using List.reverseRecOn generalizing content with
  | nil => cases holds
  | append_singleton events event ih =>
    rw [afterEvents_append] at holds
    cases event with
    | others => exact (ih holds).others
    | request request choices =>
      have stepped := (handle_handled codec sessionId (afterEvents codec sessionId events) request
        choices).content target
      have holds : (handle codec sessionId (afterEvents codec sessionId events) request
        choices).2.content target = some content := holds
      rw [holds] at stepped
      generalize before_eq : (afterEvents codec sessionId events).content target = before at stepped
      cases stepped with
      | created starts =>
        obtain rfl := starts
        refine ⟨events, _, choices, [], [], rfl, ?_, .nil, rfl⟩
        simpa [World.content] using before_eq
      | grown contributes => exact (ih before_eq).grow contributes

/-- The start requests behind the session at hand: the one that created it, and those that
    were acknowledged while it lasted. -/
inductive InSession (codec : Codec) (sessionId : Uuid) : List Event → StartRequest → Prop
  | created {events : List Event} {start : StartRequest} {choices : List Choice}
      (fresh : (afterEvents codec sessionId events).metadata = none)
      (present : (afterEvents codec sessionId (events ++ [.request (.start start) choices])).metadata ≠
        none) :
      InSession codec sessionId (events ++ [.request (.start start) choices]) start
  | acknowledged {events : List Event} {start : StartRequest} {choices : List Choice}
      {status : Status}
      (answer : (handle codec sessionId (afterEvents codec sessionId events) (.start start)
        choices).1 = some (.ok status))
      (served : ∀ policy, status.extra ≠ .skipped policy) :
      InSession codec sessionId (events ++ [.request (.start start) choices]) start
  | since {events : List Event} {start : StartRequest} (event : Event)
      (earlier : InSession codec sessionId events start)
      (present : (afterEvents codec sessionId (events ++ [event])).metadata ≠ none) :
      InSession codec sessionId (events ++ [event]) start

/-- The metadata of a session is what its start requests have declared. -/
structure Declared (starts : StartRequest → Prop) (metadata : FileTransferSessionMetadata) :
    Prop where
  inhabited : ∃ start, starts start
  same : ∀ start, starts start → metadata.Matches start
  small : metadata.sizeBytes ≤ maxResumableFilePushBytes

theorem Handled.metadata (handled : Handled codec sessionId faults world request reply after) :
    after.metadata = world.metadata ∨ after.metadata = none ∨
      ∃ start identity, request = .start start ∧ start.sizeBytes ≤ maxResumableFilePushBytes ∧
        world.metadata = none ∧ after.metadata = some (start.metadata identity) := by
  cases handled with
  | refused | resumed | skipped | duplicate | created | cut | accepted | chmodded => exact .inl rfl
  | started small fresh => exact .inr (.inr ⟨_, _, rfl, small, fresh, rfl⟩)
  | committed removed =>
    cases removed with
    | false => exact .inl rfl
    | true => exact .inr (.inl rfl)
  | aborted tempRemoved removed =>
    cases removed with
    | false => cases tempRemoved <;> exact .inl rfl
    | true => exact .inr (.inl rfl)

theorem Handled.matches_acknowledged {start : StartRequest}
    (handled : Handled codec sessionId faults world (.start start) (some (.ok status)) after)
    (served : ∀ policy, status.extra ≠ .skipped policy) :
    ∃ metadata, after.metadata = some metadata ∧ metadata.Matches start := by
  cases handled with
  | refused silent => cases silent
  | created disturbed => cases disturbed.silent
  | resumed known same => exact ⟨_, known, same⟩
  | skipped => exact absurd rfl (served .skip)
  | started => exact ⟨_, rfl, start.matches_metadata _⟩

variable {metadata : FileTransferSessionMetadata}

theorem afterEvents_metadata (events : List Event) (event : Event) :
    (afterEvents codec sessionId (events ++ [event])).metadata =
        (afterEvents codec sessionId events).metadata ∨
      (afterEvents codec sessionId (events ++ [event])).metadata = none ∨
      ∃ start choices identity, event = .request (.start start) choices ∧
        start.sizeBytes ≤ maxResumableFilePushBytes ∧
        (afterEvents codec sessionId events).metadata = none ∧
        (afterEvents codec sessionId (events ++ [event])).metadata =
          some (start.metadata identity) := by
  rw [afterEvents_append]
  cases event with
  | others => exact .inl rfl
  | request request choices =>
    rcases (handle_handled codec sessionId _ request choices).metadata with
      same | gone | ⟨start, identity, rfl, small, fresh, new⟩
    · exact .inl same
    · exact .inr (.inl gone)
    · exact .inr (.inr ⟨start, choices, identity, rfl, small, fresh, new⟩)

theorem InSession.matches (inSession : InSession codec sessionId events start) :
    ∃ metadata, (afterEvents codec sessionId events).metadata = some metadata ∧
      metadata.Matches start := by
  induction inSession with
  | created fresh present =>
    rcases afterEvents_metadata _ _ with same | gone | ⟨_, _, _, same, -, -, new⟩
    · exact absurd (same.trans fresh) present
    · exact absurd gone present
    · cases same
      exact ⟨_, new, StartRequest.matches_metadata _ _⟩
  | @acknowledged events start choices _ answer served =>
    have handled := handle_handled codec sessionId (afterEvents codec sessionId events)
      (.start start) choices
    rw [answer] at handled
    rw [afterEvents_append]
    exact handled.matches_acknowledged served
  | since event earlier present ih =>
    obtain ⟨metadata, known, matching⟩ := ih
    rcases afterEvents_metadata _ event with same | gone | ⟨_, _, _, -, -, fresh, -⟩
    · exact ⟨metadata, same.trans known, matching⟩
    · exact absurd gone present
    · cases known.symm.trans fresh

theorem metadata_declared (known : (afterEvents codec sessionId events).metadata = some metadata) :
    Declared (InSession codec sessionId events) metadata := by
  have created : (∃ start, InSession codec sessionId events start) ∧
      metadata.sizeBytes ≤ maxResumableFilePushBytes := by
    induction events using List.reverseRecOn with
    | nil => cases known
    | append_singleton events event ih =>
      have present := Option.isSome_iff_ne_none.mp (Option.isSome_of_eq_some known)
      rcases afterEvents_metadata events event with same | gone | ⟨start, _, _, rfl, small, fresh, new⟩
      · obtain ⟨⟨start, earlier⟩, small⟩ := ih (same.symm.trans known)
        exact ⟨⟨start, .since event earlier present⟩, small⟩
      · exact absurd gone present
      · cases new.symm.trans known
        exact ⟨⟨start, .created fresh present⟩, small⟩
  refine ⟨created.1, fun start inSession => ?_, created.2⟩
  obtain ⟨_, same, matching⟩ := inSession.matches
  cases same.symm.trans known
  exact matching

/-! ## Answers -/

/-- The answer gives the path and the size that the start requests declare. -/
def Status.Declares (status : Status) (starts : StartRequest → Prop) : Prop :=
  (∃ start, starts start) ∧ ∀ start, starts start → status.path = start.path ∧
    status.sizeBytes = some start.sizeBytes ∧ status.nextOffset ≤ start.sizeBytes

/-- What an acknowledged offset says about the temporary file before and after the request,
    given the start requests of the session that the request met and of the one it left. -/
def OffsetSound (before after : World) (request : Request) (met left : StartRequest → Prop)
    (disturbed : Bool) (status : Status) : Prop :=
  let target := pathTarget status.path
  match status.extra with
  | .started _ _ _ | .resumed _ _ _ =>
    status.Declares left ∧ (after.content target).map List.length = some status.nextOffset
  | .acknowledged _ _ _ =>
    status.Declares met ∧ (after.content target).map List.length = some status.nextOffset
  | .skipped _ =>
    status.Declares (request = .start ·) ∧ after.content target = none ∧
      status.sizeBytes = some status.nextOffset
  | .committed _ _ _ =>
    status.Declares met ∧ (before.content target).map List.length = some status.nextOffset ∧
      status.sizeBytes = some status.nextOffset
  | .aborted =>
    status.Declares met ∧ status.nextOffset = 0 ∧
      (disturbed = false → after.content target = none)

variable {faults : Bool} {world after : World} {events : List Event} {status : Status}

theorem Answered.status_eq
    (answered : Answered faults (some (.ok status)) expected) : status = expected := by
  rcases answered with same | disturbed
  · simpa using same
  · cases disturbed.silent

theorem content_of_opened (opened : openTemp world target expected = .ok file) :
    world.content target = some file.content := by
  rw [World.content, (openTemp_ok.mp opened).1]
  rfl

theorem Fits.end_le {request : ChunkRequest} (fits : Fits codec world request metadata file decoded)
    (small : metadata.sizeBytes ≤ maxResumableFilePushBytes) :
    request.offset + decoded.length ≤ metadata.sizeBytes := by
  have declared := fits.declared
  simp only [satAdd, u64Max, maxResumableFilePushBytes] at declared small
  omega

theorem Declared.declares {starts : StartRequest → Prop} (declared : Declared starts metadata)
    (path : status.path = metadata.path) (size : status.sizeBytes = some metadata.sizeBytes)
    (bound : status.nextOffset ≤ metadata.sizeBytes) : status.Declares starts := by
  refine ⟨declared.inhabited, fun start member => ?_⟩
  obtain ⟨samePath, -, sameSize, -⟩ := declared.same start member
  exact ⟨path.trans samePath, size.trans (congrArg some sameSize), bound.trans sameSize.le⟩

theorem Handled.offset_sound {met left : StartRequest → Prop}
    (handled : Handled codec sessionId faults world request (some (.ok status)) after)
    (before : ∀ metadata, world.metadata = some metadata → Declared met metadata)
    (now : ∀ metadata, after.metadata = some metadata → Declared left metadata) :
    OffsetSound world after request met left faults status := by
  cases handled with
  | refused silent | chmodded silent => cases silent
  | created disturbed => cases disturbed.silent
  | cut _ disturbed => cases disturbed.silent
  | resumed known same opened within =>
    obtain ⟨path, -, size, -⟩ := same
    refine ⟨(now _ known).declares path.symm (congrArg some size.symm) (size ▸ within), ?_⟩
    simp only [startStatus]
    rw [content_of_opened opened]
    rfl
  | skipped absent taken policy =>
    rename_i start node
    refine ⟨⟨⟨start, rfl⟩, ?_⟩, ?_, rfl⟩
    · rintro _ ⟨⟩
      exact ⟨rfl, rfl, le_rfl⟩
    · simp only [startStatus, World.content, absent]
      rfl
  | started small fresh absent answered =>
    rename_i start
    cases answered.status_eq
    refine ⟨(now _ rfl).declares rfl rfl (Nat.zero_le _), ?_⟩
    show Option.map List.length ((world.createTemp (pathTarget start.path)).content
      (pathTarget start.path)) = some 0
    rw [World.createTemp, content_setTemp, if_pos rfl]
    rfl
  | accepted fits next =>
    have declared := before _ fits.known
    refine ⟨declared.declares rfl rfl (fits.end_le declared.small), ?_⟩
    simp only [chunkStatus]
    rw [next, content_writeTemp (openTemp_ok.mp fits.opened).1, if_pos rfl]
    simp
  | duplicate fits =>
    refine ⟨(before _ fits.known).declares rfl rfl fits.within, ?_⟩
    simp only [chunkStatus]
    rw [content_of_opened fits.opened]
    rfl
  | committed _ complete answered =>
    cases answered.status_eq
    refine ⟨(before _ complete.known).declares rfl rfl le_rfl, ?_, rfl⟩
    simp only [committedStatus]
    rw [content_of_opened complete.opened, ← complete.length]
    rfl
  | aborted tempRemoved _ known answered gone =>
    cases answered.status_eq
    refine ⟨(before _ known).declares rfl rfl (Nat.zero_le _), rfl, fun sound => ?_⟩
    rw [content_withoutMetadata]
    cases tempRemoved with
    | true =>
      rw [if_pos rfl, content_setTemp]
      exact if_pos rfl
    | false =>
      have absent := (gone sound).resolve_left Bool.false_ne_true
      simp [World.content, abortedStatus, absent]

theorem Handled.chunk_below_end {request : ChunkRequest}
    (handled : Handled codec sessionId faults world (.chunk request) (some (.ok status)) after)
    (before : world.content (pathTarget status.path) = some content)
    (below : request.offset < content.length) :
    ∃ data, codec.decodeBase64 request.chunk.dataBase64 = some data ∧
      request.offset + data.length ≤ content.length ∧
      (content.drop request.offset).take data.length = data := by
  cases handled with
  | refused silent => cases silent
  | cut _ disturbed => cases disturbed.silent
  | accepted fits next =>
    simp only [chunkStatus] at before
    rw [content_of_opened fits.opened, Option.some_inj] at before
    rw [next, before] at below
    exact absurd below (lt_irrefl _)
  | duplicate fits covered equal =>
    simp only [chunkStatus] at before
    rw [content_of_opened fits.opened, Option.some_inj] at before
    subst before
    exact ⟨_, decodeBase64_of_decodes fits.decodes, covered, equal⟩

/-- Only the content of a complete temporary file reaches a destination. -/
theorem Handled.destination (handled : Handled codec sessionId faults world request reply after)
    (replaced : after.destination target ≠ world.destination target) :
    ∃ metadata file, Complete codec world metadata file ∧ pathTarget metadata.path = target ∧
      after.destination target = some (.file { file with mode := metadata.mode }) := by
  cases handled with
  | refused | resumed | skipped | duplicate | created | started | cut | accepted | chmodded =>
    exact absurd rfl replaced
  | committed removed complete answered =>
    rename_i token metadata file
    refine ⟨metadata, file, complete, ?_⟩
    by_cases here : target = pathTarget metadata.path
    · refine ⟨here.symm, ?_⟩
      cases removed <;> exact if_pos here
    · cases removed <;> exact absurd (if_neg here) replaced
  | aborted tempRemoved removed => cases tempRemoved <;> cases removed <;> exact absurd rfl replaced

/-- After any history of a session, and whatever its next request meets:
    the temporary file is the chunks accepted since it was created, acknowledged offsets are
    its length and within the declared size, a chunk below its end is acknowledged only if it
    is there already, and a destination is only replaced by what was declared: by the start
    that created the session and by every start acknowledged since. -/
theorem transfer_writes_declared_bytes (codec : Codec) (sessionId : Uuid) (events : List Event) :
    let world := afterEvents codec sessionId events
    (∀ target content, world.content target = some content →
      Assembled codec sessionId events target content) ∧
    ∀ request choices,
      let (reply, after) := handle codec sessionId world request choices
      let faulty := choices.any Choice.isFault
      (∀ status, reply = some (.ok status) →
        OffsetSound world after request (InSession codec sessionId events)
          (InSession codec sessionId (events ++ [.request request choices])) faulty status) ∧
      (∀ chunk status content, request = .chunk chunk → reply = some (.ok status) →
        world.content (pathTarget status.path) = some content → chunk.offset < content.length →
        ∃ data, codec.decodeBase64 chunk.chunk.dataBase64 = some data ∧
          chunk.offset + data.length ≤ content.length ∧
          (content.drop chunk.offset).take data.length = data) ∧
      ∀ target, after.destination target ≠ world.destination target →
        ∃ file, after.destination target = some (.file file) ∧
          (∃ start, InSession codec sessionId events start) ∧
          ∀ start, InSession codec sessionId events start →
            pathTarget start.path = target ∧ file.content.length = start.sizeBytes ∧
              codec.payloadHash file.content = asciiLower start.sha256Hex := by
  refine ⟨fun target content holds => content_assembled events holds, fun request choices => ?_⟩
  have handled := handle_handled codec sessionId (afterEvents codec sessionId events) request choices
  have left : ∀ metadata, (handle codec sessionId (afterEvents codec sessionId events) request
      choices).2.metadata = some metadata →
        Declared (InSession codec sessionId (events ++ [.request request choices])) metadata := by
    intro metadata known
    refine metadata_declared ?_
    rwa [afterEvents_append]
  generalize handle codec sessionId (afterEvents codec sessionId events) request choices = result
    at handled left ⊢
  obtain ⟨reply, after⟩ := result
  refine ⟨fun status answer => ?_, fun chunk status content same answer before below => ?_,
    fun target replaced => ?_⟩
  · cases answer
    exact handled.offset_sound (fun metadata known => metadata_declared known) left
  · cases answer
    cases same
    exact handled.chunk_below_end before below
  · obtain ⟨metadata, file, complete, here, placed⟩ := handled.destination replaced
    have declared := metadata_declared complete.known
    refine ⟨_, placed, declared.inhabited, fun start inSession => ?_⟩
    obtain ⟨path, -, size, hash, -⟩ := declared.same start inSession
    refine ⟨by rw [← path, here], ?_, ?_⟩
    · rw [← size]
      exact complete.length
    · rw [← hash]
      exact complete.hash

end Histories

/-! ## A small transfer -/

/-- One byte for each character, and one digest for everything. -/
def sampleCodec : Codec where
  decodeBase64 text := some (text.map fun c => c.toNat.toUInt8)
  payloadHash _ := List.replicate 64 'a'

def sampleStart (existingPolicy : FileExistingPolicy) : StartRequest where
  path := "/f".toList
  mode := 0o600
  sizeBytes := 4
  sha256Hex := List.replicate 64 'A'
  chunkSizeBytes := 3
  rateLimitKbps := 0
  existingPolicy := existingPolicy
  resumeTokenHash := List.replicate 64 'b'

def sampleChunk (offset : Nat) (text : Text) : Request :=
  .chunk ⟨offset, ⟨offset, text.length, List.replicate 64 'a', text⟩, List.replicate 64 'b'⟩

def undisturbed : List Choice := List.replicate 16 .succeed

/-- A start that is skipped because the destination exists acknowledges the declared size,
    and there is no temporary file. -/
theorem skipped_start_has_no_file :
    let world := afterEvents sampleCodec 1 [.others (fun _ => some .other) ⟨0, 0⟩]
    let (reply, after) := handle sampleCodec 1 world (.start (sampleStart .skip)) undisturbed
    reply = some (.ok (startStatus 1 (sampleStart .skip) 4 (.skipped .skip))) ∧
      after.content [['f']] = none := by
  decide

/-- The second chunk comes twice, and its first copy is cut after one byte. -/
def sampleEvents : List Event :=
  [.request (.start (sampleStart .replace)) undisturbed,
    .request (sampleChunk 0 ['w', 'x']) undisturbed,
    .request (sampleChunk 2 ['y', 'z'])
      [.succeed, .succeed, .succeed, .succeed, .succeed, .succeed, .fail 1 "no space left"],
    .request (sampleChunk 3 ['z']) undisturbed,
    .request (sampleChunk 2 ['y', 'z']) undisturbed]

theorem sampleEvents_committed :
    let world := afterEvents sampleCodec 1 sampleEvents
    let after := (handle sampleCodec 1 world (.commit (List.replicate 64 'b')) undisturbed).2
    Assembled sampleCodec 1 sampleEvents [['f']] [119, 120, 121, 122] ∧
      ∃ file, after.destination [['f']] = some (.file file) ∧
        (∃ start, InSession sampleCodec 1 sampleEvents start) ∧
        ∀ start, InSession sampleCodec 1 sampleEvents start →
          pathTarget start.path = [['f']] ∧ file.content.length = start.sizeBytes ∧
            sampleCodec.payloadHash file.content = asciiLower start.sha256Hex := by
  have history := transfer_writes_declared_bytes sampleCodec 1 sampleEvents
  have filled : (afterEvents sampleCodec 1 sampleEvents).content [['f']] =
      some [119, 120, 121, 122] := by decide
  have replaced : (handle sampleCodec 1 (afterEvents sampleCodec 1 sampleEvents)
      (.commit (List.replicate 64 'b')) undisturbed).2.destination [['f']] ≠
        (afterEvents sampleCodec 1 sampleEvents).destination [['f']] := by decide
  exact ⟨history.1 _ _ filled,
    (history.2 (.commit (List.replicate 64 'b')) undisturbed).2.2 [['f']] replaced⟩

end Vpsman.Transfer

import Vpsman.Lib.Check
import Vpsman.Lib.Decimal
import Vpsman.Lib.Sha256

/-! # Spool files

The file of a spooled event: a magic line, the length of the header in decimal on a line of
its own, the header in JSON, and the body. When the gateway starts, it reads the time and
the target from the file's name and the place in the order from its header; the body is
read when the event is replayed.
-/

namespace Vpsman.Forward

open Vpsman.Lib

def spoolMagic : List UInt8 := utf8Bytes "VPSMAN_GATEWAY_SPOOL_V2\n"

def spoolSchemaVersion : UInt16 := 2

def maxSpoolHeaderBytes : Nat := 1024 * 1024

inductive GatewayForwardEventKind
  | telemetry
  | commandOutput
  | lifecycle
  | terminalOutput
  | other
  deriving DecidableEq, Repr

structure CommandOutputReplayRef where
  clientId : String
  jobId : Uuid
  seq : Int32
  deriving DecidableEq, Repr

/-- An event on its way to the API, without what is bound to the running gateway. -/
structure GatewayForwardEvent where
  apiUrl : String
  path : String
  body : List UInt8
  internalToken : Option String
  kind : GatewayForwardEventKind
  critical : Bool
  commandOutput : Option CommandOutputReplayRef
  createdUnix : UInt64
  enqueueSeq : UInt64
  deriving DecidableEq, Repr

structure SpooledGatewayForwardHeader where
  schemaVersion : UInt16
  apiUrl : String
  path : String
  internalToken : Option String
  kind : GatewayForwardEventKind
  critical : Bool
  createdUnix : UInt64
  enqueueSeq : UInt64
  bodySha256Hex : String
  commandOutput : Option CommandOutputReplayRef
  deriving DecidableEq, Repr

/-- The libraries that read and write JSON and compute digests. -/
structure SpoolCodec where
  toVec : SpooledGatewayForwardHeader → Option (List UInt8)
  fromSlice : List UInt8 → Option SpooledGatewayForwardHeader
  /-- The reference in a body that is a command output message. -/
  commandOutputReplayRefFromBody : List UInt8 → Option CommandOutputReplayRef
  sha256 : List UInt8 → List UInt8

structure SpoolCodec.Lawful (codec : SpoolCodec) : Prop where
  roundTrip : ∀ header bytes, codec.toVec header = some bytes → codec.fromSlice bytes = some header
  digest : ∀ payload, (codec.sha256 payload).length = 32

namespace SpoolCodec

variable (codec : SpoolCodec)

def payloadHash (payload : List UInt8) : String := String.ofList (Hex.encode (codec.sha256 payload))

/-! ## Writing -/

def headerOf (event : GatewayForwardEvent) : SpooledGatewayForwardHeader where
  schemaVersion := spoolSchemaVersion
  apiUrl := event.apiUrl
  path := event.path
  internalToken := event.internalToken
  kind := event.kind
  critical := event.critical
  createdUnix := event.createdUnix
  enqueueSeq := event.enqueueSeq
  bodySha256Hex := codec.payloadHash event.body
  commandOutput := event.commandOutput.orElse fun _ => codec.commandOutputReplayRefFromBody event.body

/-- The length of the header as it stands on its line. -/
def lengthLine (header : List UInt8) : List UInt8 :=
  utf8Bytes (String.ofList (Nat.toDigits 10 header.length))

/-- What `persist_spool_event` writes to the file. -/
def spoolFileBytes (event : GatewayForwardEvent) : Except String (List UInt8) :=
  match codec.toVec (codec.headerOf event) with
  | none => .error "failed to encode gateway spool header"
  | some header =>
    if header.length ≤ maxSpoolHeaderBytes then
      .ok (spoolMagic ++ (lengthLine header ++ 10 :: (header ++ event.body)))
    else .error "gateway spool header exceeds limit"

end SpoolCodec

/-- The name `persist_spool_event` gives the file. -/
def spoolFilename (createdUnix : UInt64) (targetKey : String) (uuid : Uuid) : Text :=
  Nat.toDigits 10 createdUnix.toNat ++ '-' :: (Hex.encode (utf8Bytes targetKey) ++
    '-' :: (uuid.hyphenated.toList ++ ".spool".toList))

/-! ## Reading -/

def parseSpoolFilename (fileName : Text) : Option (UInt64 × String) := do
  let stem ← fileName.dropSuffix? ".spool".toList
  let (created, rest) ← splitOnce '-' stem
  let createdUnix ← parseUnsigned (2 ^ 64) created
  let (targetHex, _uuid) ← splitOnce '-' rest
  let targetBytes ← Hex.decode targetHex
  let targetKey ← fromUtf8 targetBytes
  return (UInt64.ofNat createdUnix, targetKey)

namespace SpoolCodec

variable (codec : SpoolCodec)

/-- A message of the gateway's own, or the error of a library passed on. -/
inductive FileError
  | message (text : String)
  | passedOn
  deriving DecidableEq, Repr

def ensure (condition : Bool) (text : String) : Except FileError Unit :=
  if condition then .ok () else .error (.message text)

def context {α : Type} (result : Option α) (text : String) : Except FileError α :=
  match result with
  | some value => .ok value
  | none => .error (.message text)

def passOn {α : Type} (result : Option α) : Except FileError α :=
  match result with
  | some value => .ok value
  | none => .error .passedOn

def isAsciiHexdigit (c : Char) : Bool :=
  c.isDigit || ('a' ≤ c && c ≤ 'f') || ('A' ≤ c && c ≤ 'F')

def validateSpooledHeader (path : String) (header : SpooledGatewayForwardHeader) :
    Except FileError Unit := do
  ensure (header.schemaVersion == spoolSchemaVersion)
    ("gateway spool file " ++ path ++ " has unsupported schema version " ++
      toString header.schemaVersion)
  ensure ((utf8Bytes header.bodySha256Hex).length == 64 &&
      header.bodySha256Hex.toList.all isAsciiHexdigit)
    ("gateway spool file " ++ path ++ " has invalid body checksum")

/-- The number on a line, `str::from_utf8` and then `parse::<usize>`. -/
def parseLength (line : List UInt8) : Option Nat :=
  (fromUtf8 line).bind fun text => parseUnsigned (2 ^ 64) text.toList

def decodeSpooledEvent (path : String) (bytes : List UInt8) : Except FileError GatewayForwardEvent := do
  let file := "gateway spool file " ++ path
  let body ← context (bytes.dropPrefix? spoolMagic) (file ++ " has invalid magic")
  let newline ← context (body.findIdx? (· == 10)) (file ++ " has no header length")
  let headerLen ← context (parseLength (body.take newline)) (file ++ " has invalid header length")
  let headerStart := newline + 1
  let headerEnd ← context (checkedAdd headerStart headerLen) (file ++ " header length overflowed")
  ensure (headerEnd ≤ body.length) (file ++ " is truncated")
  let header ← context (codec.fromSlice ((body.take headerEnd).drop headerStart))
    ("failed to decode gateway spool header " ++ path)
  validateSpooledHeader path header
  let eventBody := body.drop headerEnd
  ensure (codec.payloadHash eventBody == header.bodySha256Hex) (file ++ " checksum mismatch")
  return {
    apiUrl := header.apiUrl
    path := header.path
    body := eventBody
    internalToken := header.internalToken
    kind := header.kind
    critical := header.critical
    commandOutput := header.commandOutput
    createdUnix := header.createdUnix
    enqueueSeq := header.enqueueSeq }

/-- The loop that reads the length line byte by byte, with the digits so far. -/
def readHeaderLen (path : String) : List UInt8 → List UInt8 →
    Except FileError (List UInt8 × List UInt8)
  | _, [] => .error .passedOn
  | digits, byte :: rest =>
    if byte = 10 then .ok (digits, rest)
    else if digits.length < 32 then readHeaderLen path (digits ++ [byte]) rest
    else .error (.message ("gateway spool file " ++ path ++ " has oversized header length"))

def loadSpooledHeaderSync (path : String) (bytes : List UInt8) :
    Except FileError SpooledGatewayForwardHeader := do
  let file := "gateway spool file " ++ path
  ensure (spoolMagic.length ≤ bytes.length) ("failed to read gateway spool magic " ++ path)
  ensure (bytes.take spoolMagic.length == spoolMagic) (file ++ " has invalid magic")
  let (digits, rest) ← readHeaderLen path [] (bytes.drop spoolMagic.length)
  let headerLen ← passOn (parseLength digits)
  ensure (headerLen ≤ maxSpoolHeaderBytes) (file ++ " has oversized header")
  ensure (satAdd (satAdd (satAdd spoolMagic.length digits.length) 1) headerLen ≤ bytes.length)
    (file ++ " has truncated header")
  ensure (headerLen ≤ rest.length) ("failed to read gateway spool header " ++ path)
  let header ← context (codec.fromSlice (rest.take headerLen))
    ("failed to decode gateway spool header " ++ path)
  validateSpooledHeader path header
  return header

/-! ## What a decoded file looks like -/

section Checks

variable {α : Type}

@[simp] theorem ensure_ok : ensure condition text = .ok done ↔ condition := by
  cases condition with
  | true => exact ⟨fun _ => rfl, fun _ => rfl⟩
  | false => exact ⟨nofun, nofun⟩

@[simp] theorem context_ok {result : Option α} :
    context result text = .ok value ↔ result = some value := by
  cases result with
  | none => exact ⟨nofun, nofun⟩
  | some => simp [context]

@[simp] theorem passOn_ok {result : Option α} :
    passOn result = .ok value ↔ result = some value := by
  cases result with
  | none => exact ⟨nofun, nofun⟩
  | some => simp [passOn]

end Checks

theorem dropMagic_eq_some :
    bytes.dropPrefix? spoolMagic = some body ↔ bytes = spoolMagic ++ body := by
  rw [List.dropPrefix?_eq_some_iff]
  constructor
  · rintro ⟨start, rfl, same⟩
    rw [eq_of_beq same]
  · rintro rfl
    exact ⟨spoolMagic, rfl, beq_self_eq_true _⟩

theorem findNewline_eq_some {body : List UInt8} :
    body.findIdx? (· == 10) = some newline ↔
      ∃ line rest, body = line ++ 10 :: rest ∧ 10 ∉ line ∧ newline = line.length := by
  induction body generalizing newline with
  | nil =>
    refine ⟨nofun, ?_⟩
    rintro ⟨line, rest, split, _⟩
    exact absurd split (List.append_ne_nil_of_right_ne_nil _ (List.cons_ne_nil _ _)).symm
  | cons byte body ih =>
    rw [List.findIdx?_cons]
    by_cases found : byte = 10
    · subst found
      simp only [beq_self_eq_true, if_true, Option.some_inj]
      constructor
      · rintro rfl
        exact ⟨[], body, rfl, List.not_mem_nil, rfl⟩
      rintro ⟨line, rest, split, absent, rfl⟩
      cases line with
      | nil => rfl
      | cons =>
        obtain ⟨rfl, _⟩ := List.cons.inj split
        exact absurd List.mem_cons_self absent
    · rw [if_neg (by simpa using found), Option.map_eq_some_iff]
      simp only [ih]
      constructor
      · rintro ⟨_, ⟨line, rest, rfl, absent, rfl⟩, rfl⟩
        refine ⟨byte :: line, rest, rfl, ?_, rfl⟩
        rw [List.mem_cons, not_or]
        exact ⟨Ne.symm found, absent⟩
      · rintro ⟨line, rest, split, absent, rfl⟩
        cases line with
        | nil => exact absurd (List.cons.inj split).1 found
        | cons _ line =>
          obtain ⟨rfl, rfl⟩ := List.cons.inj split
          rw [List.mem_cons, not_or] at absent
          exact ⟨line.length, ⟨line, rest, rfl, absent.2, rfl⟩, rfl⟩

section Line

variable (line rest : List UInt8) (length : Nat)

theorem take_line : (line ++ 10 :: rest).take line.length = line := List.take_left

theorem drop_line : (line ++ 10 :: rest).drop (line.length + 1 + length) = rest.drop length := by
  rw [Nat.add_assoc, ← List.drop_drop, List.drop_left, Nat.add_comm 1, List.drop_succ_cons]

theorem slice_line :
    ((line ++ 10 :: rest).take (line.length + 1 + length)).drop (line.length + 1) =
      rest.take length := by
  have start := drop_line line rest 0
  rw [Nat.add_zero, List.drop_zero] at start
  rw [List.drop_take, start, Nat.add_sub_cancel_left]

theorem length_line : (line ++ 10 :: rest).length = line.length + 1 + rest.length := by
  rw [List.length_append, List.length_cons]
  omega

end Line

theorem line_unique {line line' rest rest' : List UInt8} (absent : 10 ∉ line) (absent' : 10 ∉ line')
    (same : line ++ 10 :: rest = line' ++ 10 :: rest') : line = line' ∧ rest = rest' := by
  have here := findNewline_eq_some.mpr ⟨line, rest, rfl, absent, rfl⟩
  have there := findNewline_eq_some.mpr ⟨line', rest', same, absent', rfl⟩
  obtain ⟨rfl, tails⟩ := List.append_inj same (Option.some.inj (here.symm.trans there))
  exact ⟨rfl, (List.cons.inj tails).2⟩

variable {codec} {path : String}

/-- The event that a header and a body make. -/
def eventOf (header : SpooledGatewayForwardHeader) (body : List UInt8) : GatewayForwardEvent where
  apiUrl := header.apiUrl
  path := header.path
  body := body
  internalToken := header.internalToken
  kind := header.kind
  critical := header.critical
  commandOutput := header.commandOutput
  createdUnix := header.createdUnix
  enqueueSeq := header.enqueueSeq

/-- A file decodes exactly if it has all its parts and the digest of the body is right. -/
theorem decodeSpooledEvent_ok :
    codec.decodeSpooledEvent path bytes = .ok event ↔
      ∃ line rest headerLen header, bytes = spoolMagic ++ (line ++ 10 :: rest) ∧ 10 ∉ line ∧
        parseLength line = some headerLen ∧ line.length + 1 + headerLen ≤ u64Max ∧
        headerLen ≤ rest.length ∧ codec.fromSlice (rest.take headerLen) = some header ∧
        validateSpooledHeader path header = .ok () ∧
        codec.payloadHash (rest.drop headerLen) = header.bodySha256Hex ∧
        event = eventOf header (rest.drop headerLen) := by
  unfold decodeSpooledEvent
  simp only [bind_ok, context_ok, ensure_ok, dropMagic_eq_some, findNewline_eq_some, exists_const,
    decide_eq_true_eq, beq_iff_eq, checkedAdd_eq_some]
  constructor
  · rintro ⟨_, rfl, _, ⟨line, rest, rfl, absent, rfl⟩, headerLen, parsed, _, ⟨fits, rfl⟩, whole, header,
      decoded, done, valid, digest, returned⟩
    rw [take_line] at parsed
    rw [drop_line] at digest
    rw [slice_line] at decoded
    rw [length_line, Nat.add_le_add_iff_left] at whole
    rw [drop_line] at returned
    exact ⟨line, rest, headerLen, header, rfl, absent, parsed, fits, whole, decoded, valid, digest,
      (Except.ok.inj returned).symm⟩
  · rintro ⟨line, rest, headerLen, header, rfl, absent, parsed, fits, whole, decoded, valid, digest,
      rfl⟩
    refine ⟨_, rfl, _, ⟨line, rest, rfl, absent, rfl⟩, headerLen, ?_, _, ⟨fits, rfl⟩, ?_, header, ?_,
      (), valid, ?_, ?_⟩
    · rwa [take_line]
    · rwa [length_line, Nat.add_le_add_iff_left]
    · rwa [slice_line]
    · rwa [drop_line]
    · rw [drop_line]
      rfl

/-! ## What was written is read back -/

variable {event : GatewayForwardEvent} {bytes : List UInt8}

theorem parseLength_lengthLine (small : header.length ≤ maxSpoolHeaderBytes) :
    parseLength (lengthLine header) = some header.length := by
  unfold parseLength lengthLine
  rw [fromUtf8_utf8Bytes, Option.bind_some, String.toList_ofList]
  refine parseUnsigned_digits (small.trans_lt ?_)
  decide

theorem length_lengthLine_le (small : header.length ≤ maxSpoolHeaderBytes) :
    (lengthLine header).length ≤ 7 := by
  unfold lengthLine
  rw [utf8Bytes_digits, List.length_map, Nat.length_toDigits_le_iff (by decide) (by decide)]
  exact small.trans_lt (by decide)

theorem newline_notMem_lengthLine : 10 ∉ lengthLine header :=
  newline_notMem_digits

theorem all_isAsciiHexdigit_encode : (Hex.encode digest).all isAsciiHexdigit :=
  List.all_eq_true.mpr (Hex.forall_mem_encode (by decide))

theorem length_utf8Bytes_encode :
    (utf8Bytes (String.ofList (Hex.encode digest))).length = 2 * digest.length := by
  rw [utf8Bytes_ascii (Hex.forall_mem_encode (by decide)), List.length_map, Hex.length_encode]

theorem Lawful.valid (lawful : codec.Lawful) :
    validateSpooledHeader path (codec.headerOf event) = .ok () := by
  unfold validateSpooledHeader
  rw [check_then_ok, ensure_ok, ensure_ok, Bool.and_eq_true, beq_iff_eq, beq_iff_eq]
  refine ⟨rfl, ?_, ?_⟩
  · exact length_utf8Bytes_encode.trans (by rw [lawful.digest])
  · change (String.ofList _).toList.all _
    rw [String.toList_ofList]
    exact all_isAsciiHexdigit_encode

theorem spoolFileBytes_ok :
    codec.spoolFileBytes event = .ok bytes ↔
      ∃ header, codec.toVec (codec.headerOf event) = some header ∧
        header.length ≤ maxSpoolHeaderBytes ∧
        bytes = spoolMagic ++ (lengthLine header ++ 10 :: (header ++ event.body)) := by
  unfold spoolFileBytes
  cases encoded : codec.toVec (codec.headerOf event) with
  | none => exact ⟨nofun, nofun⟩
  | some header =>
    dsimp only
    split
    next small =>
      constructor
      · intro written
        exact ⟨header, rfl, small, (Except.ok.inj written).symm⟩
      · rintro ⟨_, same, _, rfl⟩
        cases same
        rfl
    next large =>
      refine ⟨nofun, ?_⟩
      rintro ⟨_, same, small, _⟩
      cases same
      exact absurd small large

theorem decodeSpooledEvent_spoolFileBytes (lawful : codec.Lawful)
    (written : codec.spoolFileBytes event = .ok bytes) :
    codec.decodeSpooledEvent path bytes =
      .ok { event with commandOutput := (codec.headerOf event).commandOutput } := by
  obtain ⟨header, encoded, small, rfl⟩ := spoolFileBytes_ok.mp written
  have lineLength := length_lengthLine_le small
  refine decodeSpooledEvent_ok.mpr ⟨lengthLine header, header ++ event.body, header.length,
    codec.headerOf event, rfl, newline_notMem_lengthLine, parseLength_lengthLine small, ?_, ?_, ?_,
    lawful.valid, ?_, ?_⟩
  · have limit : maxSpoolHeaderBytes + 8 ≤ u64Max := by decide
    omega
  · rw [List.length_append]
    exact Nat.le_add_right _ _
  · rw [List.take_left]
    exact lawful.roundTrip _ _ encoded
  all_goals
    rw [List.drop_left]
    rfl

theorem readHeaderLen_line (absent : 10 ∉ line) (short : digits.length + line.length ≤ 32) :
    readHeaderLen path digits (line ++ 10 :: rest) = .ok (digits ++ line, rest) := by
  induction line generalizing digits with
  | nil => rw [List.nil_append, List.append_nil, readHeaderLen, if_pos rfl]
  | cons _ _ ih =>
    rw [List.mem_cons, not_or] at absent
    rw [List.length_cons] at short
    rw [List.cons_append, readHeaderLen, if_neg (Ne.symm absent.1), if_pos (by omega), ih absent.2]
    · rw [List.append_assoc, List.singleton_append]
    · rw [List.length_append, List.length_singleton]
      omega

theorem loadSpooledHeaderSync_spoolFileBytes (lawful : codec.Lawful)
    (written : codec.spoolFileBytes event = .ok bytes) :
    codec.loadSpooledHeaderSync path bytes = .ok (codec.headerOf event) := by
  obtain ⟨header, encoded, small, rfl⟩ := spoolFileBytes_ok.mp written
  have lineLength := length_lengthLine_le small
  unfold loadSpooledHeaderSync
  simp only [bind_ok, context_ok, ensure_ok, passOn_ok, exists_const, decide_eq_true_eq, beq_iff_eq,
    List.take_left, List.drop_left]
  refine ⟨?_, trivial, _, readHeaderLen_line newline_notMem_lengthLine ?_, header.length,
    ?_, small, ?_, ?_, codec.headerOf event, ?_, (), lawful.valid, rfl⟩
  · rw [List.length_append]
    exact Nat.le_add_right _ _
  · rw [List.length_nil]
    omega
  · exact parseLength_lengthLine small
  · simp only [satAdd, List.nil_append, List.length_append, List.length_cons]
    omega
  · rw [List.length_append]
    exact Nat.le_add_right _ _
  · rw [List.take_left]
    exact lawful.roundTrip _ _ encoded

theorem sha256_eq_of_payloadHash_eq (same : codec.payloadHash first = codec.payloadHash second) :
    codec.sha256 first = codec.sha256 second := by
  have decoded := congrArg Hex.decode (String.ofList_injective same)
  rw [Hex.decode_encode, Hex.decode_encode] at decoded
  exact Option.some.inj decoded

/-- A part of a file that decodes is the whole file, if no other part of the body has its
    digest. -/
theorem complete_of_decodeSpooledEvent_ok (lawful : codec.Lawful)
    (written : codec.spoolFileBytes event = .ok bytes)
    (distinct : ∀ part, part <+: event.body → codec.sha256 part = codec.sha256 event.body →
      part = event.body) (cut : part ++ missing = bytes)
    (decoded : codec.decodeSpooledEvent path part = .ok event') : missing = [] := by
  obtain ⟨header, encoded, small, rfl⟩ := spoolFileBytes_ok.mp written
  obtain ⟨line, rest, headerLen, header', rfl, absent, parsed, _, whole, read, _, digest, _⟩ :=
    decodeSpooledEvent_ok.mp decoded
  rw [List.append_assoc, List.append_assoc, List.cons_append] at cut
  obtain ⟨rfl, same⟩ := line_unique absent newline_notMem_lengthLine (List.append_cancel_left cut)
  obtain rfl : headerLen = header.length :=
    Option.some.inj (parsed.symm.trans (parseLength_lengthLine small))
  -- the header is there in full, so only the body can be cut
  obtain ⟨body, rfl⟩ : header <+: rest :=
    List.prefix_of_prefix_length_le (List.prefix_append header event.body)
      (same ▸ List.prefix_append rest missing) whole
  rw [List.append_assoc] at same
  have split := List.append_cancel_left same
  rw [List.take_left, lawful.roundTrip _ _ encoded] at read
  cases read
  rw [List.drop_left] at digest
  have all : body = event.body :=
    distinct body ⟨missing, split⟩ (sha256_eq_of_payloadHash_eq digest)
  rw [all] at split
  exact List.append_right_eq_self.mp split

end SpoolCodec

theorem parseSpoolFilename_spoolFilename :
    parseSpoolFilename (spoolFilename createdUnix targetKey uuid) = some (createdUnix, targetKey) := by
  have stem : (spoolFilename createdUnix targetKey uuid).dropSuffix? ".spool".toList =
      some (Nat.toDigits 10 createdUnix.toNat ++ '-' :: (Hex.encode (utf8Bytes targetKey) ++
        '-' :: uuid.hyphenated.toList)) := by
    refine List.dropSuffix?_eq_some_iff.mpr ⟨".spool".toList, ?_, beq_self_eq_true _⟩
    simp [spoolFilename]
  have hyphen : '-' ∉ Nat.toDigits 10 createdUnix.toNat :=
    fun member => absurd (isDigit_of_mem_digits member) (by decide)
  have hyphen' : '-' ∉ Hex.encode (utf8Bytes targetKey) :=
    fun member => Hex.forall_mem_encode (p := ('-' ≠ ·)) (by decide) _ member rfl
  have bound : createdUnix.toNat < 2 ^ 64 := createdUnix.toNat_lt
  simp only [parseSpoolFilename, stem, splitOnce_append hyphen,
    parseUnsigned_digits bound,
    splitOnce_append hyphen', Hex.decode_encode,
    fromUtf8_utf8Bytes, Option.bind_eq_bind,
    Option.bind_some, UInt64.ofNat_toNat,
    Option.pure_def]

/-- A spooled event survives a restart: the file's name gives back its time and target, the
    header its place in the order and the whole file the event; a file that was cut short is
    refused. -/
theorem spool_file_survives_restart {codec : SpoolCodec} (lawful : codec.Lawful)
    {event : GatewayForwardEvent} {bytes : List UInt8}
    (written : codec.spoolFileBytes event = .ok bytes) (targetKey : String) (uuid : Uuid)
    (distinct : ∀ part, part <+: event.body → codec.sha256 part = codec.sha256 event.body →
      part = event.body) (path : String) :
    parseSpoolFilename (spoolFilename event.createdUnix targetKey uuid) =
      some (event.createdUnix, targetKey) ∧
    (∃ header, codec.loadSpooledHeaderSync path bytes = .ok header ∧
      header.enqueueSeq = event.enqueueSeq) ∧
    codec.decodeSpooledEvent path bytes =
      .ok { event with commandOutput := (codec.headerOf event).commandOutput } ∧
    ∀ part, part <+: bytes → part ≠ bytes →
      ∃ error, codec.decodeSpooledEvent path part = .error error := by
  refine ⟨parseSpoolFilename_spoolFilename, ⟨codec.headerOf event, ?_, rfl⟩, ?_, ?_⟩
  · exact SpoolCodec.loadSpooledHeaderSync_spoolFileBytes lawful written
  · exact SpoolCodec.decodeSpooledEvent_spoolFileBytes lawful written
  rintro part ⟨missing, cut⟩ proper
  cases decoded : codec.decodeSpooledEvent path part with
  | error error => exact ⟨error, rfl⟩
  | ok =>
    obtain rfl := SpoolCodec.complete_of_decodeSpooledEvent_ok lawful written distinct cut decoded
    exact absurd (part.append_nil.symm.trans cut) proper

/-- An event whose body holds a newline, for a target whose name holds hyphens. -/
def sampleEvent : GatewayForwardEvent where
  apiUrl := "http://api"
  path := "/ingest"
  body := [10, 45]
  internalToken := none
  kind := .lifecycle
  critical := true
  commandOutput := none
  createdUnix := 1700000000
  enqueueSeq := 7

def sampleHeader : SpooledGatewayForwardHeader where
  schemaVersion := 2
  apiUrl := "http://api"
  path := "/ingest"
  internalToken := none
  kind := .lifecycle
  critical := true
  createdUnix := 1700000000
  enqueueSeq := 7
  bodySha256Hex := Sha256.hex [10, 45]
  commandOutput := none

def sampleHeaderJson : List UInt8 := utf8Bytes
  ("\x7b\"schema_version\":2,\"api_url\":\"http://api\",\"path\":\"/ingest\"," ++
    "\"internal_token\":null,\"kind\":\"lifecycle\",\"critical\":true," ++
    "\"created_unix\":1700000000,\"enqueue_seq\":7,\"body_sha256_hex\":\"" ++
    Sha256.hex [10, 45] ++ "\"\x7d")

def sampleSpoolCodec : SpoolCodec where
  toVec header := if header = sampleHeader then some sampleHeaderJson else none
  fromSlice bytes := if bytes = sampleHeaderJson then some sampleHeader else none
  commandOutputReplayRefFromBody _ := none
  sha256 := Sha256.digest

theorem sampleSpoolCodec_lawful : sampleSpoolCodec.Lawful where
  roundTrip := by
    intro header bytes encoded
    obtain ⟨rfl, same⟩ := Option.ite_none_right_eq_some.mp encoded
    obtain rfl := Option.some.inj same
    unfold sampleSpoolCodec
    dsimp only
    rw [if_pos rfl]
  digest := fun _ => rfl

theorem headerOf_sampleEvent : sampleSpoolCodec.headerOf sampleEvent = sampleHeader := by
  rfl

theorem sample_survives_restart :
    ∃ bytes, sampleSpoolCodec.spoolFileBytes sampleEvent = .ok bytes ∧
      parseSpoolFilename (spoolFilename 1700000000 "agent-1" 1) = some (1700000000, "agent-1") ∧
      sampleSpoolCodec.decodeSpooledEvent "1" bytes = .ok sampleEvent ∧
      ∃ error, sampleSpoolCodec.decodeSpooledEvent "1" bytes.dropLast = .error error := by
  have encoded : sampleSpoolCodec.toVec (sampleSpoolCodec.headerOf sampleEvent) =
      some sampleHeaderJson := by
    rw [headerOf_sampleEvent]
    unfold sampleSpoolCodec
    dsimp only
    rw [if_pos rfl]
  have small : sampleHeaderJson.length ≤ maxSpoolHeaderBytes := by decide +kernel
  have written := SpoolCodec.spoolFileBytes_ok.mpr ⟨sampleHeaderJson, encoded, small, rfl⟩
  have distinct : ∀ part, part <+: [10, 45] → Sha256.digest part = Sha256.digest [10, 45] →
      part = [10, 45] := by
    have shorter : ∀ n < 3, Sha256.digest (List.take n [10, 45]) = Sha256.digest [10, 45] →
        List.take n [10, 45] = ([10, 45] : List UInt8) := by decide +kernel
    intro part start
    rw [List.prefix_iff_eq_take.mp start]
    exact shorter part.length (Nat.lt_succ_of_le start.length_le)
  obtain ⟨named, _, decoded, cut⟩ := spool_file_survives_restart sampleSpoolCodec_lawful written
    "agent-1" 1 distinct "1"
  refine ⟨_, written, named, decoded, cut _ (List.dropLast_prefix _) ?_⟩
  intro same
  have lengths := congrArg List.length same
  simp only [List.length_dropLast, List.length_append, List.length_cons] at lengths
  omega

end Vpsman.Forward

import Vpsman.Lib.Check
import Vpsman.Lib.Text
import Vpsman.Lib.Word

/-! # File transfer requests

The checks both ends make on a resumable transfer before any file is touched: the form of
the path, the mode, the limits of size and rate, digests, and the encoding of a chunk.
-/

namespace Vpsman.Transfer

open Vpsman.Lib

abbrev Bytes := List UInt8

def maxFilePathBytes : Nat := 4096

def fileTransferChunkBytes : Nat := 64 * 1024

def maxResumableFilePushBytes : Nat := 1024 * 1024 * 1024

def maxFileTransferRateLimitKbps : Nat := 1000000

def maxFileMode : Nat := 511

structure FilePushChunk where
  offset : Nat
  sizeBytes : Nat
  sha256Hex : Text
  dataBase64 : Text
  deriving Repr, DecidableEq

inductive FileExistingPolicy where
  | skip
  | replace
  deriving Repr, DecidableEq

inductive FileTransferValidationError where
  | pathRequired
  | invalidPath
  | pathMustBeAbsolute
  | invalidMode
  | tooLarge
  | invalidBase64
  | sizeMismatch
  | invalidSha256
  | chunkTooLarge
  | chunkHashMismatch
  | invalidSessionId
  | invalidResumeTokenHash
  | invalidChunkSize
  | invalidRateLimit
  deriving Repr, DecidableEq

def FileTransferValidationError.toString : FileTransferValidationError → String
  | .pathRequired => "file path is required"
  | .invalidPath => "file path is invalid"
  | .pathMustBeAbsolute => "file path must be absolute"
  | .invalidMode => "file mode is invalid"
  | .tooLarge => "file size exceeds inline transfer limit"
  | .invalidBase64 => "file payload is invalid base64"
  | .sizeMismatch => "file payload size does not match declared size"
  | .invalidSha256 => "file sha256 must be a 64-character hex digest"
  | .chunkTooLarge => "file chunk size exceeds limit"
  | .chunkHashMismatch => "file chunk hash mismatch"
  | .invalidSessionId => "file transfer session id is invalid"
  | .invalidResumeTokenHash => "file transfer resume token hash is invalid"
  | .invalidChunkSize => "file transfer chunk size is invalid"
  | .invalidRateLimit => "file transfer rate limit is invalid"

/-- The third-party encodings: standard base64 and the digest in lower-case hexadecimal. -/
structure Codec where
  decodeBase64 : Text → Option Bytes
  payloadHash : Bytes → Text

abbrev Validation := Except FileTransferValidationError

/-! ## Paths, modes and digests -/

/-- `str::split` at slashes. -/
def segments : Text → List Text
  | [] => [[]]
  | c :: rest =>
    if c = '/' then [] :: segments rest
    else
      match segments rest with
      | [] => [[c]]
      | segment :: others => (c :: segment) :: others

def validateAbsoluteFilePath (path : Text) : Validation Unit :=
  if path.isEmpty then .error .pathRequired
  else if utf8Length path > maxFilePathBytes || path.contains '\x00' then .error .invalidPath
  else if !startsWith "/" path then .error .pathMustBeAbsolute
  else if (segments path).any fun segment => segment = ['.'] || segment = ['.', '.'] then
    .error .invalidPath
  else .ok ()

def validateFileMode (mode : Nat) : Validation Unit :=
  if mode > maxFileMode then .error .invalidMode else .ok ()

def isAsciiHexDigit (c : Char) : Bool :=
  c.isDigit || ('a' ≤ c && c ≤ 'f') || ('A' ≤ c && c ≤ 'F')

def normalizeSha256Hex (value : Text) : Validation Text :=
  let normalized := asciiLower (trim value)
  if utf8Length normalized != 64 || !normalized.all isAsciiHexDigit then .error .invalidSha256
  else .ok normalized

def validateFileTransferChunkSize (value : Nat) : Validation Unit :=
  if value = 0 || value > fileTransferChunkBytes then .error .invalidChunkSize else .ok ()

def validateFileTransferRateLimit (value : Nat) : Validation Unit :=
  if value > maxFileTransferRateLimitKbps then .error .invalidRateLimit else .ok ()

def validateResumeTokenHash (value : Text) : Validation Unit :=
  match normalizeSha256Hex value with
  | .ok _ => .ok ()
  | .error _ => .error .invalidResumeTokenHash

/-! ## Requests -/

/-- What the first request of a session declares. -/
structure StartRequest where
  path : Text
  mode : Nat
  sizeBytes : Nat
  sha256Hex : Text
  chunkSizeBytes : Nat
  rateLimitKbps : Nat
  existingPolicy : FileExistingPolicy
  resumeTokenHash : Text
  deriving Repr, DecidableEq

def validateFileTransferSession (sessionId : Uuid) (request : StartRequest) : Validation Unit := do
  demand (sessionId ≠ 0) .invalidSessionId
  validateAbsoluteFilePath request.path
  validateFileMode request.mode
  demand (request.sizeBytes ≤ maxResumableFilePushBytes) .tooLarge
  discard (normalizeSha256Hex request.sha256Hex)
  validateFileTransferChunkSize request.chunkSizeBytes
  validateFileTransferRateLimit request.rateLimitKbps
  validateResumeTokenHash request.resumeTokenHash

def validateFileTransferSessionToken (sessionId : Uuid) (resumeTokenHash : Text) :
    Validation Unit := do
  demand (sessionId ≠ 0) .invalidSessionId
  validateResumeTokenHash resumeTokenHash

def decodeFileTransferChunk (codec : Codec) (chunk : FilePushChunk) (maxChunkBytes : Nat) :
    Validation Bytes := do
  validateFileTransferChunkSize maxChunkBytes
  demand (chunk.sizeBytes ≠ 0 ∧ chunk.sizeBytes ≤ maxChunkBytes) .invalidChunkSize
  let maxBase64Len := (maxChunkBytes + 2) / 3 * 4
  demand (utf8Length chunk.dataBase64 ≤ maxBase64Len) .chunkTooLarge
  let chunkHash ← normalizeSha256Hex chunk.sha256Hex
  let decoded ← (codec.decodeBase64 chunk.dataBase64).elim (.error .invalidBase64) .ok
  demand (decoded.length = chunk.sizeBytes) .sizeMismatch
  demand (codec.payloadHash decoded = chunkHash) .chunkHashMismatch
  return decoded

theorem sizeBytes_le_of_valid (valid : validateFileTransferSession sessionId request = .ok passed) :
    request.sizeBytes ≤ maxResumableFilePushBytes := by
  simp only [validateFileTransferSession, bind_ok, demand_ok] at valid
  obtain ⟨_, -, _, -, _, -, _, small, -⟩ := valid
  exact small

end Vpsman.Transfer

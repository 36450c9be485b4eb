import Vpsman.Lib.Text
import Vpsman.Security.Auth

/-! # Batches of privilege assertions

The gateway verifies the items of a batch one after the other against its replay cache. An
item that is refused is reported beside the others, but a saturated cache fails the whole
batch, with the nonces of the items before it already remembered.
-/

namespace Vpsman.Security

open Vpsman.Lib

def gatewayControlBatchMaxItems : Nat := 1000

structure BatchItem where
  requestId : String
  intent : String
  assertion : PrivilegeAssertion
  deriving Repr, DecidableEq

structure BatchItemResult where
  requestId : String
  approved : Bool
  intentHashHex : Option String
  message : String
  errorCode : Option String
  deriving Repr, DecidableEq

/-- The name of the variant, as its derived debug format prints it. -/
def PrivilegeAssertionError.debug : PrivilegeAssertionError → String
  | .invalidNonce => "InvalidNonce"
  | .invalidTime => "InvalidTime"
  | .invalidAssertion => "InvalidAssertion"
  | .replay => "Replay"
  | .replayProtectionSaturated => "ReplayProtectionSaturated"

/-- Every request identifier is given and comes once. -/
def validateRequestIds (label : String) : List String → List String → Except String Unit
  | _, [] => .ok ()
  | earlier, requestId :: rest =>
    if requestId.isEmpty then .error (label ++ "_empty_request_id")
    else if requestId ∈ earlier then
      .error (label ++ "_duplicate_request_id:" ++ requestId)
    else validateRequestIds label (requestId :: earlier) rest

def validateGatewayControlBatch (requestIds : List String) (label : String) :
    Except String Unit :=
  if requestIds.length < 1 ∨ gatewayControlBatchMaxItems < requestIds.length then
    .error (label ++ "_size_out_of_range:expected=1..=" ++ toString gatewayControlBatchMaxItems ++
      ":actual=" ++ toString requestIds.length)
  else validateRequestIds label [] requestIds

def decodeVerifierKey (value : Option String) : Except String (List UInt8) :=
  match value.map fun text => trim text.toList with
  | none | some [] => .error "privilege verifier is not configured"
  | some text =>
    match Hex.decode text with
    | none => .error "privilege verifier key must be hex"
    | some bytes =>
      if bytes.length = 32 then .ok bytes else .error "privilege verifier key must be 32 bytes"

/-- Report an item, unless the batch fails later. -/
def report (result : BatchItemResult)
    (rest : ReplayCache × Except String (List BatchItemResult)) :
    ReplayCache × Except String (List BatchItemResult) :=
  (rest.1, rest.2.map (result :: ·))

theorem report_eq_error {error : String} :
    report result rest = (after, .error error) ↔ rest = (after, .error error) := by
  obtain ⟨cache, error' | results⟩ := rest <;> simp [report, Except.map]

section Verify

variable (hmacSha256 : List UInt8 → List UInt8 → List UInt8) (sha256 : List UInt8 → List UInt8)

/-- The loop of `verify_gateway_privileges`. -/
def verifyItems (verifierKey : List UInt8) (nowUnix : UInt64) :
    List BatchItem → ReplayCache → ReplayCache × Except String (List BatchItemResult)
  | [], cache => (cache, .ok [])
  | item :: rest, cache =>
    match verifyPrivilegeAssertion hmacSha256 sha256 verifierKey item.intent item.assertion nowUnix
      cache with
    | (cache, .ok intentHashHex) =>
      report ⟨item.requestId, true, some intentHashHex, "approved", none⟩
        (verifyItems verifierKey nowUnix rest cache)
    | (cache, .error .replayProtectionSaturated) => 
      (cache, .error ("privilege_assertion_" ++ PrivilegeAssertionError.replayProtectionSaturated.debug))
    | (cache, .error error) =>
      report ⟨item.requestId, false, none, "privilege verification failed",
          some ("privilege_assertion_" ++ error.debug)⟩
        (verifyItems verifierKey nowUnix rest cache)

def verifyGatewayPrivileges (verifierKeyHex : Option String) (items : List BatchItem)
    (nowUnix : UInt64) (cache : ReplayCache) :
    ReplayCache × Except String (List BatchItemResult) :=
  match validateGatewayControlBatch (items.map (·.requestId)) "privilege_verification_batch" with
  | .error message => (cache, .error message)
  | .ok () =>
    match decodeVerifierKey verifierKeyHex with
    | .error message => (cache, .error message)
    | .ok verifierKey => verifyItems hmacSha256 sha256 verifierKey nowUnix items cache

/-- The item would be accepted by itself. -/
def Accepts (verifierKey : List UInt8) (nowUnix : UInt64) (item : BatchItem) (cache : ReplayCache) :
    Prop :=
  (verifyPrivilegeAssertion hmacSha256 sha256 verifierKey item.intent item.assertion nowUnix
    cache).2.isOk = true

instance (verifierKey : List UInt8) (nowUnix : UInt64) (item : BatchItem) (cache : ReplayCache) :
    Decidable (Accepts hmacSha256 sha256 verifierKey nowUnix item cache) :=
  inferInstanceAs (Decidable (_ = true))

end Verify

/-- As many nonces that can still be presented as the cache holds. -/
def ReplayCache.Saturated (cache : ReplayCache) (nowUnix : UInt64) : Prop :=
  cache.maxEntries ≤ (cache.purgeExpired nowUnix).seen.entries.length

namespace ReplayCache

variable {nowUnix : UInt64} {cache : ReplayCache}

theorem purge_unexpired (nowUnix : UInt64) (order : List (String × UInt64)) (seen : HashMap String UInt64) :
    ∀ entry ∈ (purge nowUnix order seen).1, ¬ entry.2 < nowUnix := by
  induction order generalizing seen with
  | nil => simp [purge]
  | cons entry _ ih =>
    obtain ⟨nonceHex, expiresUnix⟩ := entry
    by_cases expired : expiresUnix < nowUnix
    · simp only [purge, expired, if_true]
      exact ih _
    · simp only [purge, if_neg expired, List.forall_mem_cons]
      exact ⟨expired, ih seen⟩

theorem purge_of_unexpired {order : List (String × UInt64)} (seen : HashMap String UInt64)
    (unexpired : ∀ entry ∈ order, ¬ entry.2 < nowUnix) : purge nowUnix order seen = (order, seen) := by
  induction order with
  | nil => rfl
  | cons _ _ ih =>
    rw [List.forall_mem_cons] at unexpired
    simp [purge, unexpired.1, ih unexpired.2]

theorem purgeExpired_idem :
    (cache.purgeExpired nowUnix).purgeExpired nowUnix = cache.purgeExpired nowUnix := by
  have unexpired := purge_unexpired nowUnix cache.order cache.seen
  simp only [purgeExpired]
  rw [purge_of_unexpired _ unexpired]

theorem remember_purgeExpired :
    (cache.purgeExpired nowUnix).remember nonceHex expiresUnix nowUnix =
      cache.remember nonceHex expiresUnix nowUnix := by
  simp [remember, purgeExpired_idem]

theorem saturated_purgeExpired :
    (cache.purgeExpired nowUnix).Saturated nowUnix ↔ cache.Saturated nowUnix := by
  rw [Saturated, purgeExpired_idem]
  rfl

theorem remember_error {error : PrivilegeAssertionError}
    (refused : cache.remember nonceHex expiresUnix nowUnix = (after, .error error)) :
    after = cache.purgeExpired nowUnix ∧
      (error = .replayProtectionSaturated → cache.Saturated nowUnix) := by
  unfold remember at refused
  dsimp only at refused
  split at refused
  · cases refused
    exact ⟨rfl, fun impossible => by cases impossible⟩
  · split at refused
    next full =>
      cases refused
      exact ⟨rfl, fun _ => full⟩
    · cases refused

theorem remember_of_saturated (saturated : cache.Saturated nowUnix) :
    (cache.remember nonceHex expiresUnix nowUnix).2 ≠ .ok () := by
  have full : (cache.purgeExpired nowUnix).maxEntries ≤
      (cache.purgeExpired nowUnix).seen.entries.length := saturated
  unfold remember
  dsimp only
  split
  · simp
  · simp

end ReplayCache

section Verify

variable {hmacSha256 : List UInt8 → List UInt8 → List UInt8} {sha256 : List UInt8 → List UInt8}
  {verifierKey : List UInt8} {nowUnix : UInt64} {item : BatchItem} {cache after : ReplayCache}

/-- An authentic item is accepted if its nonce can be remembered, any other is refused and
    leaves the cache alone. -/
theorem verify_cases :
    (∀ cache,
      verifyPrivilegeAssertion hmacSha256 sha256 verifierKey item.intent item.assertion nowUnix cache =
        match cache.remember item.assertion.nonceHex (replayExpiresUnix item.assertion) nowUnix with
        | (cache, .error error) => (cache, .error error)
        | (cache, .ok ()) => (cache, .ok (payloadHash sha256 (utf8Bytes item.intent)))) ∨
    ∃ error, error ≠ .replayProtectionSaturated ∧ ∀ cache,
      verifyPrivilegeAssertion hmacSha256 sha256 verifierKey item.intent item.assertion nowUnix cache =
        (cache, .error error) := by
  unfold verifyPrivilegeAssertion
  cases timeIsValid item.assertion nowUnix with
  | false => exact .inr ⟨.invalidTime, by simp, by simp⟩
  | true =>
    cases decodeNonce item.assertion.nonceHex with
    | none => exact .inr ⟨.invalidNonce, by simp, by simp⟩
    | some nonce =>
      cases authentic : constantTimeEq
        (utf8Bytes (signPrivilegeAssertion hmacSha256 verifierKey
          (payloadHash sha256 (utf8Bytes item.intent)) nonce item.assertion.issuedUnix
          item.assertion.expiresUnix).assertionHex)
        (utf8Bytes item.assertion.assertionHex) with
      | false => exact .inr ⟨.invalidAssertion, by simp, by simp [authentic]⟩
      | true =>
        left
        intro cache
        rw [if_neg (by simp)]
        simp only [authentic]
        rfl

theorem accepts_purgeExpired :
    Accepts hmacSha256 sha256 verifierKey nowUnix item (cache.purgeExpired nowUnix) ↔
      Accepts hmacSha256 sha256 verifierKey nowUnix item cache := by
  unfold Accepts
  rcases verify_cases with remembers | ⟨error, -, refuses⟩
  · rw [remembers, remembers, ReplayCache.remember_purgeExpired]
  · rw [refuses, refuses]

theorem verify_error {error : PrivilegeAssertionError}
    (refused : verifyPrivilegeAssertion hmacSha256 sha256 verifierKey item.intent item.assertion
      nowUnix cache = (after, .error error)) :
    (after = cache ∨ after = cache.purgeExpired nowUnix) ∧
      (error = .replayProtectionSaturated → cache.Saturated nowUnix) := by
  rcases verify_cases with remembers | ⟨other, soft, refuses⟩
  · rw [remembers] at refused
    generalize stored : cache.remember item.assertion.nonceHex (replayExpiresUnix item.assertion)
      nowUnix = result at refused
    obtain ⟨purged, error' | passed⟩ := result
    · cases refused
      obtain ⟨same, full⟩ := ReplayCache.remember_error stored
      exact ⟨.inr same, full⟩
    · cases refused
  · rw [refuses] at refused
    cases refused
    exact ⟨.inl rfl, fun hard => absurd hard soft⟩

theorem not_accepts_of_saturated (saturated : cache.Saturated nowUnix) :
    ¬ Accepts hmacSha256 sha256 verifierKey nowUnix item cache := by
  intro accepted
  exact ReplayCache.remember_of_saturated saturated (verify_ok accepted).2.2.1

/-- A nonce that is remembered is not accepted again while it can be presented. -/
theorem not_accepts_of_remembered (valid : nowUnix ≤ expiresUnix)
    (present : cache.seen.lookup item.assertion.nonceHex = some expiresUnix) :
    ¬ Accepts hmacSha256 sha256 verifierKey nowUnix item cache := by
  intro accepted
  have stored := (verify_ok accepted).2.2.1
  rw [ReplayCache.remember_replay valid present] at stored
  cases stored

theorem verifyItems_keeps (valid : nowUnix ≤ expiresUnix)
    (present : cache.seen.lookup nonceHex = some expiresUnix) :
    (verifyItems hmacSha256 sha256 verifierKey nowUnix items cache).1.seen.lookup nonceHex =
      some expiresUnix := by
  induction items generalizing cache with
  | nil => exact present
  | cons item _ ih =>
    have kept : (verifyPrivilegeAssertion hmacSha256 sha256 verifierKey item.intent item.assertion
      nowUnix cache).1.seen.lookup nonceHex = some expiresUnix := verify_keeps valid present
    unfold verifyItems
    generalize verifyPrivilegeAssertion hmacSha256 sha256 verifierKey item.intent item.assertion
      nowUnix cache = result at kept ⊢
    obtain ⟨next, error | hash⟩ := result
    · cases error with
      | replayProtectionSaturated => exact kept
      | _ => exact ih kept
    · exact ih kept

/-- Items that fail on a cache with room have used up the nonce of an acceptable one. -/
theorem verifyItems_error {error : String} (room : ¬ cache.Saturated nowUnix)
    (failed : verifyItems hmacSha256 sha256 verifierKey nowUnix items cache = (after, .error error)) :
    ∃ item ∈ items, Accepts hmacSha256 sha256 verifierKey nowUnix item cache ∧
      ¬ Accepts hmacSha256 sha256 verifierKey nowUnix item after := by
  induction items generalizing cache with
  | nil => cases failed
  | cons item rest ih =>
    unfold verifyItems at failed
    generalize verified : verifyPrivilegeAssertion hmacSha256 sha256 verifierKey item.intent
      item.assertion nowUnix cache = result at failed
    obtain ⟨next, reason | hash⟩ := result
    · obtain ⟨same, full⟩ := verify_error verified
      have later : verifyItems hmacSha256 sha256 verifierKey nowUnix rest next =
          (after, .error error) := by
        cases reason with
        | replayProtectionSaturated => exact absurd (full rfl) room
        | _ => exact report_eq_error.mp failed
      have room : ¬ next.Saturated nowUnix := by
        rcases same with rfl | rfl
        · exact room
        · rwa [ReplayCache.saturated_purgeExpired]
      obtain ⟨consumed, member, before, now⟩ := ih room later
      refine ⟨consumed, List.mem_cons_of_mem item member, ?_, now⟩
      rcases same with rfl | rfl
      · exact before
      · exact accepts_purgeExpired.mp before
    · have accepted : Accepts hmacSha256 sha256 verifierKey nowUnix item cache := by
        rw [Accepts, verified]
        rfl
      refine ⟨item, List.mem_cons_self, accepted, ?_⟩
      obtain ⟨inTime, -, stored, stepped⟩ := verify_ok accepted
      have valid := le_replayExpiresUnix inTime
      have present : next.seen.lookup item.assertion.nonceHex =
          some (replayExpiresUnix item.assertion) := by
        rw [verified] at stepped
        simp only at stepped
        rw [stepped]
        exact ReplayCache.remember_ok (Prod.ext rfl stored)
      have kept : (verifyItems hmacSha256 sha256 verifierKey nowUnix rest next).1.seen.lookup
          item.assertion.nonceHex = some (replayExpiresUnix item.assertion) :=
        verifyItems_keeps valid present
      rw [report_eq_error.mp failed] at kept
      exact not_accepts_of_remembered valid kept

/-- A batch that fails leaves every acceptable assertion acceptable exactly if its
    request identifiers are refused, no verifier key can be read or the cache was full to begin
    with. -/
theorem failed_batch_consumes_nothing_iff (hmacSha256 : List UInt8 → List UInt8 → List UInt8)
    (sha256 : List UInt8 → List UInt8) (verifierKeyHex : Option String) (items : List BatchItem)
    (nowUnix : UInt64) (cache after : ReplayCache) (error : String)
    (failed : verifyGatewayPrivileges hmacSha256 sha256 verifierKeyHex items nowUnix cache =
      (after, .error error)) :
    (∀ verifierKey, decodeVerifierKey verifierKeyHex = .ok verifierKey → ∀ item ∈ items,
      Accepts hmacSha256 sha256 verifierKey nowUnix item cache →
      Accepts hmacSha256 sha256 verifierKey nowUnix item after) ↔
    (validateGatewayControlBatch (items.map (·.requestId)) "privilege_verification_batch" ≠ .ok () ∨
      (∀ verifierKey, decodeVerifierKey verifierKeyHex ≠ .ok verifierKey) ∨
      cache.Saturated nowUnix) := by
  unfold verifyGatewayPrivileges at failed
  split at failed
  next refused =>
    cases failed
    exact ⟨fun _ => .inl (by simp [refused]), fun _ _ _ _ _ accepted => accepted⟩
  next wellFormed =>
    split at failed
    next missing =>
      cases failed
      exact ⟨fun _ => .inr (.inl (by simp [missing])), fun _ _ _ _ _ accepted => accepted⟩
    next verifierKey decoded =>
      constructor
      · intro harmless
        refine .inr (.inr ?_)
        by_contra room
        obtain ⟨item, member, before, now⟩ := verifyItems_error room failed
        exact now (harmless verifierKey decoded item member before)
      · rintro (refused | missing | full) _ _ item _ accepted
        · exact absurd wellFormed refused
        · exact absurd decoded (missing verifierKey)
        · exact absurd accepted (not_accepts_of_saturated full)

end Verify

/-- HMAC-SHA256 of the messages that `sampleItem` authenticates, under `sampleKey`. -/
def sampleItemHmac (_ message : List UInt8) : List UInt8 :=
  if message.getD 116 0 = 1 then
    [64, 159, 30, 52, 252, 130, 151, 23, 179, 137, 29, 243, 180, 24, 202, 133,
      253, 87, 26, 28, 225, 55, 72, 251, 180, 100, 138, 21, 230, 246, 250, 80]
  else
    [181, 44, 130, 200, 44, 84, 210, 79, 254, 230, 93, 83, 225, 180, 234, 163,
      72, 187, 34, 42, 184, 217, 95, 126, 218, 124, 3, 93, 19, 3, 59, 237]

/-- An item whose nonce ends in one of the bytes 1 and 2. -/
def sampleItem (requestId : String) (last : UInt8) : BatchItem where
  requestId := requestId
  intent := "reboot"
  assertion := signPrivilegeAssertion sampleItemHmac sampleKey
    (payloadHash sampleSha256 (utf8Bytes "reboot"))
    [0xab, 0, 0, 0, 0, 0, 0, 0, 0, 0, 0, 0, 0, 0, 0, last] 1000 1060

def sampleKeyHex : String := String.ofList (Hex.encode sampleKey)

/-- With one free place, a batch of two valid items fails, and the first of them cannot be
    presented again. -/
theorem failed_batch_consumes_nonce :
    let cache := ReplayCache.new 1
    let (after, result) := verifyGatewayPrivileges sampleItemHmac sampleSha256 (some sampleKeyHex)
      [sampleItem "a" 1, sampleItem "b" 2] 1010 cache
    result = .error "privilege_assertion_ReplayProtectionSaturated" ∧
      Accepts sampleItemHmac sampleSha256 sampleKey 1010 (sampleItem "a" 1) cache ∧
      ¬ Accepts sampleItemHmac sampleSha256 sampleKey 1010 (sampleItem "a" 1) after := by
  decide

/-- A cache that is full to begin with loses nothing to a failed batch. -/
theorem failed_batch_on_full_cache :
    let full := (ReplayCache.new 1).remember "00" 1300 1010
    let outcome := verifyGatewayPrivileges sampleItemHmac sampleSha256 (some sampleKeyHex)
      [sampleItem "a" 1, sampleItem "b" 2] 1010 full.1
    outcome.2 = .error "privilege_assertion_ReplayProtectionSaturated" ∧
      ∀ verifierKey, decodeVerifierKey (some sampleKeyHex) = .ok verifierKey →
        ∀ item ∈ [sampleItem "a" 1, sampleItem "b" 2],
          Accepts sampleItemHmac sampleSha256 verifierKey 1010 item full.1 →
          Accepts sampleItemHmac sampleSha256 verifierKey 1010 item outcome.1 := by
  have failed : (verifyGatewayPrivileges sampleItemHmac sampleSha256 (some sampleKeyHex)
      [sampleItem "a" 1, sampleItem "b" 2] 1010
      ((ReplayCache.new 1).remember "00" 1300 1010).1).2 =
        .error "privilege_assertion_ReplayProtectionSaturated" := by decide
  have full : ((ReplayCache.new 1).remember "00" 1300 1010).1.Saturated 1010 := by
    unfold ReplayCache.Saturated
    decide
  exact ⟨failed, (failed_batch_consumes_nothing_iff _ _ _ _ _ _ _ _ (Prod.ext rfl failed)).mpr
    (.inr (.inr full))⟩

end Vpsman.Security

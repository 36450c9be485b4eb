import Vpsman.Lib.HashMap
import Vpsman.Lib.Hex
import Vpsman.Lib.Word

/-! # Privilege assertions and their replay cache

An assertion authenticates an intent together with a nonce, an issue time and an
expiry time. The hash functions are parameters. Nothing here depends on them: replay
protection has to come from the cache alone, since whoever replays an assertion
presents a valid one.
-/

namespace Vpsman.Security

open Vpsman.Lib

def maxPrivilegeAssertionAgeSecs : UInt64 := 300

def maxPrivilegeAssertionClockSkewSecs : UInt64 := 60

structure PrivilegeAssertion where
  nonceHex : String
  issuedUnix : UInt64
  expiresUnix : UInt64
  assertionHex : String
  deriving Repr, DecidableEq

inductive PrivilegeAssertionError where
  | invalidNonce
  | invalidTime
  | invalidAssertion
  | replay
  | replayProtectionSaturated
  deriving Repr, DecidableEq

/-- Nonces as they were spelled, with the last second at which each could be presented. -/
structure ReplayCache where
  seen : HashMap String UInt64
  order : List (String × UInt64)
  maxEntries : Nat

namespace ReplayCache

def new (maxEntries : Nat) : ReplayCache where
  seen := ∅
  order := []
  maxEntries := max maxEntries 1

/-- Walk the insertion order, dropping expired nonces from both tables. -/
def purge (nowUnix : UInt64) : List (String × UInt64) → HashMap String UInt64 →
    List (String × UInt64) × HashMap String UInt64
  | [], seen => ([], seen)
  | (nonceHex, expiresUnix) :: rest, seen =>
    if expiresUnix < nowUnix then
      purge nowUnix rest
        (if seen.lookup nonceHex = some expiresUnix then seen.erase nonceHex else seen)
    else
      let (active, seen) := purge nowUnix rest seen
      ((nonceHex, expiresUnix) :: active, seen)

def purgeExpired (cache : ReplayCache) (nowUnix : UInt64) : ReplayCache :=
  let (active, seen) := purge nowUnix cache.order cache.seen
  { cache with order := active, seen := seen }

def remember (cache : ReplayCache) (nonceHex : String) (expiresUnix nowUnix : UInt64) :
    ReplayCache × Except PrivilegeAssertionError Unit :=
  let cache := cache.purgeExpired nowUnix
  if (cache.seen.lookup nonceHex).isSome then (cache, .error .replay)
  else if cache.maxEntries ≤ cache.seen.entries.length then
    -- an unexpired nonce is never evicted: that would open a replay window
    (cache, .error .replayProtectionSaturated)
  else
    ({ cache with
        seen := cache.seen.insert nonceHex expiresUnix
        order := cache.order ++ [(nonceHex, expiresUnix)] }, .ok ())

variable {nonceHex : String} {nowUnix expiresUnix : UInt64}

theorem purge_keeps (valid : nowUnix ≤ expiresUnix) (order : List (String × UInt64))
    {seen : HashMap String UInt64} (present : seen.lookup nonceHex = some expiresUnix) :
    (purge nowUnix order seen).2.lookup nonceHex = some expiresUnix := by
  induction order generalizing seen with
  | nil => exact present
  | cons entry _ ih =>
    obtain ⟨other, otherExpires⟩ := entry
    simp only [purge]
    split
    next expired =>
      apply ih
      split
      next stored =>
        rw [HashMap.lookup_erase_eq, if_neg, present]
        rintro rfl
        rw [present, Option.some_inj] at stored
        exact absurd (stored ▸ expired) (UInt64.not_lt.mpr valid)
      · exact present
    · exact ih present

variable {cache : ReplayCache}

theorem purgeExpired_keeps (valid : nowUnix ≤ expiresUnix)
    (present : cache.seen.lookup nonceHex = some expiresUnix) :
    (cache.purgeExpired nowUnix).seen.lookup nonceHex = some expiresUnix :=
  purge_keeps valid cache.order present

theorem remember_keeps
    (valid : nowUnix ≤ expiresUnix) (present : cache.seen.lookup nonceHex = some expiresUnix) :
    (cache.remember other otherExpires nowUnix).1.seen.lookup nonceHex = some expiresUnix := by
  have kept := purgeExpired_keeps valid present
  unfold remember
  dsimp only
  split
  · exact kept
  next absent =>
    split
    · exact kept
    · rw [HashMap.lookup_insert_eq, if_neg, kept]
      rintro rfl
      rw [kept] at absent
      exact absurd rfl absent

theorem remember_replay (valid : nowUnix ≤ expiresUnix)
    (present : cache.seen.lookup nonceHex = some expiresUnix) :
    (cache.remember nonceHex otherExpires nowUnix).2 = .error .replay := by
  have kept := purgeExpired_keeps valid present
  unfold remember
  dsimp only
  rw [kept]
  rfl

theorem remember_ok (stored : cache.remember nonceHex expiresUnix nowUnix = (cache', .ok ())) :
    cache'.seen.lookup nonceHex = some expiresUnix := by
  unfold remember at stored
  dsimp only at stored
  split at stored
  · cases stored
  · split at stored
    · cases stored
    · cases stored
      exact AList.lookup_insert _

end ReplayCache

section Verify

variable (hmacSha256 : List UInt8 → List UInt8 → List UInt8) (sha256 : List UInt8 → List UInt8)

def payloadHash (payload : List UInt8) : String := String.ofList (Hex.encode (sha256 payload))

def signPrivilegeAssertion (verifierKey : List UInt8) (intentHashHex : String)
    (nonce : List UInt8) (issuedUnix expiresUnix : UInt64) : PrivilegeAssertion where
  nonceHex := String.ofList (Hex.encode nonce)
  issuedUnix := issuedUnix
  expiresUnix := expiresUnix
  assertionHex := String.ofList <| Hex.encode <| hmacSha256 verifierKey <|
    utf8Bytes "vpsman-gateway-privilege-assertion-v1" ++ utf8Bytes intentHashHex ++ nonce ++
      toBeBytes issuedUnix ++ toBeBytes expiresUnix

def constantTimeEq (a b : List UInt8) : Bool :=
  a.length = b.length && (a.zip b).foldl (fun acc pair => acc ||| (pair.1 ^^^ pair.2)) 0 = 0

/-- The nonce an assertion carries: sixteen bytes in hexadecimal, in either case. -/
def decodeNonce (nonceHex : String) : Option (List UInt8) :=
  match Hex.decode nonceHex.toList with
  | some nonce => if nonce.length = 16 then some nonce else none
  | none => none

def timeIsValid (assertion : PrivilegeAssertion) (nowUnix : UInt64) : Bool :=
  !(assertion.expiresUnix < assertion.issuedUnix || assertion.expiresUnix < nowUnix ||
    assertion.issuedUnix > saturatingAdd nowUnix maxPrivilegeAssertionClockSkewSecs ||
    saturatingSub nowUnix assertion.issuedUnix > maxPrivilegeAssertionAgeSecs)

/-- The last second at which the assertion passes the time check. -/
def replayExpiresUnix (assertion : PrivilegeAssertion) : UInt64 :=
  let aged := saturatingAdd assertion.issuedUnix maxPrivilegeAssertionAgeSecs
  if aged ≤ assertion.expiresUnix then aged else assertion.expiresUnix

def verifyPrivilegeAssertion (verifierKey : List UInt8) (intent : String)
    (assertion : PrivilegeAssertion) (nowUnix : UInt64) (cache : ReplayCache) :
    ReplayCache × Except PrivilegeAssertionError String :=
  if !timeIsValid assertion nowUnix then (cache, .error .invalidTime)
  else
    match decodeNonce assertion.nonceHex with
    | none => (cache, .error .invalidNonce)
    | some nonce =>
      let intentHashHex := payloadHash sha256 (utf8Bytes intent)
      let expected := signPrivilegeAssertion hmacSha256 verifierKey intentHashHex nonce
        assertion.issuedUnix assertion.expiresUnix
      if !constantTimeEq (utf8Bytes expected.assertionHex) (utf8Bytes assertion.assertionHex) then
        (cache, .error .invalidAssertion)
      else
        match cache.remember assertion.nonceHex (replayExpiresUnix assertion) nowUnix with
        | (cache, .error error) => (cache, .error error)
        | (cache, .ok ()) => (cache, .ok intentHashHex)

structure VerifyCall where
  intent : String
  assertion : PrivilegeAssertion
  nowUnix : UInt64
  deriving Repr, DecidableEq

/-- What a successful call authenticates. -/
def VerifyCall.authenticated (call : VerifyCall) : String × Option (List UInt8) × UInt64 × UInt64 :=
  (call.intent, decodeNonce call.assertion.nonceHex, call.assertion.issuedUnix,
    call.assertion.expiresUnix)

/-- Perform the calls one after another on one cache and pair each with its success. -/
def verifyAll (verifierKey : List UInt8) : List VerifyCall → ReplayCache → List (VerifyCall × Bool)
  | [], _ => []
  | call :: rest, cache =>
    let (cache, result) := verifyPrivilegeAssertion hmacSha256 sha256 verifierKey call.intent
      call.assertion call.nowUnix cache
    (call, result.isOk) :: verifyAll verifierKey rest cache

/-- No two successful calls authenticate the same tuple. -/
def NoReplay (calls : List (VerifyCall × Bool)) : Prop :=
  calls.Pairwise fun earlier later =>
    earlier.2 = true → later.2 = true → earlier.1.authenticated ≠ later.1.authenticated

/-- Whenever two calls carry the same well-formed tuple they spell its nonce alike. -/
def NonceSpelledAlike (calls : List VerifyCall) : Prop :=
  calls.Pairwise fun earlier later =>
    (decodeNonce earlier.assertion.nonceHex).isSome → earlier.authenticated = later.authenticated →
      earlier.assertion.nonceHex = later.assertion.nonceHex

variable {assertion : PrivilegeAssertion} {nowUnix : UInt64}

/-- A cache entry lives at least as long as its assertion passes the time check. -/
theorem le_replayExpiresUnix (valid : timeIsValid assertion nowUnix = true) :
    nowUnix ≤ replayExpiresUnix assertion := by
  simp only [timeIsValid, Bool.not_eq_true', Bool.or_eq_false_iff, decide_eq_false_iff_not,
    UInt64.not_lt, gt_iff_lt] at valid
  obtain ⟨⟨⟨_, unexpired⟩, _⟩, young⟩ := valid
  have aged : nowUnix ≤ saturatingAdd assertion.issuedUnix maxPrivilegeAssertionAgeSecs := by
    rw [UInt64.le_iff_toNat_le, toNat_saturatingSub] at young
    rw [UInt64.le_iff_toNat_le, toNat_saturatingAdd]
    have bound := nowUnix.toNat_lt
    simp only [u64Max]
    omega
  unfold replayExpiresUnix
  dsimp only
  split
  · exact aged
  · exact unexpired

variable {hmacSha256 sha256} {verifierKey : List UInt8}

/-- Only a call that passes the time check and carries a new nonce can succeed. -/
theorem verify_ok (ok : (verifyPrivilegeAssertion hmacSha256 sha256 verifierKey intent
      assertion nowUnix cache).2.isOk = true) :
    timeIsValid assertion nowUnix = true ∧ (decodeNonce assertion.nonceHex).isSome ∧
      (cache.remember assertion.nonceHex (replayExpiresUnix assertion) nowUnix).2 = .ok () ∧
      (verifyPrivilegeAssertion hmacSha256 sha256 verifierKey intent assertion nowUnix cache).1 =
        (cache.remember assertion.nonceHex (replayExpiresUnix assertion) nowUnix).1 := by
  unfold verifyPrivilegeAssertion at ok ⊢
  split at ok
  · cases ok
  next inTime =>
    rw [Bool.not_eq_true, Bool.not_eq_false'] at inTime
    split at ok
    · cases ok
    next nonce decoded =>
      dsimp only at ok ⊢
      split at ok
      · cases ok
      next authentic =>
        split at ok
        · cases ok
        next after remembered =>
          simp [inTime, decoded, authentic, remembered]

theorem verify_keeps (valid : nowUnix ≤ expiresUnix)
    (present : cache.seen.lookup nonceHex = some expiresUnix) :
    (verifyPrivilegeAssertion hmacSha256 sha256 verifierKey intent assertion nowUnix
      cache).1.seen.lookup nonceHex = some expiresUnix := by
  have kept : ∀ expires, (cache.remember assertion.nonceHex expires nowUnix).1.seen.lookup
      nonceHex = some expiresUnix :=
    fun expires => ReplayCache.remember_keeps valid present
  unfold verifyPrivilegeAssertion
  split
  · exact present
  split
  · exact present
  dsimp only
  split
  · exact present
  have stored := kept (replayExpiresUnix assertion)
  split
  next remembered =>
    rw [remembered] at stored
    exact stored
  next remembered =>
    rw [remembered] at stored
    exact stored

theorem verifyAll_ok :
    ∀ {calls : List VerifyCall} {cache : ReplayCache},
      later ∈ verifyAll hmacSha256 sha256 verifierKey calls cache →
      later.1 ∈ calls ∧ (later.2 = true →
        timeIsValid later.1.assertion later.1.nowUnix = true ∧
          (decodeNonce later.1.assertion.nonceHex).isSome) := by
  intro calls
  induction calls with
  | nil =>
    intro cache member
    exact absurd member List.not_mem_nil
  | cons call _ ih =>
    intro cache member
    rcases List.mem_cons.mp member with rfl | member
    · refine ⟨List.mem_cons_self, fun ok => ?_⟩
      obtain ⟨inTime, decoded, _⟩ := verify_ok ok
      exact ⟨inTime, decoded⟩
    · obtain ⟨present, valid⟩ := ih member
      exact ⟨List.mem_cons_of_mem call present, valid⟩

/-- Once an assertion's nonce is remembered, no later call succeeds with the same spelling
    and the same times: while the entry is in the cache it is found there, and after the entry
    has been purged the assertion is too old. -/
theorem verifyAll_refuses {first : VerifyCall} :
    ∀ {calls : List VerifyCall} {cache : ReplayCache},
      (calls.Pairwise fun earlier later => earlier.nowUnix ≤ later.nowUnix) →
      cache.seen.lookup first.assertion.nonceHex = some (replayExpiresUnix first.assertion) →
      ∀ later ∈ verifyAll hmacSha256 sha256 verifierKey calls cache, later.2 = true →
        later.1.assertion.issuedUnix = first.assertion.issuedUnix →
        later.1.assertion.expiresUnix = first.assertion.expiresUnix →
        later.1.assertion.nonceHex ≠ first.assertion.nonceHex := by
  intro calls
  induction calls with
  | nil =>
    intro cache _ _ later member
    exact absurd member List.not_mem_nil
  | cons call _ ih =>
    intro cache sorted present later member ok issued expires
    obtain ⟨after, sorted⟩ := List.pairwise_cons.mp sorted
    by_cases alive : call.nowUnix ≤ replayExpiresUnix first.assertion
    · simp only [verifyAll] at member
      rcases List.mem_cons.mp member with rfl | member
      · intro spelled
        obtain ⟨_, _, remembered, _⟩ := verify_ok ok
        rw [spelled, ReplayCache.remember_replay alive present] at remembered
        cases remembered
      · exact ih sorted (verify_keeps alive present) later member ok issued expires
    · obtain ⟨listed, valid⟩ := verifyAll_ok member
      have fresh := le_replayExpiresUnix (valid ok).1
      have same : replayExpiresUnix later.1.assertion = replayExpiresUnix first.assertion := by
        simp [replayExpiresUnix, issued, expires]
      have notBefore : call.nowUnix ≤ later.1.nowUnix := by
        rcases List.mem_cons.mp listed with rfl | listed
        · exact UInt64.le_refl _
        · exact after later.1 listed
      exact absurd (UInt64.le_trans notBefore (same ▸ fresh)) alive

/-- For every key, capacity and sequence of calls at nondecreasing times, no assertion is
    accepted twice, provided that equal tuples spell their nonce alike. -/
theorem accepted_once_when_spelled_alike (hmacSha256 : List UInt8 → List UInt8 → List UInt8)
    (sha256 : List UInt8 → List UInt8) (verifierKey : List UInt8) (cache : ReplayCache)
    (calls : List VerifyCall)
    (sorted : calls.Pairwise fun earlier later => earlier.nowUnix ≤ later.nowUnix)
    (alike : NonceSpelledAlike calls) :
    NoReplay (verifyAll hmacSha256 sha256 verifierKey calls cache) := by
  induction calls generalizing cache with
  | nil => exact List.Pairwise.nil
  | cons _ _ ih =>
    obtain ⟨_, sortedRest⟩ := List.pairwise_cons.mp sorted
    obtain ⟨spelled, alikeRest⟩ := List.pairwise_cons.mp alike
    simp only [verifyAll, NoReplay, List.pairwise_cons]
    refine ⟨?_, ih _ sortedRest alikeRest⟩
    intro later member okFirst okLater same
    obtain ⟨_, decoded, remembered, after⟩ := verify_ok okFirst
    have present := ReplayCache.remember_ok (Prod.ext rfl remembered)
    have tuple := same
    simp only [VerifyCall.authenticated, Prod.mk.injEq] at tuple
    obtain ⟨_, _, issued, expires⟩ := tuple
    have listed := (verifyAll_ok member).1
    refine verifyAll_refuses sortedRest ?_ later member okLater issued.symm expires.symm
      (spelled later.1 listed decoded same).symm
    rw [after]
    exact present

/-- The same assertion with its nonce spelled differently. -/
def PrivilegeAssertion.respell (assertion : PrivilegeAssertion) (nonceHex : String) :
    PrivilegeAssertion :=
  { assertion with nonceHex := nonceHex }

namespace PrivilegeAssertion

variable (assertion : PrivilegeAssertion) (nonceHex : String)

@[simp] theorem respell_nonceHex : (assertion.respell nonceHex).nonceHex = nonceHex := rfl

@[simp] theorem respell_issuedUnix :
    (assertion.respell nonceHex).issuedUnix = assertion.issuedUnix := rfl

@[simp] theorem respell_expiresUnix :
    (assertion.respell nonceHex).expiresUnix = assertion.expiresUnix := rfl

@[simp] theorem respell_assertionHex :
    (assertion.respell nonceHex).assertionHex = assertion.assertionHex := rfl

end PrivilegeAssertion

@[simp] theorem timeIsValid_respell :
    timeIsValid (assertion.respell nonceHex) nowUnix = timeIsValid assertion nowUnix := rfl

@[simp] theorem replayExpiresUnix_respell :
    replayExpiresUnix (assertion.respell nonceHex) = replayExpiresUnix assertion := rfl

/-- An accepted assertion is as good as remembering its nonce under any spelling. -/
theorem verify_respelled
    (ok : (verifyPrivilegeAssertion hmacSha256 sha256 verifierKey intent assertion nowUnix
      cache).2.isOk = true) (same : decodeNonce nonceHex = decodeNonce assertion.nonceHex)
    (remembered : (cache'.remember nonceHex (replayExpiresUnix assertion) nowUnix).2 = .ok ()) :
    (verifyPrivilegeAssertion hmacSha256 sha256 verifierKey intent (assertion.respell nonceHex)
      nowUnix cache').2.isOk = true := by
  obtain ⟨after, stored⟩ : ∃ after, cache'.remember nonceHex (replayExpiresUnix assertion)
      nowUnix = (after, .ok ()) := ⟨_, Prod.ext rfl remembered⟩
  unfold verifyPrivilegeAssertion at ok ⊢
  split at ok
  · cases ok
  next inTime =>
    rw [timeIsValid_respell, if_neg inTime]
    split at ok
    · cases ok
    next nonce decoded =>
      dsimp only at ok
      split at ok
      · cases ok
      next authentic =>
        rw [decoded] at same
        simp only [PrivilegeAssertion.respell_nonceHex, PrivilegeAssertion.respell_issuedUnix,
          PrivilegeAssertion.respell_expiresUnix, PrivilegeAssertion.respell_assertionHex,
          replayExpiresUnix_respell, same, authentic, stored]
        rfl

/-- The spelling condition is needed: whatever the hash functions are, an assertion that a
    fresh cache accepts is accepted again under every other spelling of its nonce. -/
theorem respelled_assertion_accepted_again (room : 2 ≤ capacity)
    (ok : (verifyPrivilegeAssertion hmacSha256 sha256 verifierKey intent assertion nowUnix
      (ReplayCache.new capacity)).2.isOk = true)
    (same : decodeNonce nonceHex = decodeNonce assertion.nonceHex)
    (different : nonceHex ≠ assertion.nonceHex) :
    ¬ NoReplay (verifyAll hmacSha256 sha256 verifierKey
      [⟨intent, assertion, nowUnix⟩, ⟨intent, assertion.respell nonceHex, nowUnix⟩]
      (ReplayCache.new capacity)) := by
  obtain ⟨inTime, _, _, after⟩ := verify_ok ok
  have unexpired : ¬ replayExpiresUnix assertion < nowUnix :=
    UInt64.not_lt.mpr (le_replayExpiresUnix inTime)
  have limit : ¬ max capacity 1 ≤ 0 := by omega
  have spare : ¬ max capacity 1 ≤ 1 := by omega
  have first : (ReplayCache.new capacity).remember assertion.nonceHex
      (replayExpiresUnix assertion) nowUnix =
      (⟨AList.insert assertion.nonceHex (replayExpiresUnix assertion) ∅,
        [(assertion.nonceHex, replayExpiresUnix assertion)], max capacity 1⟩, .ok ()) := by
    simp [ReplayCache.remember, ReplayCache.purgeExpired, ReplayCache.purge, ReplayCache.new]
  have again : (((ReplayCache.new capacity).remember assertion.nonceHex
      (replayExpiresUnix assertion) nowUnix).1.remember nonceHex (replayExpiresUnix assertion)
      nowUnix).2 = .ok () := by
    have absent : (AList.singleton assertion.nonceHex (replayExpiresUnix assertion) :
        HashMap String UInt64).lookup nonceHex = none := by
      rw [← AList.insert_empty, HashMap.lookup_insert_eq, if_neg different, AList.lookup_empty]
    rw [first]
    simp [ReplayCache.remember, ReplayCache.purgeExpired, ReplayCache.purge, unexpired,
      absent,
      spare]
  intro noReplay
  simp only [verifyAll, NoReplay, List.pairwise_cons, List.mem_cons, forall_eq_or_imp] at noReplay
  refine noReplay.1.1 ok ?_ ?_
  · rw [after]
    exact verify_respelled ok same again
  · simp [VerifyCall.authenticated, same]

end Verify

def sampleKey : List UInt8 := List.replicate 32 7

/-- SHA-256 of the text `reboot`. -/
def sampleSha256 (_ : List UInt8) : List UInt8 :=
  [146, 191, 142, 168, 118, 218, 40, 85, 250, 205, 158, 23, 110, 72, 19, 100,
    169, 225, 215, 9, 201, 187, 254, 110, 43, 216, 16, 155, 207, 126, 210, 10]

/-- HMAC-SHA256 of the message that `sampleAssertion` authenticates, under `sampleKey`. -/
def sampleHmac (_ _ : List UInt8) : List UInt8 :=
  [64, 159, 30, 52, 252, 130, 151, 23, 179, 137, 29, 243, 180, 24, 202, 133,
    253, 87, 26, 28, 225, 55, 72, 251, 180, 100, 138, 21, 230, 246, 250, 80]

def sampleAssertion : PrivilegeAssertion :=
  signPrivilegeAssertion sampleHmac sampleKey (payloadHash sampleSha256 (utf8Bytes "reboot"))
    [0xab, 0, 0, 0, 0, 0, 0, 0, 0, 0, 0, 0, 0, 0, 0, 1] 1000 1060

/-- Replay protection fails when the nonce of a valid assertion is presented again with its
    letters in upper case. -/
theorem respelled_nonce_replays :
    ¬ ∀ (hmacSha256 : List UInt8 → List UInt8 → List UInt8) (sha256 : List UInt8 → List UInt8)
      (verifierKey : List UInt8) (capacity : Nat) (calls : List VerifyCall),
      (calls.Pairwise fun earlier later => earlier.nowUnix ≤ later.nowUnix) →
      NoReplay (verifyAll hmacSha256 sha256 verifierKey calls (ReplayCache.new capacity)) := by
  intro noReplay
  have accepted : (verifyPrivilegeAssertion sampleHmac sampleSha256 sampleKey "reboot"
      sampleAssertion 1010 (ReplayCache.new 4096)).2.isOk = true := by decide
  have same : decodeNonce "AB000000000000000000000000000001" =
      decodeNonce sampleAssertion.nonceHex := by decide
  have different : "AB000000000000000000000000000001" ≠ sampleAssertion.nonceHex := by decide
  refine respelled_assertion_accepted_again (by omega) accepted same different
    (noReplay sampleHmac sampleSha256 sampleKey 4096 _ ?_)
  simp

/-- Presented twice in one spelling, the sample is accepted once. -/
theorem same_spelling_accepted_once :
    (verifyAll sampleHmac sampleSha256 sampleKey
        [⟨"reboot", sampleAssertion, 1010⟩, ⟨"reboot", sampleAssertion, 1020⟩]
        (ReplayCache.new 4096)).map Prod.snd = [true, false] ∧
    NoReplay (verifyAll sampleHmac sampleSha256 sampleKey
      [⟨"reboot", sampleAssertion, 1010⟩, ⟨"reboot", sampleAssertion, 1020⟩]
      (ReplayCache.new 4096)) := by
  refine ⟨by decide, accepted_once_when_spelled_alike _ _ _ _ _ ?_ ?_⟩
  · simp
  · simp [NonceSpelledAlike]

end Vpsman.Security

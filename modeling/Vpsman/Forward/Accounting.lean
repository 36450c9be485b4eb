import Vpsman.Forward.SpoolFile
import Vpsman.Forward.TargetIndex
import Vpsman.Lib.Totals

/-! # Accounting of the spool's disk space

The spool counts the bytes of its files and the files of each target. A file is paid for
before it is written and recorded when it has its final name; it leaves the books when it
was delivered and deleted, when it is quarantined, or when writing it failed. Deletes that
fail are retried later.
-/

namespace Vpsman.Forward

open Vpsman.Lib

structure GatewaySpoolConfig where
  enabled : Bool
  diskMaxBytes : Nat

structure GatewaySpoolFileAccounting where
  diskBytes : Nat
  targetKey : String
  deriving DecidableEq, Repr

/-! ## The books -/

structure SpoolAccounts where
  diskBytes : Nat := 0
  accountedSpoolFiles : HashMap Text GatewaySpoolFileAccounting := ∅
  pendingTargetCounts : HashMap String Nat := ∅

def decrementPendingTargetCount (counts : HashMap String Nat) (targetKey : String) :
    HashMap String Nat :=
  match counts.lookup targetKey with
  | none => counts
  | some count =>
    if count - 1 = 0 then counts.erase targetKey else counts.insert targetKey (count - 1)

def incrementPendingTargetCount (counts : HashMap String Nat) (targetKey : String) :
    HashMap String Nat :=
  counts.insert targetKey ((counts.lookup targetKey).getD 0 + 1)

namespace SpoolAccounts

def releaseDisk (accounts : SpoolAccounts) (bytes : Nat) : SpoolAccounts :=
  { accounts with diskBytes := accounts.diskBytes - bytes }

def addDiskAccounting (accounts : SpoolAccounts) (bytes : Nat) : Option SpoolAccounts :=
  if bytes = 0 then some accounts
  else (checkedAdd accounts.diskBytes bytes).map fun next => { accounts with diskBytes := next }

def tryReserveDisk (config : GatewaySpoolConfig) (accounts : SpoolAccounts) (bytes : Nat) :
    Option SpoolAccounts :=
  (checkedAdd accounts.diskBytes (max bytes 1)).bind fun next =>
    if next ≤ config.diskMaxBytes then some { accounts with diskBytes := next } else none

def accountSpooledFileAfterReserve (accounts : SpoolAccounts) (path : Text) (diskBytes : Nat)
    (targetKey : String) : SpoolAccounts :=
  let previous := accounts.accountedSpoolFiles.lookup path
  let accounts := { accounts with
    accountedSpoolFiles := accounts.accountedSpoolFiles.insert path ⟨max diskBytes 1, targetKey⟩ }
  let accounts := match previous with
    | some previous =>
      { accounts.releaseDisk previous.diskBytes with
        pendingTargetCounts :=
          decrementPendingTargetCount accounts.pendingTargetCounts previous.targetKey }
    | none => accounts
  { accounts with
    pendingTargetCounts := incrementPendingTargetCount accounts.pendingTargetCounts targetKey }

/-- No result if the counter would overflow; the books are unchanged then. -/
def accountExistingSpooledFile (accounts : SpoolAccounts) (path : Text) (diskBytes : Nat)
    (targetKey : String) : Option SpoolAccounts :=
  let diskBytes := max diskBytes 1
  match accounts.accountedSpoolFiles.lookup path with
  | some current =>
    if current.diskBytes = diskBytes ∧ current.targetKey = targetKey then some accounts
    else
      let adjusted :=
        if current.diskBytes < diskBytes then
          accounts.addDiskAccounting (diskBytes - current.diskBytes)
        else some (accounts.releaseDisk (current.diskBytes - diskBytes))
      adjusted.map fun accounts => { accounts with
        pendingTargetCounts := incrementPendingTargetCount
          (decrementPendingTargetCount accounts.pendingTargetCounts current.targetKey) targetKey
        accountedSpoolFiles := accounts.accountedSpoolFiles.insert path ⟨diskBytes, targetKey⟩ }
  | none =>
    (accounts.addDiskAccounting diskBytes).map fun accounts => { accounts with
      accountedSpoolFiles := accounts.accountedSpoolFiles.insert path ⟨diskBytes, targetKey⟩
      pendingTargetCounts := incrementPendingTargetCount accounts.pendingTargetCounts targetKey }

def unaccountSpooledFile (accounts : SpoolAccounts) (path : Text) : SpoolAccounts :=
  match accounts.accountedSpoolFiles.lookup path with
  | some accounting =>
    { accounts.releaseDisk accounting.diskBytes with
      accountedSpoolFiles := accounts.accountedSpoolFiles.erase path
      pendingTargetCounts :=
        decrementPendingTargetCount accounts.pendingTargetCounts accounting.targetKey }
  | none => accounts

end SpoolAccounts

/-! ## Deletes to be retried -/

inductive GatewayDeliveredCleanupState
  | ready
  | inFlight
  | dormant
  deriving DecidableEq, Repr

structure GatewayDeliveredCleanupRetry where
  diskBytes : Nat
  state : GatewayDeliveredCleanupState
  deriving DecidableEq, Repr

structure GatewayDeliveredCleanupRetries where
  entries : HashMap Text GatewayDeliveredCleanupRetry := ∅
  ready : List Text := []
  dormant : List Text := []
  inFlight : Option Text := none
  inFlightReactivation : Bool := false

namespace GatewayDeliveredCleanupRetries

def insertReady (retries : GatewayDeliveredCleanupRetries) (path : Text) (diskBytes : Nat) :
    GatewayDeliveredCleanupRetries :=
  if path ∈ retries.entries then retries
  else { retries with
    entries := retries.entries.insert path ⟨diskBytes, .ready⟩
    ready := retries.ready ++ [path] }

def reactivateOne (retries : GatewayDeliveredCleanupRetries) : GatewayDeliveredCleanupRetries :=
  match retries.dormant with
  | path :: dormant =>
    match retries.entries.lookup path with
    | some ⟨diskBytes, .dormant⟩ => { retries with
        dormant
        entries := retries.entries.insert path ⟨diskBytes, .ready⟩
        ready := retries.ready ++ [path] }
    | _ => { retries with dormant }
  | [] =>
    if retries.inFlight.isSome ∧ ¬ retries.inFlightReactivation then
      { retries with inFlightReactivation := true }
    else retries

def takeReady (retries : GatewayDeliveredCleanupRetries) :
    Option (Text × Nat) × GatewayDeliveredCleanupRetries :=
  if retries.inFlight.isSome then (none, retries)
  else
    match retries.ready with
    | [] => (none, retries)
    | path :: ready =>
      match retries.entries.lookup path with
      | some ⟨diskBytes, .ready⟩ =>
        (some (path, diskBytes), { retries with
          ready
          entries := retries.entries.insert path ⟨diskBytes, .inFlight⟩
          inFlight := some path
          inFlightReactivation := false })
      | _ => (none, { retries with ready })

def complete (retries : GatewayDeliveredCleanupRetries) (path : Text) (removed : Bool) :
    Bool × GatewayDeliveredCleanupRetries :=
  if retries.inFlight = some path then
    match retries.entries.lookup path with
    | some ⟨diskBytes, .inFlight⟩ =>
      let reactivate := retries.inFlightReactivation
      let retries := { retries with inFlight := none, inFlightReactivation := false }
      if removed then (true, { retries with entries := retries.entries.erase path })
      else if reactivate then
        (true, { retries with
          entries := retries.entries.insert path ⟨diskBytes, .ready⟩
          ready := retries.ready ++ [path] })
      else
        (true, { retries with
          entries := retries.entries.insert path ⟨diskBytes, .dormant⟩
          dormant := retries.dormant ++ [path] })
    | _ => (false, retries)
  else (false, retries)

inductive Call
  | insertReady (path : Text) (diskBytes : Nat)
  | reactivateOne
  | takeReady
  | complete (path : Text) (removed : Bool)

/-- What the caller knows: the paths inserted and not completed as removed, and the one that
    `takeReady` handed out last, if it was not completed since. -/
structure Account where
  paths : List Text := []
  handedOut : Option Text := none

/-- A completion counts for the path that is handed out. -/
def Account.complete (account : Account) (path : Text) (removed : Bool) : Account :=
  if account.handedOut = some path then
    ⟨if removed then account.paths.filter (· ≠ path) else account.paths, none⟩
  else account

def perform : GatewayDeliveredCleanupRetries × Account → Call →
    GatewayDeliveredCleanupRetries × Account
  | (retries, account), .insertReady path diskBytes =>
    (retries.insertReady path diskBytes, { account with paths := path :: account.paths })
  | (retries, account), .reactivateOne => (retries.reactivateOne, account)
  | (retries, account), .takeReady =>
    match retries.takeReady with
    | (some (path, _), retries) => (retries, { account with handedOut := some path })
    | (none, retries) => (retries, account)
  | (retries, account), .complete path removed =>
    ((retries.complete path removed).2, account.complete path removed)

/-- The queued paths, each with the state it is queued for. -/
def queued (retries : GatewayDeliveredCleanupRetries) : List (Text × GatewayDeliveredCleanupState) :=
  retries.inFlight.toList.map (·, .inFlight) ++ retries.ready.map (·, .ready) ++
    retries.dormant.map (·, .dormant)

/-- The recorded paths, of which none is recorded twice, with their states. -/
def states (entries : HashMap Text GatewayDeliveredCleanupRetry) :
    List (Text × GatewayDeliveredCleanupState) :=
  entries.entries.map fun entry => (entry.1, entry.2.state)

/-- Every recorded path is queued once and for its state, no other is queued, these are the
    paths of the account, and the slot holds the one that is handed out. -/
structure Partitioned (retries : GatewayDeliveredCleanupRetries) (account : Account) : Prop where
  placed : retries.queued.Perm (states retries.entries)
  recorded : ∀ path, path ∈ retries.entries ↔ path ∈ account.paths
  slot : retries.inFlight = account.handedOut

variable {retries : GatewayDeliveredCleanupRetries} {account : Account}

/-- What is queued for a state is recorded with it, and can be queued for another. -/
theorem Partitioned.requeue (partitioned : retries.Partitioned account)
    (first : retries.queued.Perm ((path, state) :: rest)) :
    ∃ diskBytes, retries.entries.lookup path = some ⟨diskBytes, state⟩ ∧
      rest.Perm (states (retries.entries.erase path)) ∧
      ∀ {new} {moved : GatewayDeliveredCleanupRetries},
        moved.entries = retries.entries.insert path ⟨diskBytes, new⟩ →
        moved.queued.Perm ((path, new) :: rest) → moved.Partitioned ⟨account.paths, moved.inFlight⟩ := by
  have all := first.symm.trans partitioned.placed
  obtain ⟨⟨path, diskBytes, state⟩, member, ⟨⟩⟩ := List.mem_map.mp (all.mem_iff.mp List.mem_cons_self)
  have found := AList.mem_lookup_iff.mpr member
  have known := AList.lookup_isSome.mp (Option.isSome_of_mem found)
  have same : retries.entries.entries.Perm (retries.entries.insert path ⟨diskBytes, state⟩).entries :=
    List.lookup_ext retries.entries.nodupKeys (AList.nodupKeys _) fun other retry => by
      change _ ∈ retries.entries.lookup other ↔ _ ∈ (retries.entries.insert _ _).lookup other
      grind [HashMap.lookup_insert_eq, Option.mem_def]
  have erased := (all.trans (same.map _)).cons_inv
  refine ⟨diskBytes, found, erased, fun entries joined =>
    ⟨entries ▸ joined.trans (erased.cons _), ?_, rfl⟩⟩
  grind [partitioned.recorded, AList.mem_insert]

theorem queued_inFlight (mine : retries.inFlight = some path) :
    retries.queued.Perm ((path, .inFlight) :: queued { retries with inFlight := none }) := by
  grind [queued]

/-- A completion is accepted exactly for the path that is handed out. -/
theorem Partitioned.complete_eq_true (partitioned : retries.Partitioned account) :
    (retries.complete path removed).1 = true ↔ account.handedOut = some path := by
  rw [← partitioned.slot, complete]
  split
  next mine =>
    obtain ⟨diskBytes, found, -⟩ := partitioned.requeue (queued_inFlight mine)
    cases removed <;> cases retries.inFlightReactivation <;> simp [found, mine]
  next other => simpa using other

theorem Partitioned.after (partitioned : retries.Partitioned account) (call : Call) :
    (perform (retries, account) call).1.Partitioned (perform (retries, account) call).2 := by
  have recorded := partitioned.recorded
  obtain ⟨paths, handedOut⟩ := account
  obtain rfl : retries.inFlight = handedOut := partitioned.slot
  cases call with
  | insertReady path diskBytes =>
    dsimp only [perform, insertReady]
    split
    · exact ⟨partitioned.placed, by grind, rfl⟩
    next new =>
      refine ⟨?_, by simp [recorded], rfl⟩
      rw [states, AList.entries_insert_of_notMem new]
      exact .trans (by grind [queued]) (partitioned.placed.cons (path, .ready))
  | reactivateOne =>
    dsimp only [perform, reactivateOne]
    split
    next path dormant front =>
      obtain ⟨diskBytes, found, -, requeue⟩ := partitioned.requeue
        (show retries.queued.Perm ((path, .dormant) :: queued { retries with dormant }) by
          grind [queued])
      simp only [found]
      exact requeue rfl (by grind [queued])
    · split
      all_goals exact ⟨partitioned.placed, recorded, rfl⟩
  | takeReady =>
    rw [perform, takeReady]
    split_ifs with idle
    · exact partitioned
    cases front : retries.ready with
    | nil => exact partitioned
    | cons path ready =>
      obtain ⟨diskBytes, found, -, requeue⟩ := partitioned.requeue
        (show retries.queued.Perm ((path, .ready) :: queued { retries with ready, inFlight := none }) by
          simp [queued, front, Option.not_isSome_iff_eq_none.mp idle])
      simp only [found]
      exact requeue rfl (by grind [queued])
  | complete path removed =>
    simp only [perform, complete, Account.complete]
    by_cases mine : retries.inFlight = some path
    · obtain ⟨diskBytes, found, erased, requeue⟩ := partitioned.requeue (queued_inFlight mine)
      simp only [if_pos mine, found]
      cases removed with
      | true => exact ⟨erased, by simp [recorded, and_comm], rfl⟩
      | false =>
        cases retries.inFlightReactivation <;> exact requeue rfl (by grind [queued])
    · simpa only [if_neg mine] using partitioned

/-- Over all calls the deletes to be retried are partitioned by their states, and a completion
    is accepted exactly for the path that is handed out. -/
theorem retries_partitioned (calls : List Call) :
    (calls.foldl perform ({}, {})).1.Partitioned (calls.foldl perform ({}, {})).2 ∧
      ∀ path removed, ((calls.foldl perform ({}, {})).1.complete path removed).1 = true ↔
        (calls.foldl perform ({}, {})).2.handedOut = some path := by
  suffices partitioned :
      (calls.foldl perform ({}, {})).1.Partitioned (calls.foldl perform ({}, {})).2 from
    ⟨partitioned, fun _ _ => partitioned.complete_eq_true⟩
  induction calls using List.reverseRecOn with
  | nil => exact ⟨.refl _, by simp, rfl⟩
  | append_singleton calls call ih =>
    rw [List.foldl_append]
    exact ih.after call

end GatewayDeliveredCleanupRetries

/-! ## The spool -/

inductive GatewaySpoolPublication
  | replayIndex
  | queueHead
  deriving DecidableEq, Repr

/-- The operation that a call of `persist_spool_event` performs next. -/
inductive PersistStage
  | create
  | write
  | sync
  | rename
  | account
  deriving DecidableEq, Repr

def PersistStage.next : PersistStage → PersistStage
  | .create => .write
  | .write => .sync
  | .sync => .rename
  | .rename => .account
  | .account => .account

/-- A call of `persist_spool_event` that has reserved the space for its file. -/
structure PersistCall where
  candidate : GatewayPendingSpoolCandidate String Text
  publication : GatewaySpoolPublication
  stage : PersistStage

structure GatewayForwardSpool where
  accounts : SpoolAccounts := {}
  deliveredCleanupRetries : GatewayDeliveredCleanupRetries := {}
  quarantineRetries : List Text := []
  replayStartup : List (GatewayPendingSpoolCandidate String Text) := []
  replayArrivals : List (GatewayPendingSpoolCandidate String Text) := []
  /-- The retried delete that is waiting for the file system. -/
  cleaning : Option (Text × Nat) := none
  persists : HashMap Nat PersistCall := ∅

inductive Removal
  | removed
  | notFound
  | failed
  deriving DecidableEq, Repr

inductive GatewayQuarantineOutcome
  | removed
  | preserved
  deriving DecidableEq, Repr

namespace GatewayForwardSpool

inductive Action
  /-- The catalogue of the directory, made before anything is replayed. -/
  | bootstrap (candidates : List (GatewayPendingSpoolCandidate String Text))
  | catalogueStartup
  | catalogueArrival
  | persist (call : Nat) (targetKey : String) (event : GatewayForwardEvent) (uuid : Uuid)
      (publication : GatewaySpoolPublication) (directories : Bool)
  /-- The next operation of a call succeeds or fails. -/
  | operate (call : Nat) (succeeds : Bool)
  | removeSpooledFile (path : Text) (diskBytes : Nat) (outcome : Removal)
  | takeCleanup
  | finishCleanup (outcome : Removal)
  | reactivate
  | quarantineOrRetry (path : Text) (outcome : GatewayQuarantineOutcome)
  | takeQuarantineRetries

def insertReplayCandidate (spool : GatewayForwardSpool)
    (candidate : GatewayPendingSpoolCandidate String Text) : GatewayForwardSpool :=
  { spool with accounts :=
      (spool.accounts.accountExistingSpooledFile candidate.path candidate.diskBytes
        candidate.targetKey).getD spool.accounts }

def notifyReplayActivity (spool : GatewayForwardSpool) : GatewayForwardSpool :=
  { spool with deliveredCleanupRetries := spool.deliveredCleanupRetries.reactivateOne }

/-- `persist_spool_event` up to the reservation of the space. -/
def beginPersist (codec : SpoolCodec) (config : GatewaySpoolConfig) (spool : GatewayForwardSpool)
    (call : Nat) (targetKey : String) (event : GatewayForwardEvent) (uuid : Uuid)
    (publication : GatewaySpoolPublication) (directories : Bool) : GatewayForwardSpool :=
  if config.enabled ∧ directories then
    match codec.spoolFileBytes event with
    | .error _ => spool
    | .ok bytes =>
      match spool.accounts.tryReserveDisk config bytes.length with
      | none => spool.notifyReplayActivity
      | some accounts =>
        let candidate := {
          targetKey
          path := spoolFilename event.createdUnix targetKey uuid
          createdUnix := event.createdUnix.toNat
          enqueueSeq := event.enqueueSeq.toNat
          diskBytes := bytes.length }
        { spool with
          accounts
          persists := spool.persists.insert call ⟨candidate, publication, .create⟩ }
  else spool

/-- The last step of `persist_spool_event`, when the file has its final name. -/
def finishPersist (spool : GatewayForwardSpool) (persist : PersistCall) : GatewayForwardSpool :=
  let candidate := persist.candidate
  let spool := { spool with
    accounts := spool.accounts.accountSpooledFileAfterReserve candidate.path candidate.diskBytes
      candidate.targetKey }
  if persist.publication = .replayIndex then
    { spool with replayArrivals := spool.replayArrivals ++ [candidate] }.notifyReplayActivity
  else spool

def operate (spool : GatewayForwardSpool) (call : Nat) (persist : PersistCall) (succeeds : Bool) :
    GatewayForwardSpool :=
  if persist.stage = .account then
    { spool with persists := spool.persists.erase call }.finishPersist persist
  else if succeeds then
    { spool with persists :=
        spool.persists.insert call { persist with stage := persist.stage.next } }
  else
    { spool with
      accounts := spool.accounts.releaseDisk persist.candidate.diskBytes
      persists := spool.persists.erase call }

def step (codec : SpoolCodec) (config : GatewaySpoolConfig) (spool : GatewayForwardSpool) :
    Action → Option GatewayForwardSpool
  | .bootstrap candidates => some { spool with replayStartup := candidates }
  | .catalogueStartup =>
    match spool.replayStartup with
    | [] => none
    | candidate :: rest => some ({ spool with replayStartup := rest }.insertReplayCandidate candidate)
  | .catalogueArrival =>
    match spool.replayArrivals with
    | [] => none
    | candidate :: rest => some ({ spool with replayArrivals := rest }.insertReplayCandidate candidate)
  | .persist call targetKey event uuid publication directories =>
    if call ∈ spool.persists then none
    else some (spool.beginPersist codec config call targetKey event uuid publication directories)
  | .operate call succeeds =>
    (spool.persists.lookup call).map fun persist => spool.operate call persist succeeds
  | .removeSpooledFile path diskBytes outcome =>
    if outcome = .failed then
      some { spool with deliveredCleanupRetries :=
        spool.deliveredCleanupRetries.insertReady path diskBytes }
    else some { spool with accounts := spool.accounts.unaccountSpooledFile path }
  | .takeCleanup =>
    if spool.cleaning.isSome then none
    else
      some { spool with
        cleaning := spool.deliveredCleanupRetries.takeReady.1
        deliveredCleanupRetries := spool.deliveredCleanupRetries.takeReady.2 }
  | .finishCleanup outcome =>
    match spool.cleaning with
    | none => none
    | some (path, _) =>
      let removed := outcome ≠ .failed
      let completed := spool.deliveredCleanupRetries.complete path removed
      some { spool with
        cleaning := none
        deliveredCleanupRetries := completed.2
        accounts := if removed ∧ completed.1 then spool.accounts.unaccountSpooledFile path
          else spool.accounts }
  | .reactivate => some spool.notifyReplayActivity
  | .quarantineOrRetry path outcome =>
    if outcome = .removed then
      some { spool with accounts := spool.accounts.unaccountSpooledFile path }
    else some { spool with quarantineRetries := spool.quarantineRetries ++ [path] }
  | .takeQuarantineRetries => some { spool with quarantineRetries := [] }

def Start (spool : GatewayForwardSpool) : Prop := spool = {}

def Action.isPersist : Action → Bool
  | .persist _ _ _ _ _ _ => true
  | .operate _ _ => true
  | _ => false

end GatewayForwardSpool

/-! ## The books balance -/

def GatewaySpoolFileAccounting.countFor (targetKey : String) (file : GatewaySpoolFileAccounting) : Nat :=
  if file.targetKey = targetKey then 1 else 0

theorem getD_lookup_decrement :
    ((decrementPendingTargetCount counts targetKey).lookup other).getD 0 =
      (counts.lookup other).getD 0 - if targetKey = other then 1 else 0 := by
  unfold decrementPendingTargetCount
  cases found : counts.lookup targetKey with
  | none =>
    dsimp only
    split
    next same =>
      rw [← same, found]
      rfl
    · rfl
  | some =>
    dsimp only
    by_cases same : targetKey = other
    · subst same
      rw [if_pos rfl, found]
      split
      next last =>
        rw [HashMap.lookup_erase_eq, if_pos rfl]
        exact last.symm
      · rw [HashMap.lookup_insert_eq, if_pos rfl]
        rfl
    · split
      · rw [HashMap.lookup_erase_eq, if_neg (Ne.symm same)]
        rfl
      · rw [HashMap.lookup_insert_eq, if_neg (Ne.symm same)]
        rfl

theorem getD_lookup_increment :
    ((incrementPendingTargetCount counts targetKey).lookup other).getD 0 =
      (counts.lookup other).getD 0 + if targetKey = other then 1 else 0 := by
  unfold incrementPendingTargetCount
  rw [HashMap.lookup_insert_eq]
  by_cases same : targetKey = other
  · rw [if_pos same, if_pos same.symm, same]
    rfl
  · rw [if_neg same, if_neg (Ne.symm same)]
    rfl

namespace SpoolAccounts

/-- The counters agree with the recorded files and what is reserved for files to come. -/
structure Balanced (accounts : SpoolAccounts) (reserved : Nat) : Prop where
  disk : accounts.diskBytes =
    accounts.accountedSpoolFiles.total GatewaySpoolFileAccounting.diskBytes + reserved
  counts : ∀ targetKey, (accounts.pendingTargetCounts.lookup targetKey).getD 0 =
    accounts.accountedSpoolFiles.total (GatewaySpoolFileAccounting.countFor targetKey)

variable {accounts accounts' : SpoolAccounts} {reserved bytes : Nat} {path : Text}
  {targetKey : String} {config : GatewaySpoolConfig}

theorem Balanced.empty : ({} : SpoolAccounts).Balanced 0 := ⟨rfl, fun _ => rfl⟩

theorem Balanced.release (balanced : accounts.Balanced (reserved + bytes)) :
    (accounts.releaseDisk bytes).Balanced reserved := by
  refine ⟨?_, balanced.counts⟩
  have disk := balanced.disk
  unfold releaseDisk
  dsimp only
  omega

theorem Balanced.reserve (balanced : accounts.Balanced reserved)
    (reservation : accounts.tryReserveDisk config bytes = some accounts') :
    accounts'.Balanced (reserved + max bytes 1) ∧ accounts'.diskBytes ≤ config.diskMaxBytes := by
  obtain ⟨next, sum, within⟩ := Option.bind_eq_some_iff.mp reservation
  obtain ⟨capped, rfl⟩ := guard_some within
  obtain ⟨_, rfl⟩ := checkedAdd_eq_some.mp sum
  refine ⟨⟨?_, balanced.counts⟩, capped⟩
  rw [balanced.disk, Nat.add_assoc]

theorem Balanced.recorded_le (balanced : accounts.Balanced reserved) (path : Text) :
    (accounts.accountedSpoolFiles.lookup path).elim 0 GatewaySpoolFileAccounting.diskBytes ≤
      accounts.diskBytes := by
  have disk := balanced.disk
  have bytes := HashMap.total_erase GatewaySpoolFileAccounting.diskBytes
    accounts.accountedSpoolFiles path
  omega

theorem Balanced.put (balanced : accounts.Balanced reserved)
    (files : accounts'.accountedSpoolFiles = accounts.accountedSpoolFiles.insert path file)
    (disk : accounts'.diskBytes + reserved +
        (accounts.accountedSpoolFiles.lookup path).elim 0 GatewaySpoolFileAccounting.diskBytes =
      accounts.diskBytes + reserved' + file.diskBytes)
    (counts : ∀ targetKey, (accounts'.pendingTargetCounts.lookup targetKey).getD 0 =
      (accounts.pendingTargetCounts.lookup targetKey).getD 0 -
        (accounts.accountedSpoolFiles.lookup path).elim 0
          (GatewaySpoolFileAccounting.countFor targetKey) + file.countFor targetKey) :
    accounts'.Balanced reserved' := by
  have total (f) := HashMap.total_erase f accounts.accountedSpoolFiles path
  refine ⟨?_, fun targetKey => ?_⟩
  · have before := balanced.disk
    have bytes := total GatewaySpoolFileAccounting.diskBytes
    rw [files, HashMap.total_insert]
    omega
  · have before := balanced.counts targetKey
    have count := total (GatewaySpoolFileAccounting.countFor targetKey)
    rw [counts targetKey, files, HashMap.total_insert]
    omega

theorem Balanced.account (balanced : accounts.Balanced (reserved + max bytes 1)) (path : Text)
    (targetKey : String) :
    (accounts.accountSpooledFileAfterReserve path bytes targetKey).Balanced reserved := by
  have recorded := balanced.recorded_le path
  unfold accountSpooledFileAfterReserve
  cases found : accounts.accountedSpoolFiles.lookup path with
  | none =>
    refine balanced.put rfl ?_ fun other => ?_
    · rw [found]
      dsimp only [Option.elim_none]
      omega
    · rw [found]
      exact getD_lookup_increment
  | some =>
    rw [found] at recorded
    refine balanced.put rfl ?_ fun other => ?_
    · rw [found]
      unfold releaseDisk
      dsimp only [Option.elim_some] at recorded ⊢
      omega
    · rw [found]
      exact getD_lookup_increment.trans (congrArg (· + _) getD_lookup_decrement)

theorem diskBytes_account_le (accounts : SpoolAccounts) (path : Text) (bytes : Nat)
    (targetKey : String) :
    (accounts.accountSpooledFileAfterReserve path bytes targetKey).diskBytes ≤ accounts.diskBytes := by
  unfold accountSpooledFileAfterReserve
  cases accounts.accountedSpoolFiles.lookup path with
  | none => exact Nat.le_refl _
  | some => exact Nat.sub_le _ _

theorem addDiskAccounting_eq_some (added : accounts.addDiskAccounting bytes = some accounts') :
    accounts' = { accounts with diskBytes := accounts.diskBytes + bytes } := by
  unfold addDiskAccounting at added
  split at added
  next zero =>
    obtain rfl := Option.some.inj added
    rw [zero]
    rfl
  · obtain ⟨next, sum, rfl⟩ := Option.map_eq_some_iff.mp added
    obtain ⟨_, rfl⟩ := checkedAdd_eq_some.mp sum
    rfl

theorem Balanced.accountExisting (balanced : accounts.Balanced reserved)
    (accounted : accounts.accountExistingSpooledFile path bytes targetKey = some accounts') :
    accounts'.Balanced reserved := by
  have recorded := balanced.recorded_le path
  unfold accountExistingSpooledFile at accounted
  cases found : accounts.accountedSpoolFiles.lookup path with
  | none =>
    rw [found] at accounted
    obtain ⟨added, sum, rfl⟩ := Option.map_eq_some_iff.mp accounted
    obtain rfl := addDiskAccounting_eq_some sum
    refine balanced.put rfl ?_ fun other => ?_
    · rw [found]
      dsimp only [Option.elim_none]
      omega
    · rw [found]
      exact getD_lookup_increment
  | some current =>
    rw [found] at accounted recorded
    dsimp only [Option.elim_some] at accounted recorded
    split at accounted
    · obtain rfl := Option.some.inj accounted
      exact balanced
    obtain ⟨adjusted, sum, rfl⟩ := Option.map_eq_some_iff.mp accounted
    obtain ⟨disk, files, counts⟩ :
        adjusted.diskBytes + current.diskBytes = accounts.diskBytes + max bytes 1 ∧
        adjusted.accountedSpoolFiles = accounts.accountedSpoolFiles ∧
        adjusted.pendingTargetCounts = accounts.pendingTargetCounts := by
      split at sum
      · obtain rfl := addDiskAccounting_eq_some sum
        refine ⟨?_, rfl, rfl⟩
        dsimp only
        omega
      · obtain rfl := Option.some.inj sum
        refine ⟨?_, rfl, rfl⟩
        unfold releaseDisk
        dsimp only
        omega
    refine balanced.put (congrArg (AList.insert path _) files) ?_ fun other => ?_
    · rw [found]
      dsimp only [Option.elim_some]
      omega
    · rw [found, counts]
      exact getD_lookup_increment.trans (congrArg (· + _) getD_lookup_decrement)

theorem Balanced.unaccount (balanced : accounts.Balanced reserved) :
    (accounts.unaccountSpooledFile path).Balanced reserved := by
  unfold unaccountSpooledFile
  cases found : accounts.accountedSpoolFiles.lookup path with
  | none => exact balanced
  | some =>
    have total (f) := HashMap.total_erase f accounts.accountedSpoolFiles path
    simp only [found, Option.elim_some] at total
    have disk := balanced.disk
    refine ⟨?_, fun other => ?_⟩
    · have bytes := total GatewaySpoolFileAccounting.diskBytes
      unfold releaseDisk
      dsimp only
      omega
    · have count := balanced.counts other
      have files := total (GatewaySpoolFileAccounting.countFor other)
      dsimp only
      rw [getD_lookup_decrement]
      unfold GatewaySpoolFileAccounting.countFor at *
      omega

end SpoolAccounts
namespace GatewayForwardSpool

def reserved (persist : PersistCall) : Nat := max persist.candidate.diskBytes 1

structure Invariant (spool : GatewayForwardSpool) : Prop where
  balanced : spool.accounts.Balanced (spool.persists.total reserved)
  positive : ∀ call persist, spool.persists.lookup call = some persist →
    0 < persist.candidate.diskBytes

variable {codec : SpoolCodec} {config : GatewaySpoolConfig} {spool spool' : GatewayForwardSpool}

theorem Invariant.keep (invariant : spool.Invariant) (persists : spool'.persists = spool.persists)
    (balanced : ∀ {reserved}, spool.accounts.Balanced reserved → spool'.accounts.Balanced reserved) :
    spool'.Invariant := by
  refine ⟨?_, ?_⟩
  · rw [persists]
    exact balanced invariant.balanced
  · rw [persists]
    exact invariant.positive

theorem insertReplayCandidate_balanced {reserved : Nat}
    (balanced : spool.accounts.Balanced reserved) :
    (spool.insertReplayCandidate candidate).accounts.Balanced reserved := by
  unfold insertReplayCandidate
  cases accounted : spool.accounts.accountExistingSpooledFile candidate.path candidate.diskBytes
    candidate.targetKey with
  | none => exact balanced
  | some accounts => exact balanced.accountExisting accounted

theorem spoolFileBytes_positive
    (written : codec.spoolFileBytes event = .ok bytes) : 0 < bytes.length := by
  obtain ⟨header, _, _, rfl⟩ := SpoolCodec.spoolFileBytes_ok.mp written
  simp only [List.length_append, List.length_cons]
  omega

theorem Invariant.beginPersist (invariant : spool.Invariant) (new : call ∉ spool.persists) :
    let spool' := spool.beginPersist codec config call targetKey event uuid publication directories
    spool'.Invariant ∧ (spool'.accounts.diskBytes ≤ spool.accounts.diskBytes ∨
      spool'.accounts.diskBytes ≤ config.diskMaxBytes) := by
  unfold GatewayForwardSpool.beginPersist
  split
  · cases written : codec.spoolFileBytes event with
    | error => exact ⟨invariant, .inl (Nat.le_refl _)⟩
    | ok bytes =>
      dsimp only
      cases reservation : spool.accounts.tryReserveDisk config bytes.length with
      | none => exact ⟨invariant.keep rfl id, .inl (Nat.le_refl _)⟩
      | some =>
        obtain ⟨balanced, capped⟩ := invariant.balanced.reserve reservation
        refine ⟨⟨?_, ?_⟩, .inr capped⟩
        · have before := HashMap.total_erase reserved spool.persists call
          rw [AList.lookup_eq_none.mpr new, Option.elim_none, Nat.zero_add] at before
          rw [HashMap.total_insert, before, Nat.add_comm]
          exact balanced
        · intro other persist found
          rcases HashMap.lookup_insert_cases found with ⟨-, rfl⟩ | found
          · exact spoolFileBytes_positive written
          · exact invariant.positive other persist found
  · exact ⟨invariant, .inl (Nat.le_refl _)⟩

theorem Invariant.operate (invariant : spool.Invariant)
    (running : spool.persists.lookup call = some persist) (succeeds : Bool) :
    (spool.operate call persist succeeds).Invariant ∧
      (spool.operate call persist succeeds).accounts.diskBytes ≤ spool.accounts.diskBytes := by
  have total := HashMap.total_erase reserved spool.persists call
  rw [running, Option.elim_some] at total
  have left : ∀ other persist, (spool.persists.erase call).lookup other = some persist →
      0 < persist.candidate.diskBytes := by
    intro other persist found
    exact invariant.positive other persist (HashMap.lookup_of_erase found).2
  have balanced : spool.accounts.Balanced
      (HashMap.total reserved (spool.persists.erase call) + max persist.candidate.diskBytes 1) := by
    rw [Nat.add_comm]
    exact total ▸ invariant.balanced
  unfold GatewayForwardSpool.operate
  split
  · have accounted := balanced.account persist.candidate.path persist.candidate.targetKey
    have smaller := spool.accounts.diskBytes_account_le persist.candidate.path
      persist.candidate.diskBytes persist.candidate.targetKey
    unfold finishPersist
    split
    all_goals exact ⟨⟨accounted, left⟩, smaller⟩
  · split
    · refine ⟨⟨?_, ?_⟩, Nat.le_refl _⟩
      · rw [HashMap.total_insert, Nat.add_comm]
        exact balanced
      · intro other next found
        rcases HashMap.lookup_insert_cases found with ⟨-, rfl⟩ | found
        · exact invariant.positive call persist running
        · exact invariant.positive other next found
    · -- the release gives back what was reserved because no file is empty
      have whole : max persist.candidate.diskBytes 1 = persist.candidate.diskBytes :=
        Nat.max_eq_left (invariant.positive call persist running)
      rw [whole] at balanced
      exact ⟨⟨balanced.release, left⟩, Nat.sub_le _ _⟩

variable {action : Action}

theorem step_balanced (stepped : spool.step codec config action = some spool')
    (other : action.isPersist = false) :
    spool'.persists = spool.persists ∧
    ∀ {reserved}, spool.accounts.Balanced reserved → spool'.accounts.Balanced reserved := by
  cases action with
  | bootstrap candidates | reactivate | takeQuarantineRetries =>
    obtain rfl := Option.some.inj stepped
    exact ⟨rfl, id⟩
  | catalogueStartup | catalogueArrival =>
    unfold step at stepped
    dsimp only at stepped
    split at stepped
    · cases stepped
    · obtain rfl := Option.some.inj stepped
      exact ⟨rfl, insertReplayCandidate_balanced⟩
  | persist | operate => cases other
  | removeSpooledFile =>
    unfold step at stepped
    dsimp only at stepped
    split at stepped
    · obtain rfl := Option.some.inj stepped
      exact ⟨rfl, id⟩
    · obtain rfl := Option.some.inj stepped
      exact ⟨rfl, fun balanced => balanced.unaccount⟩
  | takeCleanup =>
    unfold step at stepped
    dsimp only at stepped
    split at stepped
    · cases stepped
    · obtain rfl := Option.some.inj stepped
      exact ⟨rfl, id⟩
  | finishCleanup =>
    unfold step at stepped
    dsimp only at stepped
    split at stepped
    · cases stepped
    · obtain rfl := Option.some.inj stepped
      refine ⟨rfl, fun balanced => ?_⟩
      split
      · exact balanced.unaccount
      · exact balanced
  | quarantineOrRetry =>
    unfold step at stepped
    dsimp only at stepped
    split at stepped
    · obtain rfl := Option.some.inj stepped
      exact ⟨rfl, fun balanced => balanced.unaccount⟩
    · obtain rfl := Option.some.inj stepped
      exact ⟨rfl, id⟩

theorem Invariant.persistStep (invariant : spool.Invariant)
    (stepped : spool.step codec config action = some spool') (persists : action.isPersist) :
    spool'.Invariant ∧ (spool'.accounts.diskBytes ≤ spool.accounts.diskBytes ∨
      spool'.accounts.diskBytes ≤ config.diskMaxBytes) := by
  cases action with
  | persist =>
    unfold step at stepped
    dsimp only at stepped
    split at stepped
    · cases stepped
    next new =>
      obtain rfl := Option.some.inj stepped
      exact invariant.beginPersist new
  | operate _ succeeds =>
    obtain ⟨persist, running, rfl⟩ := Option.map_eq_some_iff.mp stepped
    exact (invariant.operate running succeeds).imp_right .inl
  | bootstrap | catalogueStartup | catalogueArrival | removeSpooledFile | takeCleanup | finishCleanup
  | reactivate | quarantineOrRetry | takeQuarantineRetries => cases persists

theorem Invariant.step (invariant : spool.Invariant)
    (stepped : spool.step codec config action = some spool') : spool'.Invariant := by
  cases persists : action.isPersist with
  | true => exact (invariant.persistStep stepped persists).1
  | false =>
    obtain ⟨same, balanced⟩ := step_balanced stepped persists
    exact invariant.keep same balanced

theorem reachable_invariant (reach : Reachable (step codec config) Start spool) : spool.Invariant := by
  refine reach.invariant ?_ fun _ _ _ invariant => invariant.step
  rintro _ rfl
  exact ⟨.empty, fun _ _ found => nomatch found⟩

/-- Whenever no file is being written, the byte counter is the sum of the recorded sizes;
    the count of a target is the number of its recorded files; and writing a file never takes
    the counter over the limit. -/
theorem books_agree (codec : SpoolCodec) (config : GatewaySpoolConfig) {spool : GatewayForwardSpool}
    (reach : Reachable (step codec config) Start spool) :
    (spool.persists = ∅ → spool.accounts.diskBytes =
      (spool.accounts.accountedSpoolFiles.entries.map fun entry => entry.2.diskBytes).sum) ∧
    (∀ targetKey, (spool.accounts.pendingTargetCounts.lookup targetKey).getD 0 =
      (spool.accounts.accountedSpoolFiles.entries.filter
        fun entry => entry.2.targetKey = targetKey).length) ∧
    ∀ action spool', action.isPersist → spool.step codec config action = some spool' →
      spool'.accounts.diskBytes ≤ spool.accounts.diskBytes ∨
      spool'.accounts.diskBytes ≤ config.diskMaxBytes := by
  have invariant := reachable_invariant reach
  refine ⟨?_, ?_, ?_⟩
  · intro quiet
    have disk := invariant.balanced.disk
    rw [quiet] at disk
    exact disk
  · intro targetKey
    rw [invariant.balanced.counts targetKey]
    have counted := HashMap.total_indicator (fun file => decide (file.targetKey = targetKey))
      spool.accounts.accountedSpoolFiles
    simp only [decide_eq_true_eq] at counted
    exact counted
  · intro action spool' persists stepped
    exact (invariant.persistStep stepped persists).2

/-- One file is written; a second one fails on the disk, and deleting the first one fails. -/
def sampleActions : List Action :=
  .persist 0 "agent-1" sampleEvent 1 .replayIndex true :: List.replicate 5 (.operate 0 true) ++
    [.persist 1 "agent-1" sampleEvent 2 .queueHead true, .operate 1 true, .operate 1 false,
      .catalogueArrival,
      .removeSpooledFile (spoolFilename 1700000000 "agent-1" 1) 281 .failed, .takeCleanup]

theorem sample_books_agree :
    ∃ spool, Reachable (step sampleSpoolCodec ⟨true, 4096⟩) Start spool ∧ spool.persists = ∅ ∧
      0 < spool.accounts.diskBytes ∧ spool.accounts.diskBytes =
        (spool.accounts.accountedSpoolFiles.entries.map fun entry => entry.2.diskBytes).sum := by
  have ends : ∃ spool ∈ run (step sampleSpoolCodec ⟨true, 4096⟩) {} sampleActions,
      spool.persists.entries = [] ∧ 0 < spool.accounts.diskBytes := by decide +kernel
  obtain ⟨spool, ran, quiet, positive⟩ := ends
  have reach : Reachable (step sampleSpoolCodec ⟨true, 4096⟩) Start spool := ⟨{}, sampleActions, rfl, ran⟩
  have done : spool.persists = ∅ := AList.ext quiet
  exact ⟨spool, reach, done, positive, (books_agree _ _ reach).1 done⟩

end GatewayForwardSpool
end Vpsman.Forward

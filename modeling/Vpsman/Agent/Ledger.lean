import Mathlib.Data.List.Sort
import Vpsman.Lib.HashMap
import Vpsman.Agent.Output

/-! # The command ledger on disk

One file per completed job, named after the job. A cleanup removes files that are too
old and, counting from the newest, those beyond the limits on number and size.
-/

namespace Vpsman.Agent

open Vpsman.Lib

def ledgerSchemaVersion : Nat := 1

def ledgerRetentionSecs : Nat := 72 * 60 * 60

def ledgerMaxEntries : Nat := 8192

def ledgerMaxBytes : Nat := 32 * 1024 * 1024

structure LedgerFile where
  /-- Nothing when the text of the file does not decode. -/
  content : Option CommandLedgerEntry
  modifiedUnix : Nat
  bytes : Nat
  deriving Repr, DecidableEq

/-- The files of the ledger directory by the job in their name. -/
abbrev CommandLedger := HashMap Uuid LedgerFile

namespace CommandLedger

/-- The entry of a job, or no entry; nothing at all when the file does not decode. -/
def lookupEntry (ledger : CommandLedger) (jobId : Uuid) : Option (Option CommandLedgerEntry) :=
  match ledger.lookup jobId with
  | none => some none
  | some file =>
    match file.content with
    | none => none
    | some entry =>
      if entry.schemaVersion ≠ ledgerSchemaVersion ∨ entry.jobId ≠ jobId then some none
      else some (some entry)

/-- The job has an entry that a lookup finds. -/
def Holds (ledger : CommandLedger) (jobId : Uuid) : Prop :=
  ∃ entry, ledger.lookupEntry jobId = some (some entry)

instance (ledger : CommandLedger) (jobId : Uuid) : Decidable (ledger.Holds jobId) :=
  match found : ledger.lookupEntry jobId with
  | some (some entry) => .isTrue ⟨entry, found⟩
  | some none => .isFalse (by simp [Holds, found])
  | none => .isFalse (by simp [Holds, found])

variable {Content : Type} (platform : Platform Content)

def newEntry (now : Nat) (jobId : Uuid) (payloadHash : String)
    (terminalOutput : Option SequencedCommandOutput) (truncated : Bool) : CommandLedgerEntry where
  schemaVersion := ledgerSchemaVersion
  jobId := jobId
  payloadHash := payloadHash
  completedUnix := now
  terminalOutput := terminalOutput
  truncated := truncated

/-- Write the entry and put it in the place of the old one. -/
def record (ledger : CommandLedger) (now : Nat) (jobId : Uuid) (payloadHash : String)
    (terminalOutput : Option SequencedCommandOutput) (truncated : Bool) : CommandLedger :=
  let entry := newEntry now jobId payloadHash terminalOutput truncated
  ledger.insert jobId
    { content := some entry
      modifiedUnix := now
      bytes := (platform.encodeLedgerEntry entry).length }

/-! ## Cleanup -/

/-- What the scan of the directory notes of a file. -/
structure ScannedFile where
  jobId : Uuid
  modifiedUnix : Nat
  bytes : Nat
  deriving Repr, DecidableEq

def scan (ledger : CommandLedger) : List ScannedFile :=
  ledger.entries.map fun file => ⟨file.1, file.2.modifiedUnix, file.2.bytes⟩

/-- Newer files come first; among files of one second the larger name. -/
def ScannedFile.newestFirst (left right : ScannedFile) : Bool :=
  right.modifiedUnix < left.modifiedUnix ||
    (left.modifiedUnix == right.modifiedUnix && right.jobId.toNat ≤ left.jobId.toNat)

/-- The files that exceed a limit, after `keptEntries` files of `keptBytes` bytes. Files
    beyond a limit are counted as well. -/
def overLimit : Nat → Nat → List ScannedFile → List Uuid
  | _, _, [] => []
  | keptEntries, keptBytes, file :: rest =>
    let keptEntries := satAdd keptEntries 1
    let keptBytes := satAdd keptBytes file.bytes
    if ledgerMaxEntries < keptEntries ∨ ledgerMaxBytes < keptBytes then
      file.jobId :: overLimit keptEntries keptBytes rest
    else overLimit keptEntries keptBytes rest

/-- The jobs whose files a cleanup at `now` removes, when the files in `unreadable` cannot
    be examined. -/
def surplus (ledger : CommandLedger) (now : Nat) (unreadable : List Uuid) : List Uuid :=
  let files := ledger.scan.filter fun file => file.jobId ∉ unreadable
  let expired := files.filter fun file => ledgerRetentionSecs < now - file.modifiedUnix
  let current := files.filter fun file => ¬ ledgerRetentionSecs < now - file.modifiedUnix
  expired.map ScannedFile.jobId ++ overLimit 0 0 (current.insertionSort fun l r => l.newestFirst r)

/-- Remove the surplus files, but for those in `undeletable`. -/
def cleanup (ledger : CommandLedger) (now : Nat) (unreadable undeletable : List Uuid) :
    CommandLedger :=
  let removed := ledger.surplus now unreadable
  ledger.retain fun jobId _ => jobId ∉ removed ∨ jobId ∈ undeletable

theorem record_holds (ledger : CommandLedger) :
    (ledger.record platform now jobId payloadHash terminalOutput truncated).Holds jobId := by
  refine ⟨newEntry now jobId payloadHash terminalOutput truncated, ?_⟩
  rw [lookupEntry, record, AList.lookup_insert]
  exact if_neg (by simp [newEntry])

theorem record_holds_other {ledger : CommandLedger} (holds : ledger.Holds other) :
    (ledger.record platform now jobId payloadHash terminalOutput truncated).Holds other := by
  by_cases same : other = jobId
  · rw [same]
    exact record_holds platform ledger
  · obtain ⟨entry, found⟩ := holds
    refine ⟨entry, ?_⟩
    rw [lookupEntry, record, AList.lookup_insert_ne same]
    exact found

/-! ## What a cleanup keeps -/

def Fits (files : List ScannedFile) : Prop :=
  files.length ≤ ledgerMaxEntries ∧ (files.map ScannedFile.bytes).sum ≤ ledgerMaxBytes

theorem overLimit_beyond (files : List ScannedFile)
    (past : ledgerMaxEntries < entries ∨ ledgerMaxBytes < bytes) :
    overLimit entries bytes files = files.map ScannedFile.jobId := by
  induction files generalizing entries bytes with
  | nil => rfl
  | cons file _ ih =>
    have still : ledgerMaxEntries < satAdd entries 1 ∨ ledgerMaxBytes < satAdd bytes file.bytes := by
      unfold satAdd u64Max ledgerMaxEntries ledgerMaxBytes at *
      omega
    rw [overLimit, if_pos still, ih still, List.map_cons]

/-- The files beyond the limits are all those from the first that does not fit. -/
theorem overLimit_spec (files : List ScannedFile) (fits : Fits before) :
    ∃ kept rest, kept ++ rest = files ∧ Fits (before ++ kept) ∧
      (∀ file ∈ rest.head?, ¬ Fits (before ++ kept ++ [file])) ∧
      overLimit before.length (before.map ScannedFile.bytes).sum files =
        rest.map ScannedFile.jobId := by
  induction files generalizing before with
  | nil => exact ⟨[], [], rfl, by simpa using fits, by simp, rfl⟩
  | cons file files ih =>
    have count : (before ++ [file]).length = before.length + 1 := by simp
    have size : ((before ++ [file]).map ScannedFile.bytes).sum =
        (before.map ScannedFile.bytes).sum + file.bytes := by simp
    rw [overLimit]
    by_cases more : Fits (before ++ [file])
    · obtain ⟨kept, rest, rfl, all, next, removed⟩ := ih more
      refine ⟨file :: kept, rest, rfl, by simpa using all, by simpa using next, ?_⟩
      unfold Fits ledgerMaxEntries ledgerMaxBytes at more
      unfold satAdd u64Max
      rw [Nat.min_eq_left (by omega), Nat.min_eq_left (by omega), ← count, ← size, removed]
      exact if_neg (by unfold ledgerMaxEntries ledgerMaxBytes; omega)
    · refine ⟨[], file :: files, rfl, by simpa using fits, by simpa using more, ?_⟩
      have past : ledgerMaxEntries < satAdd before.length 1 ∨
          ledgerMaxBytes < satAdd (before.map ScannedFile.bytes).sum file.bytes := by
        unfold Fits satAdd u64Max ledgerMaxEntries ledgerMaxBytes at *
        omega
      rw [if_pos past, overLimit_beyond files past, List.map_cons]

/-- Nothing that fits goes beyond a part after which the next file is too much. -/
theorem Fits.longest (next : ∀ file ∈ rest.head?, ¬ Fits (kept ++ [file])) (starts : more <+: rest)
    (fits : Fits (kept ++ more)) : more = [] := by
  cases more with
  | nil => rfl
  | cons file =>
    obtain ⟨others, rfl⟩ := starts
    refine absurd ?_ (next file rfl)
    unfold Fits at *
    grind

instance : Std.Total fun left right : ScannedFile => left.newestFirst right = true where
  total left right := by
    simp [ScannedFile.newestFirst]
    omega

instance : IsTrans ScannedFile fun left right => left.newestFirst right = true where
  trans left middle right := by
    simp [ScannedFile.newestFirst]
    omega

/-- A cleanup that can read and remove every file keeps the files of the longest part, from the
    newest on, that fits. -/
theorem cleanup_keeps_newest (ledger : CommandLedger) (now : Nat) :
    ∃ kept rest : List ScannedFile,
      (kept ++ rest).Perm
        (ledger.scan.filter fun file => ¬ ledgerRetentionSecs < now - file.modifiedUnix) ∧
      (kept ++ rest).Pairwise (fun newer older => newer.newestFirst older) ∧
      Fits kept ∧ (∀ more, more <+: rest → Fits (kept ++ more) → more = []) ∧
      ∀ jobId, (ledger.cleanup now [] []).lookup jobId =
        if jobId ∈ kept.map ScannedFile.jobId then ledger.lookup jobId else none := by
  let old (file : ScannedFile) : Bool := ledgerRetentionSecs < now - file.modifiedUnix
  obtain ⟨kept, rest, sorted, fits, next, removed⟩ := overLimit_spec
    ((ledger.scan.filter fun file => ¬ ledgerRetentionSecs < now - file.modifiedUnix).insertionSort
      fun l r => l.newestFirst r) (show Fits [] from ⟨Nat.zero_le _, Nat.zero_le _⟩)
  have same := sorted ▸ List.perm_insertionSort ..
  refine ⟨kept, rest, same, sorted ▸ List.pairwise_insertionSort .., fits,
    fun _ => Fits.longest next, fun jobId => ?_⟩
  have names : ((ledger.scan.filter old ++ (kept ++ rest)).map ScannedFile.jobId).Perm
      ledger.keys := by
    refine .trans (.map _ (.append_left _ same)) ?_
    simp only [decide_not]
    refine .trans (.map _ (List.filter_append_perm old ledger.scan)) (.of_eq ?_)
    simp [scan, AList.keys, List.keys]
  have distinct := names.nodup_iff.mpr ledger.keys_nodup
  have gone : ledger.surplus now [] =
      (ledger.scan.filter old).map ScannedFile.jobId ++ rest.map ScannedFile.jobId := by
    simp [surplus, ← removed, old]
  rw [cleanup, HashMap.lookup_retain, gone]
  cases stored : ledger.lookup jobId with
  | none => simp
  | some file =>
    have known := names.mem_iff.mpr ((HashMap.mem_keys_iff_lookup _).mpr ⟨file, stored⟩)
    simp only [List.map_append, List.nodup_append, List.mem_append] at distinct known
    grind

/-- The seconds that a cleanup at `now` sees of a time in nanoseconds since 1970. -/
def modifiedUnix (now : Nat) (modified : Option Int) : Nat :=
  (modified.bind systemTimeUnix).getD now
where
  systemTimeUnix (modified : Int) : Option Nat :=
    if 0 ≤ modified then some (modified / 1000000000).toNat else none

/-- Of two files of one second, each as large as the limit, the older one stays. -/
theorem cleanup_keeps_older :
    let file (modified : Int) : LedgerFile := ⟨none, modifiedUnix 0 modified, ledgerMaxBytes⟩
    cleanup ((AList.singleton 1 (file 1)).insert 2 (file 0)) 0 [] [] =
      AList.singleton 2 (file 0) := by
  rfl

end CommandLedger
end Vpsman.Agent

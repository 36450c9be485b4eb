import Vpsman.PortForward.Adapters

/-! # Removal receipts are honest

Whatever the operations on the inventory wait for and wherever they are cut, a rule that an
adapter was told to apply, and that is not known to be gone since, is owned or reported as
a failed cleanup, and has no receipt. This holds of the memory and of the file.
-/

namespace Vpsman.PortForward

open Vpsman.Lib

/-- No flagged rule is lost, and none has a receipt. -/
structure Honest (flagged : List Uuid) (record : InventoryRecord) : Prop where
  retained : ∀ id ∈ flagged, id ∈ record.owned.keys ∨ id ∈ record.cleanupFailures.keys
  unreceipted : ∀ id ∈ flagged, id ∉ record.removedRules.keys

/-- The file is honest, and so is the memory once it is loaded; before, it has no receipts. -/
structure Consistent (inventory : AdapterInventory) (world : World) : Prop where
  memory : inventory.loaded = true → Honest world.flagged inventory.record
  unloaded : inventory.loaded = false → inventory.record.removedRules = .empty
  file : Honest world.flagged (world.file.getD {})

section

variable {clientId : String} {inventory : AdapterInventory} {world world' : World}
  {record : InventoryRecord} {flagged flagged' : List Uuid} {id : Uuid}

theorem Honest.fewer (honest : Honest flagged record) (fewer : flagged' ⊆ flagged) :
    Honest flagged' record :=
  ⟨fun id member => honest.retained id (fewer member),
    fun id member => honest.unreceipted id (fewer member)⟩

theorem Honest.replaced (honest : Honest world.flagged record) :
    Honest (world.replaceFile other retired).flagged record :=
  honest.fewer List.filter_sublist.subset

section

variable (honest : Honest flagged record)
include honest

theorem Honest.flag (owned : id ∈ record.owned.keys)
    (unreceipted : id ∉ record.removedRules.keys) : Honest (id :: flagged) record := by
  constructor
  · intro other member
    rcases List.mem_cons.mp member with rfl | old
    · exact .inl owned
    · exact honest.retained other old
  · intro other member
    rcases List.mem_cons.mp member with rfl | old
    · exact unreceipted
    · exact honest.unreceipted other old

theorem Honest.forget (gone : id ∉ flagged)
    (only : ∀ other ∈ receipts.keys, other = id ∨ other ∈ record.removedRules.keys) :
    Honest flagged ⟨record.owned.remove id, receipts, record.cleanupFailures.remove id⟩ := by
  have differs : ∀ other ∈ flagged, other ≠ id := by
    rintro other member rfl
    exact gone member
  constructor
  · intro other member
    rw [OrderedMap.mem_keys_remove, OrderedMap.mem_keys_remove]
    exact (honest.retained other member).imp (⟨·, differs other member⟩) (⟨·, differs other member⟩)
  · intro other member receipt
    rcases only other receipt with same | old
    · exact differs other member same
    · exact honest.unreceipted other member old

theorem Honest.retire :
    Honest flagged ⟨record.owned.remove id, record.removedRules.remove id,
      record.cleanupFailures.insert id report⟩ := by
  constructor
  · intro other member
    rw [OrderedMap.mem_keys_remove, OrderedMap.mem_keys_insert]
    by_cases same : other = id
    · exact .inr (.inl same)
    · exact (honest.retained other member).imp (⟨·, same⟩) .inr
  · intro other member receipt
    exact honest.unreceipted other member ((OrderedMap.mem_keys_remove _).mp receipt).1

theorem Honest.report (report : PortForwardRuleRuntimeStat) :
    Honest flagged { record with cleanupFailures := record.cleanupFailures.insert id report } where
  retained other member :=
    (honest.retained other member).imp_right fun failed =>
      (OrderedMap.mem_keys_insert _).mpr (.inr failed)
  unreceipted := honest.unreceipted

theorem Honest.unreport (owned : id ∈ record.owned.keys) :
    Honest flagged { record with cleanupFailures := record.cleanupFailures.remove id } where
  retained other member := by
    by_cases same : other = id
    · exact .inl (same ▸ owned)
    · exact (honest.retained other member).imp_right fun failed =>
        (OrderedMap.mem_keys_remove _).mpr ⟨failed, same⟩
  unreceipted := honest.unreceipted

theorem Honest.own (more : ∀ other ∈ record.cleanupFailures.keys, other ∈ failures.keys) :
    Honest flagged ⟨record.owned.insert id entry, record.removedRules.remove id, failures⟩ := by
  constructor
  · intro other member
    rw [OrderedMap.mem_keys_insert]
    exact (honest.retained other member).imp .inr (more other)
  · intro other member receipt
    exact honest.unreceipted other member ((OrderedMap.mem_keys_remove _).mp receipt).1

end

theorem Consistent.fewer (consistent : Consistent inventory world) (file : world'.file = world.file)
    (fewer : world'.flagged ⊆ world.flagged) : Consistent inventory world' where
  memory loaded := (consistent.memory loaded).fewer fewer
  unloaded := consistent.unloaded
  file := by
    rw [file]
    exact consistent.file.fewer fewer

theorem Consistent.fresh (consistent : Consistent inventory world) :
    Consistent (environment clientId).fresh world where
  memory loaded := by cases loaded
  unloaded _ := rfl
  file := consistent.file

theorem Consistent.saved (loaded : inventory.loaded = true)
    (file : world.file = some inventory.record) (honest : Honest world.flagged inventory.record) :
    Consistent inventory world where
  memory _ := honest
  unloaded unloaded := absurd (loaded.symm.trans unloaded) (by decide)
  file := by
    rw [file]
    exact honest

theorem Consistent.replaceFile (consistent : Consistent inventory world)
    (honest : Honest (world.replaceFile record retired).flagged record) :
    Consistent inventory (world.replaceFile record retired) where
  memory loaded := (consistent.memory loaded).fewer List.filter_sublist.subset
  unloaded := consistent.unloaded
  file := honest

theorem Consistent.ranRemove (consistent : Consistent inventory world) (id : Uuid) :
    Consistent inventory (world.ran id .remove) :=
  consistent.fewer rfl (List.Subset.refl _)

theorem Consistent.observed (consistent : Consistent inventory world) (id : Uuid)
    (state : AdapterState) : Consistent inventory (world.observed id state) := by
  unfold World.observed
  split
  · exact consistent.fewer rfl List.filter_sublist.subset
  · exact consistent

/-! ## Rules for the steps of an operation -/

/-- The operation keeps memory and file consistent wherever it is cut. -/
def Safe {α : Type} (clientId : String) (operation : Operation α)
    (post : Except String α → AdapterInventory → World → Prop) (inventory : AdapterInventory)
    (world : World) : Prop :=
  operation.run.Keeps (environment clientId) Consistent post inventory world

/-- What an operation leaves if nothing more is known. -/
def Kept {α : Type} (_ : Except String α) (inventory : AdapterInventory) (world : World) : Prop :=
  Consistent inventory world

variable {α β : Type} {post : Except String α → AdapterInventory → World → Prop}

theorem safe_self (rest : Safe clientId (f inventory) post inventory world) :
    Safe clientId (self >>= f) post inventory world :=
  .bindExcept rest

theorem safe_assign (rest : Safe clientId (f ()) post next world) :
    Safe clientId (assign next >>= f) post inventory world :=
  .bindExcept rest

variable {middle : Except String β → AdapterInventory → World → Prop}

theorem safe_bind (start : Safe clientId first middle inventory world)
    (rest : ∀ value inventory world, middle (.ok value) inventory world →
      Safe clientId (f value) post inventory world)
    (failed : ∀ error inventory world, middle (.error error) inventory world →
      post (.error error) inventory world) : Safe clientId (first >>= f) post inventory world := by
  refine .bindExcept (start.imp fun result inventory world after => ?_)
  cases result with
  | ok value => exact rest value inventory world after
  | error error => exact failed error inventory world after

theorem safe_attempt (start : Safe clientId operation middle inventory world)
    (rest : ∀ result inventory world, middle result inventory world →
      Safe clientId (f result) post inventory world) :
    Safe clientId (attempt operation >>= f) post inventory world :=
  .bindExcept (.bind (start.imp fun result inventory world after => rest result inventory world after))

theorem safe_readFile {post : Except String (Option InventoryRecord) → AdapterInventory → World → Prop}
    (now : Consistent inventory world) (found : post (.ok world.file) inventory world)
    (failed : ∀ error, post (.error error) inventory world) :
    Safe clientId (await .readFile) post inventory world := by
  refine ⟨now, fun choice => ?_⟩
  cases choice with
  | succeed => exact found
  | observed | drop => exact now
  | fail _ error => exact failed error
  | crash => exact now.fresh

variable {post : Except String Unit → AdapterInventory → World → Prop}

section

variable (now : Consistent inventory world)
include now

theorem safe_writeFile (honest : Honest (world.replaceFile record retired).flagged record)
    (written : post (.ok ()) inventory (world.replaceFile record retired))
    (failed : ∀ error, post (.error error) inventory world) :
    Safe clientId (await (.writeFile record retired)) post inventory world := by
  have replaced := now.replaceFile honest
  refine ⟨now, fun choice => ?_⟩
  cases choice with
  | succeed => exact written
  | observed => exact now
  | fail _ error => exact failed error
  | drop begun =>
    cases begun with
    | false => exact now
    | true => exact replaced
  | crash begun =>
    cases begun with
    | false => exact now.fresh
    | true => exact replaced.fresh

theorem safe_run (ran : Consistent inventory (world.ran entry.rule.id phase))
    (done : post (.ok ()) inventory (world.ran entry.rule.id phase))
    (failed : ∀ error, ∀ after : World, after = world ∨ after = world.ran entry.rule.id phase →
      post (.error error) inventory after) :
    Safe clientId (await (.run phase command entry)) post inventory world := by
  refine ⟨now, fun choice => ?_⟩
  cases choice with
  | succeed => exact done
  | observed => exact now
  | fail begun error =>
    cases begun with
    | false => exact failed error _ (.inl rfl)
    | true => exact failed error _ (.inr rfl)
  | drop begun =>
    cases begun with
    | false => exact now
    | true => exact ran
  | crash begun =>
    cases begun with
    | false => exact now.fresh
    | true => exact ran.fresh

theorem safe_observe {post : Except String AdapterObservation → AdapterInventory → World → Prop}
    (done : ∀ status : AdapterObservation,
      post (.ok status) inventory (world.observed entry.rule.id status.state))
    (failed : ∀ error, post (.error error) inventory world) :
    Safe clientId (await (.observe entry)) post inventory world := by
  refine ⟨now, fun choice => ?_⟩
  cases choice with
  | succeed | drop => exact now
  | observed status => exact done status
  | fail _ error => exact failed error
  | crash => exact now.fresh

theorem safe_isCanceled {post : Except String Bool → AdapterInventory → World → Prop} (done : ∀ stop, post (.ok stop) inventory world) :
    Safe clientId (await .isCanceled) post inventory world := by
  refine ⟨now, fun choice => ?_⟩
  cases choice with
  | succeed | observed => exact done false
  | fail => exact done true
  | drop => exact now
  | crash => exact now.fresh

end

/-! ## The operations are safe -/

namespace AdapterInventory

theorem honest_adopt (honest : Honest flagged record) :
    Honest flagged (inventory.adopt record rule) := by
  refine honest.own fun other failed => ?_
  split
  · exact failed
  · exact (OrderedMap.mem_keys_insert _).mpr (.inr failed)

variable (config : AgentPortForwardingConfig) (rule : PortForwardRule)
  (now : Consistent inventory world)
include now

theorem store_safe
    (honest : inventory.loaded = true → Honest (world.replaceFile record retired).flagged record)
    (stored : inventory.loaded = true →
      post (.ok ()) { inventory with record } (world.replaceFile record retired))
    (failed : ∀ error, post (.error error) inventory world) :
    Safe clientId (store record retired) post inventory world := by
  refine safe_self ?_
  split
  next loaded =>
    exact .bindExcept (safe_writeFile now (honest loaded) (stored loaded) failed)
  · exact failed _

theorem store_kept
    (honest : inventory.loaded = true → Honest (world.replaceFile record retired).flagged record) :
    Safe clientId (store record retired) Kept inventory world := by
  refine store_safe now honest (fun loaded => ?_) fun _ => now
  exact .saved loaded rfl (honest loaded)

theorem load_kept : Safe clientId load Kept inventory world := by
  refine safe_self ?_
  split
  · exact now
  · refine .bindExcept (safe_readFile now ?_ fun _ => now)
    exact ⟨fun _ => now.file, fun unloaded => (by cases unloaded), now.file⟩

theorem synchronizeCleanupRequests_kept :
    Safe clientId (synchronizeCleanupRequests rules) Kept inventory world := by
  refine safe_self (safe_assign ?_)
  dsimp only
  split
  · refine store_kept (by exact ⟨now.memory, now.unloaded, now.file⟩) fun loaded => ?_
    have honest := now.memory loaded
    apply Honest.replaced
    refine ⟨honest.retained, fun id flagged receipt => ?_⟩
    rw [OrderedMap.mem_keys_retain, Bool.and_eq_true, decide_eq_true_eq, decide_eq_true_eq] at receipt
    rcases honest.retained id flagged with owned | failed
    · exact receipt.2.1 owned
    · exact receipt.2.2 failed
  · exact ⟨now.memory, now.unloaded, now.file⟩

theorem remove_kept : Safe clientId (remove entry) Kept inventory world := by
  unfold remove
  split
  · exact now
  have ran := now.ranRemove entry.rule.id
  refine .bindExcept (safe_run now ran ?_ ?_)
  · refine .bindExcept (safe_observe ran (fun status => ?_) fun _ => ran)
    have seen := ran.observed entry.rule.id status.state
    dsimp only
    split
    next absent =>
      refine safe_self (store_kept seen fun loaded => ?_)
      have gone : entry.rule.id ∉
          ((world.ran entry.rule.id .remove).observed entry.rule.id status.state).flagged := by
        unfold World.observed
        rw [if_pos ⟨absent, List.mem_cons_self⟩]
        simp
      refine Honest.replaced ((seen.memory loaded).forget gone fun other receipt => ?_)
      split at receipt
      · exact (OrderedMap.mem_keys_insert _).mp receipt
      · exact .inr receipt
    · exact seen
  · rintro error after (rfl | rfl)
    · exact now
    · exact ran

theorem removeUnlessCanceled_kept :
    Safe clientId (removeUnlessCanceled canceled entry) Kept inventory world := by
  have decided : ∀ stop : Bool, Safe clientId
      (if stop then throw "adapter cleanup canceled before removal" else remove entry) Kept
      inventory world := by
    intro stop
    cases stop with
    | true => exact now
    | false => exact remove_kept now
  cases canceled with
  | true => exact decided true
  | false => exact .bindExcept (safe_isCanceled now decided)

theorem retireOwner_kept (error : String) :
    Safe clientId (retireOwner config entry error) Kept inventory world := by
  refine safe_self (safe_bind (store_kept now fun loaded => ?_) (fun _ _ _ after => after)
    fun _ _ _ after => after)
  exact (now.memory loaded).retire.replaced

theorem removeReplaced_kept :
    Safe clientId (removeReplaced config canceled) Kept inventory world := by
  refine safe_self (Program.Keeps.foldlM (fun acc entry inventory world now => ?_) _ now)
  refine safe_attempt (removeUnlessCanceled_kept now) fun result inventory world after => ?_
  cases result with
  | ok => exact after
  | error error =>
    exact safe_bind (retireOwner_kept config after error) (fun _ _ _ after => after)
      fun _ _ _ after => after

theorem adoptDesired_kept : Safe clientId (adoptDesired config) Kept inventory world := by
  refine safe_bind (load_kept now) (fun _ _ _ now => ?_) fun _ _ _ after => after
  refine safe_bind (synchronizeCleanupRequests_kept now) (fun _ _ _ now => ?_) fun _ _ _ after => after
  refine safe_bind (removeReplaced_kept config now) (fun _ inventory _ now => ?_)
    fun _ _ _ after => after
  refine safe_self (store_kept now fun loaded => ?_)
  exact (List.foldlRecOn _ inventory.adopt (now.memory loaded) fun record honest rule _ =>
    honest_adopt honest).replaced

omit now in
theorem runApply_kept (loaded : inventory.loaded = true)
    (file : world.file = some inventory.record) (honest : Honest world.flagged inventory.record)
    (owned : entry.rule.id ∈ inventory.record.owned.keys)
    (unreceipted : entry.rule.id ∉ inventory.record.removedRules.keys) :
    Safe clientId (runApply command entry preserveCleanupFailure) Kept inventory world := by
  have now : Consistent inventory world := .saved loaded file honest
  have ran : Consistent inventory (world.ran entry.rule.id .apply) :=
    .saved loaded file (honest.flag owned unreceipted)
  refine .bindExcept (safe_run now ran ?_ ?_)
  · refine .bindExcept (safe_observe ran (fun status => ?_) fun _ => ran)
    have seen := ran.observed entry.rule.id status.state
    dsimp only
    split
    · refine safe_self ?_
      split
      · refine safe_bind (store_kept seen fun loaded => ?_) (fun _ _ _ after => after)
          fun _ _ _ after => after
        exact ((seen.memory loaded).unreport owned).replaced
      · exact seen
    · exact seen
  · rintro error after (rfl | rfl)
    · exact now
    · exact ran

theorem applyOwned_kept :
    Safe clientId (applyOwned rule preserveCleanupFailure) Kept inventory world := by
  unfold applyOwned
  split
  · exact now
  refine safe_self (.bindExcept (store_safe now (fun loaded => ?_) (fun loaded => ?_) fun _ => now))
  · exact ((now.memory loaded).own fun _ failed => failed).replaced
  apply runApply_kept
  · exact loaded
  · rfl
  · exact ((now.memory loaded).own fun _ failed => failed).replaced
  · exact (OrderedMap.mem_keys_insert _).mpr (.inl rfl)
  · exact fun receipt => ((OrderedMap.mem_keys_remove _).mp receipt).2 rfl

theorem reportFailedApply_kept (error : String) :
    Safe clientId (reportFailedApply rule error) Kept inventory world := by
  refine safe_self ?_
  dsimp only
  split
  · exact now
  · refine safe_attempt (store_kept now fun loaded => ?_) fun result _ _ after => ?_
    · exact ((now.memory loaded).report _).replaced
    · cases result with
      | ok | error => exact after

theorem applyWithCleanupReport_kept :
    Safe clientId (applyWithCleanupReport rule preserveCleanupFailure) Kept inventory world := by
  refine safe_attempt (applyOwned_kept rule now) fun result _ _ after => ?_
  cases result with
  | ok => exact after
  | error error => exact reportFailedApply_kept rule after error

theorem confirmNativeRepairs_kept :
    Safe clientId (confirmNativeRepairs status repairIds failedInTransition) Kept inventory world := by
  unfold confirmNativeRepairs
  split
  · exact now
  refine safe_self ?_
  dsimp only
  split
  · refine store_kept now fun loaded => ?_
    have honest := now.memory loaded
    refine ⟨fun id member => ?_, fun id member => honest.unreceipted id (List.mem_filter.mp member).1⟩
    obtain ⟨flagged, unretired⟩ := List.mem_filter.mp member
    refine (honest.retained id flagged).imp_right fun failed => ?_
    by_contra retired
    rw [decide_eq_true_eq, List.mem_filter, decide_eq_true_eq] at unretired
    exact unretired ⟨failed, retired⟩
  · exact now

end AdapterInventory

/-! ## Runs of the agent -/

/-- What can happen to the agent: an operation, with the choices the environment makes for
    it, or a crash between operations. -/
inductive Event where
  | load (choices : List Choice)
  | synchronizeCleanupRequests (rules : List PortForwardCleanupRule) (choices : List Choice)
  | adoptDesired (config : AgentPortForwardingConfig) (choices : List Choice)
  | removeReplaced (config : AgentPortForwardingConfig) (canceled : Bool) (choices : List Choice)
  | applyWithCleanupReport (rule : PortForwardRule) (preserveCleanupFailure : Bool)
      (choices : List Choice)
  | confirmNativeRepairs (status : PortForwardRuntimeStatus)
      (repairIds failedInTransition : List Uuid) (choices : List Choice)
  | crash

/-- Perform what the choices are enough for. -/
def perform (clientId : String) (operation : Operation α) (choices : List Choice)
    (host : AdapterInventory × World) : AdapterInventory × World :=
  (operation.run.exec (environment clientId) choices host.1 host.2).2

def step (clientId : String) (host : AdapterInventory × World) :
    Event → AdapterInventory × World
  | .load choices => perform clientId AdapterInventory.load choices host
  | .synchronizeCleanupRequests rules choices =>
    perform clientId (AdapterInventory.synchronizeCleanupRequests rules) choices host
  | .adoptDesired config choices => perform clientId (AdapterInventory.adoptDesired config) choices host
  | .removeReplaced config canceled choices =>
    perform clientId (AdapterInventory.removeReplaced config canceled) choices host
  | .applyWithCleanupReport rule preserveCleanupFailure choices =>
    perform clientId (AdapterInventory.applyWithCleanupReport rule preserveCleanupFailure) choices host
  | .confirmNativeRepairs status repairIds failedInTransition choices =>
    perform clientId (AdapterInventory.confirmNativeRepairs status repairIds failedInTransition)
      choices host
  | .crash => ((environment clientId).fresh, host.2)

/-- A new agent and no file, after these events. -/
def afterEvents (clientId : String) (events : List Event) : AdapterInventory × World :=
  events.foldl (step clientId) ((environment clientId).fresh, {})

theorem Safe.perform {operation : Operation α} (safe : Safe clientId operation Kept inventory world) :
    Consistent (perform clientId operation choices (inventory, world)).1
      (perform clientId operation choices (inventory, world)).2 :=
  Program.Keeps.exec safe (fun _ _ _ kept => kept)

theorem step_consistent (now : Consistent inventory world) :
    Consistent (step clientId (inventory, world) event).1
      (step clientId (inventory, world) event).2 := by
  cases event with
  | load => exact (AdapterInventory.load_kept now).perform
  | synchronizeCleanupRequests =>
    exact (AdapterInventory.synchronizeCleanupRequests_kept now).perform
  | adoptDesired config => exact (AdapterInventory.adoptDesired_kept config now).perform
  | removeReplaced config =>
    exact (AdapterInventory.removeReplaced_kept config now).perform
  | applyWithCleanupReport rule =>
    exact (AdapterInventory.applyWithCleanupReport_kept rule now).perform
  | confirmNativeRepairs =>
    exact (AdapterInventory.confirmNativeRepairs_kept now).perform
  | crash => exact now.fresh

theorem afterEvents_consistent (clientId : String) (events : List Event) :
    Consistent (afterEvents clientId events).1 (afterEvents clientId events).2 := by
  unfold afterEvents
  have start : Consistent (environment clientId).fresh {} :=
    ⟨fun loaded => (by cases loaded), fun _ => rfl, ⟨by simp, by simp⟩⟩
  generalize (environment clientId).fresh = inventory at start
  generalize ({} : World) = world at start
  induction events generalizing inventory world with
  | nil => exact start
  | cons _ _ ih => exact ih _ _ (step_consistent start)

/-- Whatever happened, a flagged rule is owned or reported and has no receipt, in memory and
    in the file. Before it is loaded, an inventory has no maps and cannot be saved. -/
theorem flagged_rules_have_no_receipt (clientId : String) (events : List Event) :
    let (inventory, world) := afterEvents clientId events
    let file := world.file.getD {}
    ∀ id ∈ world.flagged,
      (inventory.loaded = true →
        id ∈ inventory.record.owned.keys ∨ id ∈ inventory.record.cleanupFailures.keys) ∧
      id ∉ inventory.record.removedRules.keys ∧
      (id ∈ file.owned.keys ∨ id ∈ file.cleanupFailures.keys) ∧
      id ∉ file.removedRules.keys := by
  have consistent := afterEvents_consistent clientId events
  generalize afterEvents clientId events = host at consistent ⊢
  obtain ⟨memory, unloaded, file⟩ := consistent
  intro id flagged
  refine ⟨fun loaded => (memory loaded).retained id flagged, ?_, file.retained id flagged,
    file.unreceipted id flagged⟩
  by_cases loaded : host.1.loaded = true
  · exact (memory loaded).unreceipted id flagged
  · rw [unloaded (Bool.eq_false_iff.mpr loaded), OrderedMap.keys_empty]
    exact List.not_mem_nil

end

/-! ## An Apply that is cut -/

def sampleAdapter : PortForwardAdapterCommands where
  definitionId := 7
  definitionName := "proxy"
  definitionHash := "00"
  contractVersion := adapterContractVersion
  apply := ⟨["proxy", "apply"], 30, 65536⟩
  remove := ⟨["proxy", "remove"], 30, 65536⟩
  status := ⟨["proxy", "status"], 30, 65536⟩

def sampleCustomRule : PortForwardRule where
  id := 1
  revision := 4
  name := "proxy"
  protocol := .tcp
  targetIp := none
  mappings := [⟨⟨80, 80⟩, ⟨8080, 8080⟩⟩]
  pool := none
  masquerade := false
  mode := .customAdapter
  addressFamily := none
  adapter := some sampleAdapter

/-- The agent crashes during Apply; the next one is asked to clean up, and the removal fails
    although the command ran. -/
def sampleEvents : List Event :=
  [.load [.succeed],
    .applyWithCleanupReport sampleCustomRule false [.succeed, .crash true],
    .load [.succeed],
    .synchronizeCleanupRequests [⟨1, 5⟩] [.succeed],
    .removeReplaced {} false [.succeed, .fail true "timed out", .succeed],
    .synchronizeCleanupRequests [⟨1, 6⟩] [.succeed]]

theorem sampleEvents_flagged :
    (1 : Uuid) ∈ (afterEvents "a" sampleEvents).2.flagged ∧
      (afterEvents "a" sampleEvents).1.loaded = true ∧
      ((1 : Uuid) ∈ (afterEvents "a" sampleEvents).1.record.owned.keys ∨
        (1 : Uuid) ∈ (afterEvents "a" sampleEvents).1.record.cleanupFailures.keys) ∧
      (1 : Uuid) ∉ (afterEvents "a" sampleEvents).1.record.removedRules.keys := by
  have flagged : (1 : Uuid) ∈ (afterEvents "a" sampleEvents).2.flagged := by decide +kernel
  have loaded : (afterEvents "a" sampleEvents).1.loaded = true := by decide +kernel
  obtain ⟨retained, unreceipted, -⟩ := flagged_rules_have_no_receipt "a" sampleEvents 1 flagged
  exact ⟨flagged, loaded, retained loaded, unreceipted⟩

end Vpsman.PortForward

import Vpsman.Lib.Interruptible
import Vpsman.Lib.OrderedMap
import Vpsman.PortForward.Config

/-! # Ownership of the resources of custom adapters

Rules of their own adapters are applied and removed by external commands. The agent records
which rules it may have applied, which removals failed, and which rules the server may
forget because they are removed. The record is saved before each Apply, and any operation
may be cut while it waits for a command or for the file.
-/

namespace Vpsman.PortForward

open Vpsman.Lib

instance Uuid.linearOrder : LinearOrder Uuid :=
  LinearOrder.lift' BitVec.toNat fun _ _ => BitVec.eq_of_toNat_eq

/-! ## Records -/

structure OwnedRule where
  clientId : String
  rule : PortForwardRule
  deriving Repr, DecidableEq

inductive PortForwardRuntimeStatus where
  | absent
  | applied
  | drifted
  | unsupported
  | failed
  | unknown
  deriving Repr, DecidableEq

inductive PortForwardUpstreamState where
  | eligible
  | excluded
  | unknown
  deriving Repr, DecidableEq

structure PortForwardUpstreamObservation where
  upstreamId : Uuid
  port : UInt16
  state : PortForwardUpstreamState
  reason : Option String
  retryAfterUnix : Option Nat
  deriving Repr, DecidableEq

structure PortForwardRuleRuntimeStat where
  ruleId : Uuid
  revision : Int64
  mode : PortForwardMode
  status : Option PortForwardRuntimeStatus
  errorCode : Option String := none
  errorMessage : Option String := none
  upstreamObservations : List PortForwardUpstreamObservation := []
  deriving Repr, DecidableEq

structure InventoryRecord where
  owned : OrderedMap Uuid OwnedRule := .empty
  /-- Receipts, with the revision that asked for the removal. -/
  removedRules : OrderedMap Uuid Int64 := .empty
  cleanupFailures : OrderedMap Uuid PortForwardRuleRuntimeStat := .empty

structure AdapterInventory where
  clientId : String
  loaded : Bool := false
  record : InventoryRecord := {}
  cleanupRequests : OrderedMap Uuid Int64 := .empty

def runtimeStat (rule : PortForwardRule) (status : PortForwardRuntimeStatus) :
    PortForwardRuleRuntimeStat :=
  { ruleId := rule.id, revision := rule.revision, mode := rule.mode, status := some status }

def errorStat (rule : PortForwardRule) (code message : String) : PortForwardRuleRuntimeStat :=
  { runtimeStat rule .failed with
    errorCode := some code
    errorMessage := some (String.ofList (message.toList.take 1024)) }

def cleanupErrorStat (config : AgentPortForwardingConfig) (saved : PortForwardRule)
    (code message : String) : PortForwardRuleRuntimeStat :=
  let rule := (config.rules.find? (·.id = saved.id)).getD saved
  let rule :=
    match config.cleanupRules.find? (·.ruleId = rule.id) with
    | some request => { rule with revision := request.revision }
    | none => rule
  errorStat rule code message

def sameAdapter (left right : PortForwardRule) : Bool :=
  let definition (rule : PortForwardRule) :=
    rule.adapter.map fun adapter => (adapter.definitionId, adapter.definitionHash)
  definition left = definition right

/-- The rules differ at most in the name of their adapter. -/
def ruleExecutionMatches (left right : PortForwardRule) : Bool :=
  let normalize (rule : PortForwardRule) : PortForwardRule :=
    { rule with adapter := rule.adapter.map fun adapter => { adapter with definitionName := "" } }
  normalize left = normalize right

def AdapterInventory.ownsDesired (inventory : AdapterInventory) (rule : PortForwardRule) : Bool :=
  (inventory.record.owned.get rule.id).any fun entry => ruleExecutionMatches entry.rule rule

/-! ## The world -/

inductive AdapterState where
  | applied
  | absent
  | drifted
  deriving Repr, DecidableEq

structure AdapterObservation where
  state : AdapterState
  message : Option String := none
  upstreamObservations : List PortForwardUpstreamObservation := []

def AdapterState.debug : AdapterState → String
  | .applied => "Applied"
  | .absent => "Absent"
  | .drifted => "Drifted"

def AdapterObservation.description (status : AdapterObservation) : String :=
  status.state.debug ++ (status.message.map (": " ++ ·)).getD ""

inductive Phase where
  | apply
  | remove
  deriving Repr, DecidableEq

/-- What an operation waits for. -/
inductive Call where
  | readFile
  /-- The rules that a repair retires are noted for the ghost state. -/
  | writeFile (record : InventoryRecord) (retired : List Uuid)
  | run (phase : Phase) (command : RuntimeTunnelCommand) (entry : OwnedRule)
  | observe (entry : OwnedRule)
  | isCanceled

abbrev Call.Result : Call → Type
  | .readFile => Option InventoryRecord
  | .writeFile _ _ | .run _ _ _ => Unit
  | .observe _ => AdapterObservation
  | .isCanceled => Bool

abbrev Call.Answer (call : Call) : Type := Except String call.Result

structure World where
  /-- The file `ownership.json`. -/
  file : Option InventoryRecord := none
  /-- Ghost: rules with an Apply since they were last seen to be gone. -/
  flagged : List Uuid := []
  /-- Ghost: rules whose last command was a Remove. -/
  removing : List Uuid := []

def World.replaceFile (world : World) (record : InventoryRecord) (retired : List Uuid) : World :=
  { world with
    file := some record
    flagged := world.flagged.filter (· ∉ retired) }

def World.ran (world : World) (id : Uuid) : Phase → World
  | .apply => { world with flagged := id :: world.flagged, removing := world.removing.filter (· ≠ id) }
  | .remove => { world with removing := id :: world.removing }

def World.observed (world : World) (id : Uuid) (state : AdapterState) : World :=
  if state = .absent ∧ id ∈ world.removing then
    { world with flagged := world.flagged.filter (· ≠ id) }
  else world

/-- What the environment does with a call. A call that is cut may have taken place all the
    same, and so may a command that fails; a file that cannot be saved is unchanged. -/
inductive Choice where
  | succeed
  | observed (status : AdapterObservation)
  | fail (begun : Bool) (error : String)
  | drop (begun : Bool)
  | crash (begun : Bool)

/-- The world after a call that was cut. -/
def World.afterCut (world : World) (begun : Bool) : Call → World
  | .writeFile record retired => if begun then world.replaceFile record retired else world
  | .run phase _ entry => if begun then world.ran entry.rule.id phase else world
  | _ => world

def World.perform : (call : Call) → Choice → World → Outcome World call.Answer
  | call, .drop begun, world => .dropped (world.afterCut begun call)
  | call, .crash begun, world => .crashed (world.afterCut begun call)
  | .readFile, .succeed, world => .answered (.ok world.file) world
  | .readFile, .fail _ error, world => .answered (.error error) world
  | .writeFile record retired, .succeed, world =>
    .answered (.ok ()) (world.replaceFile record retired)
  | .writeFile _ _, .fail _ error, world => .answered (.error error) world
  | .run phase _ entry, .succeed, world => .answered (.ok ()) (world.ran entry.rule.id phase)
  | .run phase _ entry, .fail begun error, world =>
    .answered (.error error) (if begun then world.ran entry.rule.id phase else world)
  | .observe entry, .observed status, world =>
    .answered (.ok status) (world.observed entry.rule.id status.state)
  | .observe _, .fail _ error, world => .answered (.error error) world
  | .isCanceled, .fail _ _, world => .answered (.ok true) world
  | .isCanceled, _, world => .answered (.ok false) world
  | _, _, world => .dropped world

def environment (clientId : String) : Environment AdapterInventory World Choice Call.Answer where
  fresh := { clientId }
  perform := World.perform

/-! ## Operations -/

abbrev Operation (α : Type) := ExceptT String (Program AdapterInventory Call.Answer) α

def self : Operation AdapterInventory := ExceptT.mk (.read fun inventory => .done (.ok inventory))

def assign (inventory : AdapterInventory) : Operation Unit :=
  ExceptT.mk (.assign inventory (.done (.ok ())))

def await (call : Call) : Operation call.Result := ExceptT.mk (.await call .done)

/-- Take an error as a result. -/
def attempt {α : Type} (operation : Operation α) : Operation (Except String α) :=
  ExceptT.mk (operation.run.bind fun result => .done (.ok result))

namespace AdapterInventory

def load : Operation Unit := do
  let inventory ← self
  if inventory.loaded then return
  else do
    let found ← await .readFile
    assign { inventory with record := found.getD {}, loaded := true }

def store (record : InventoryRecord) (retired : List Uuid) : Operation Unit := do
  let inventory ← self
  if inventory.loaded then do
    await (.writeFile record retired)
    assign { inventory with record }
  else throw "adapter inventory is not loaded"

def synchronizeCleanupRequests (rules : List PortForwardCleanupRule) : Operation Unit := do
  let inventory ← self
  let requests := OrderedMap.ofList (rules.map fun rule => (rule.ruleId, rule.revision))
  assign { inventory with cleanupRequests := requests }
  let record := inventory.record
  let receipts := requests.retain fun id =>
    id ∉ record.owned.keys && id ∉ record.cleanupFailures.keys
  if receipts ≠ record.removedRules then store { record with removedRules := receipts } []
  else return

def remove (entry : OwnedRule) : Operation Unit :=
  match entry.rule.adapter with
  | none => throw "saved custom owner has no adapter"
  | some adapter => do
    await (.run .remove adapter.remove entry)
    let status ← await (.observe entry)
    if status.state = .absent then do
      let inventory ← self
      let record := inventory.record
      let receipts :=
        match inventory.cleanupRequests.get entry.rule.id with
        | some revision => record.removedRules.insert entry.rule.id revision
        | none => record.removedRules
      store
        { owned := record.owned.remove entry.rule.id
          removedRules := receipts
          cleanupFailures := record.cleanupFailures.remove entry.rule.id } []
    else throw ("adapter removal verification: " ++ status.description)

/-- The removal of one owner, unless the work is canceled. -/
def removeUnlessCanceled (canceled : Bool) (entry : OwnedRule) : Operation Unit := do
  let stop ← if canceled then pure true else await .isCanceled
  if stop then throw "adapter cleanup canceled before removal" else remove entry

/-- The desired transition proceeds even after a failed removal. -/
def retireOwner (config : AgentPortForwardingConfig) (entry : OwnedRule) (error : String) :
    Operation PortForwardRuleRuntimeStat := do
  let report := cleanupErrorStat config entry.rule "adapter_remove_failed" error
  let inventory ← self
  let record := inventory.record
  store
    { owned := record.owned.remove entry.rule.id
      removedRules := record.removedRules.remove entry.rule.id
      cleanupFailures := record.cleanupFailures.insert entry.rule.id report } []
  return report

def removeReplaced (config : AgentPortForwardingConfig) (canceled : Bool) :
    Operation (List Uuid × List PortForwardRuleRuntimeStat) := do
  let inventory ← self
  let stale := inventory.record.owned.values.filter fun entry =>
    !config.rules.any fun rule =>
      rule.id = entry.rule.id && rule.mode = .customAdapter && sameAdapter rule entry.rule
  stale.foldlM (fun (removed, failed) entry => do
    match ← attempt (removeUnlessCanceled canceled entry) with
    | .ok () => return (removed ++ [entry.rule.id], failed)
    | .error error => do
      let report ← retireOwner config entry error
      return (removed, failed ++ [report])) ([], [])

/-- A rule that is desired is owned, whether or not its Apply was completed. -/
def adopt (inventory : AdapterInventory) (record : InventoryRecord) (rule : PortForwardRule) :
    InventoryRecord where
  cleanupFailures :=
    if inventory.ownsDesired rule ∨ rule.id ∈ record.cleanupFailures.keys then record.cleanupFailures
    else record.cleanupFailures.insert rule.id (errorStat rule "adapter_apply_incomplete"
      "newest desired adapter accepted without completed Apply")
  owned := record.owned.insert rule.id ⟨inventory.clientId, rule⟩
  removedRules := record.removedRules.remove rule.id

def adoptDesired (config : AgentPortForwardingConfig) : Operation Unit := do
  load
  synchronizeCleanupRequests config.cleanupRules
  let _ ← removeReplaced config true
  let inventory ← self
  store ((config.rules.filter (·.mode = .customAdapter)).foldl inventory.adopt inventory.record) []

/-- Run Apply and verify it; a verified Apply may clear an earlier failure. -/
def runApply (command : RuntimeTunnelCommand) (entry : OwnedRule) (preserveCleanupFailure : Bool) :
    Operation (List PortForwardUpstreamObservation) := do
  await (.run .apply command entry)
  let status ← await (.observe entry)
  if status.state = .applied then do
    let inventory ← self
    let record := inventory.record
    if !preserveCleanupFailure && entry.rule.id ∈ record.cleanupFailures.keys then do
      store { record with cleanupFailures := record.cleanupFailures.remove entry.rule.id } []
      return status.upstreamObservations
    else return status.upstreamObservations
  else throw ("adapter apply verification: " ++ status.description)

/-- The ownership is saved before the command runs. -/
def applyOwned (rule : PortForwardRule) (preserveCleanupFailure : Bool) :
    Operation (List PortForwardUpstreamObservation) :=
  match rule.adapter with
  | none => throw "custom rule has no adapter"
  | some adapter => do
    let inventory ← self
    let entry : OwnedRule := ⟨inventory.clientId, rule⟩
    let record := inventory.record
    store
      { record with
        owned := record.owned.insert rule.id entry
        removedRules := record.removedRules.remove rule.id } []
    runApply adapter.apply entry preserveCleanupFailure

/-- A failed Apply adds to what is known about an earlier failure. -/
def reportFailedApply (rule : PortForwardRule) (error : String) :
    Operation PortForwardRuleRuntimeStat := do
  let inventory ← self
  let record := inventory.record
  match record.cleanupFailures.get rule.id with
  | none => return errorStat rule "adapter_apply_failed" error
  | some cleanup => do
    let message := cleanup.errorMessage.getD "previous cleanup failed" ++
      "; newest adapter apply failed: " ++ error
    let report := errorStat rule "adapter_cleanup_and_apply_failed" message
    match ← attempt (store
      { record with cleanupFailures := record.cleanupFailures.insert rule.id report } []) with
    | .ok () => return report
    | .error persistError =>
      return errorStat rule "adapter_inventory_failed"
        (message ++ "; failed to save diagnostics: " ++ persistError)

def applyWithCleanupReport (rule : PortForwardRule) (preserveCleanupFailure : Bool) :
    Operation PortForwardRuleRuntimeStat := do
  match ← attempt (applyOwned rule preserveCleanupFailure) with
  | .ok observations =>
    return { runtimeStat rule .applied with upstreamObservations := observations }
  | .error error => reportFailedApply rule error

def apply (rule : PortForwardRule) : Operation PortForwardRuleRuntimeStat :=
  applyWithCleanupReport rule false

/-- An explicit native repair retires reports, but none of this transition's own. -/
def confirmNativeRepairs (status : PortForwardRuntimeStatus)
    (repairIds failedInTransition : List Uuid) : Operation Unit :=
  if status ≠ .applied then return
  else do
    let inventory ← self
    let record := inventory.record
    let failures := record.cleanupFailures.retain fun id =>
      id ∉ repairIds || id ∈ failedInTransition
    if failures.entries.length ≠ record.cleanupFailures.entries.length then
      store { record with cleanupFailures := failures }
        (record.cleanupFailures.keys.filter (· ∉ failures.keys))
    else return

end AdapterInventory

end Vpsman.PortForward

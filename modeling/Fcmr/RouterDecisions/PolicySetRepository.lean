import Fcmr.Library.Journals
import Fcmr.RouterDecisions.PolicySetDiff

/-! The store of policy sets. An update names the version it was made from; a stale, unknown or
invalid one is refused, and an accepted one is logged. Sets and logs are kept under one text
for business unit and id. -/
namespace Fcmr.RouterDecisions

open DotNet

/-- `none` is a field that is not supplied. -/
structure PolicySetUpdate where
  id : Text
  businessUnit : Text
  expectedVersion : Int32
  updatedBy : Text
  approvedVendors : Option (Finset ModelVendor) := none
  maxClassification : Option (AList fun _ : ModelVendor => DataClassification) := none
  allowedRegions : Option (Finset Text) := none
  maxCostPerRequestUsd : Option Decimal := none
  permitsRestrictedData : Option Bool := none

structure PolicySetChangeResult where
  policySet : PolicySet
  changed : List PolicySetFieldChange
  effectiveFrom : DateTimeOffset

/-- The exceptions of an update. -/
inductive PolicySetUpdateError
  | notFound (id : Text)
  | concurrency (id : Text) (expectedVersion actualVersion : Int32)
  | validation (error : PolicyValidationError)

def PolicySetUpdateError.message : PolicySetUpdateError → Text
  | notFound id => lit "Policy set '" ++ id ++ lit "' was not found."
  | concurrency id expectedVersion actualVersion =>
    lit "Policy set '" ++ id ++ lit "' is at version " ++ intText actualVersion.toInt ++
      lit "; the change expected version " ++ intText expectedVersion.toInt ++ lit ". " ++
      lit "The change was rejected rather than merged."
  | validation error => error.message

/-- Two dictionaries. The order in which they were filled is never seen: what is listed is
sorted by id. -/
structure InMemoryPolicySetRepository where
  sets : AList fun _ : Text => PolicySet
  history : AList fun _ : Text => List PolicySetChangeResult

abbrev PolicySetCall := PolicySetUpdate × DateTimeOffset

namespace InMemoryPolicySetRepository

def key (businessUnit id : Text) : Text := businessUnit ++ lit "/" ++ id

def seedSet (repository : InMemoryPolicySetRepository) (set : PolicySet) :
    InMemoryPolicySetRepository :=
  { repository with sets := repository.sets.insert (key set.businessUnit set.id) set }

/-- The constructor, which validates every seed. -/
def create (seed : List PolicySet) : Except PolicyValidationError InMemoryPolicySetRepository :=
  match seed.findSome? PolicySetValidator.validate with
  | some error => .error error
  | none => .ok (seed.foldl seedSet ⟨∅, ∅⟩)

variable (repository : InMemoryPolicySetRepository)

def listAsync (businessUnit : Text) : List PolicySet :=
  StableSort.sortBy (·.id) <|
    (repository.sets.entries.map (·.2)).filter fun set => set.businessUnit = businessUnit

def getAsync (businessUnit id : Text) : Option PolicySet :=
  repository.sets.lookup (key businessUnit id)

def proposed (current : PolicySet) (update : PolicySetUpdate) (now : DateTimeOffset) : PolicySet :=
  { current with
    approvedVendors := update.approvedVendors.getD current.approvedVendors
    maxClassification := update.maxClassification.getD current.maxClassification
    allowedRegions := update.allowedRegions.getD current.allowedRegions
    maxCostPerRequestUsd := update.maxCostPerRequestUsd.getD current.maxCostPerRequestUsd
    permitsRestrictedData := update.permitsRestrictedData.getD current.permitsRestrictedData
    version := current.version + 1
    updatedBy := some update.updatedBy
    updatedAt := some now }

def changeResult (current : PolicySet) (update : PolicySetUpdate) (now : DateTimeOffset) :
    PolicySetChangeResult where
  policySet := proposed current update now
  changed := diff current (proposed current update now)
  effectiveFrom := now

def updateAsync (update : PolicySetUpdate) (now : DateTimeOffset) :
    Except PolicySetUpdateError PolicySetChangeResult × InMemoryPolicySetRepository :=
  let key := key update.businessUnit update.id
  match repository.sets.lookup key with
  | none => (.error (.notFound update.id), repository)
  | some current =>
    if current.version ≠ update.expectedVersion then
      (.error (.concurrency update.id update.expectedVersion current.version), repository)
    else
      match PolicySetValidator.validate (proposed current update now) with
      | some error => (.error (.validation error), repository)
      | none =>
        (.ok (changeResult current update now),
          { sets := repository.sets.insert key (proposed current update now)
            history := repository.history.insert key
              ((repository.history.lookup key).getD [] ++ [changeResult current update now]) })

def historyAsync (businessUnit id : Text) (take : Int32) : List PolicySetChangeResult :=
  ((repository.history.lookup (key businessUnit id)).getD []).reverse.take take.toInt.toNat

/-- The calls as the lock admits them. -/
def run : List PolicySetCall → InMemoryPolicySetRepository :=
  List.foldl (fun repository call => (updateAsync repository call.1 call.2).2) repository

end InMemoryPolicySetRepository

open InMemoryPolicySetRepository

/-- What an accepted update made of the set it was made from. The version is a
`System.Int32`, and the one after the last wraps around. -/
structure Applied (prior : PolicySet) (call : PolicySetCall) (result : PolicySetChangeResult) :
    Prop where
  expected : prior.version = call.1.expectedVersion
  id : result.policySet.id = prior.id
  businessUnit : result.policySet.businessUnit = prior.businessUnit
  displayName : result.policySet.displayName = prior.displayName
  approvedVendors : result.policySet.approvedVendors =
    call.1.approvedVendors.getD prior.approvedVendors
  maxClassification : result.policySet.maxClassification =
    call.1.maxClassification.getD prior.maxClassification
  allowedRegions : result.policySet.allowedRegions = call.1.allowedRegions.getD prior.allowedRegions
  maxCostPerRequestUsd : result.policySet.maxCostPerRequestUsd =
    call.1.maxCostPerRequestUsd.getD prior.maxCostPerRequestUsd
  permitsRestrictedData : result.policySet.permitsRestrictedData =
    call.1.permitsRestrictedData.getD prior.permitsRestrictedData
  version : result.policySet.version = prior.version + 1
  consecutive : prior.version.toInt < 2 ^ 31 - 1 →
    result.policySet.version.toInt = prior.version.toInt + 1
  updatedBy : result.policySet.updatedBy = some call.1.updatedBy
  updatedAt : result.policySet.updatedAt = some call.2
  changed : result.changed = diff prior result.policySet
  effectiveFrom : result.effectiveFrom = call.2
  valid : result.policySet.Valid

namespace InMemoryPolicySetRepository

def rule : Journals.Rule PolicySet PolicySetCall PolicySetChangeResult where
  accept current call :=
    if current.version = call.1.expectedVersion ∧
        PolicySetValidator.validate (proposed current call.1 call.2) = none then
      some (changeResult current call.1 call.2)
    else none
  content := (·.policySet)

end InMemoryPolicySetRepository

end Fcmr.RouterDecisions

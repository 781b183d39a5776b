import Fcmr.DotNet.DecimalArithmetic
import Fcmr.DotNet.Time
import Mathlib.Data.Finset.Insert
import Mathlib.Data.List.AList
import Mathlib.Data.Prod.Lex

/-! The model catalog, policy sets and the record of a routing decision. -/
namespace Fcmr.RouterDecisions

open DotNet

inductive ModelTier
  | economy
  | standard
  | premium
  deriving DecidableEq

namespace ModelTier

/-- The value of the enumeration, by which tiers compare. -/
def value : ModelTier → Nat
  | economy => 0
  | standard => 1
  | premium => 2

def text : ModelTier → Text
  | economy => lit "Economy"
  | standard => lit "Standard"
  | premium => lit "Premium"

end ModelTier

inductive RoutingOutcome
  | routed
  | downgraded
  | denied
  | refusedByPolicy
  deriving DecidableEq

inductive ModelVendor
  | azureOpenAI
  | anthropic
  | xai
  | openWeight
  deriving DecidableEq

def ModelVendor.text : ModelVendor → Text
  | azureOpenAI => lit "AzureOpenAI"
  | anthropic => lit "Anthropic"
  | xai => lit "XAI"
  | openWeight => lit "OpenWeight"

theorem ModelVendor.text_injective : Function.Injective ModelVendor.text := by
  intro vendor vendor' h
  cases vendor <;> cases vendor' <;> first | rfl | exact absurd h (by decide)

inductive ServingMode
  | serverless
  | managedCompute
  deriving DecidableEq

inductive DataClassification
  | publicData
  | internal
  | confidential
  | restricted
  deriving DecidableEq

namespace DataClassification

def value : DataClassification → Nat
  | publicData => 0
  | internal => 1
  | confidential => 2
  | restricted => 3

def text : DataClassification → Text
  | publicData => lit "Public"
  | internal => lit "Internal"
  | confidential => lit "Confidential"
  | restricted => lit "Restricted"

end DataClassification

structure TierPricing where
  tier : ModelTier
  deployment : Text
  costPerRequestUsd : Decimal
  available : Bool := true
  vendor : ModelVendor := .azureOpenAI
  serving : ServingMode := .serverless

/-- No allowed region means that every region is. -/
structure PolicySet where
  id : Text
  businessUnit : Text
  displayName : Text := []
  approvedVendors : Finset ModelVendor
  maxClassification : AList fun _ : ModelVendor => DataClassification
  allowedRegions : Finset Text := ∅
  maxCostPerRequestUsd : Decimal := .maxValue
  permitsRestrictedData : Bool := false
  version : Int32 := 1
  updatedBy : Option Text := none
  updatedAt : Option DateTimeOffset := none

inductive PolicyExclusionKind
  | vendorNotApproved
  | classificationExceeded
  | regionNotPermitted
  | policyCostCeiling
  deriving DecidableEq

structure PolicyExclusion where
  deployment : Text
  vendor : ModelVendor
  kind : PolicyExclusionKind
  reason : Text

structure TierCandidate where
  tier : ModelTier
  deployment : Text
  projectedCostUsd : Decimal
  vendor : ModelVendor
  selected : Bool
  rejectedReason : Option Text

structure RoutingDecision where
  complexityScore : Double
  costCeilingUsd : Decimal
  outcome : RoutingOutcome
  selectedTier : Option ModelTier
  selectedDeployment : Option Text
  selectedVendor : Option ModelVendor
  candidateTiers : List TierCandidate
  rationale : Text
  policySetId : Option Text := none
  policySetVersion : Option Int32 := none
  dataClassification : Option DataClassification := none
  policyExclusions : List PolicyExclusion := []

def costKey (entry : TierPricing) : ℚ ×ₗ Text :=
  toLex (entry.costPerRequestUsd.value, entry.deployment)

def pricingKey (entry : TierPricing) : ℕ ×ₗ ℚ ×ₗ Text := toLex (entry.tier.value, costKey entry)

end Fcmr.RouterDecisions

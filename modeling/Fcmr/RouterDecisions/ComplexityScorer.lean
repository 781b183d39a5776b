import Fcmr.DotNet.Floating
import Fcmr.RouterDecisions.Catalog

/-! The complexity score of a task, between 0 and 1, and the tier it indicates. -/
namespace Fcmr.RouterDecisions

open DotNet

structure ComplexityHints where
  inputTokenEstimate : Int32 := 0
  requiresMultiStep : Bool := false
  requiresRetrieval : Bool := false
  requiresToolCalls : Bool := false

namespace ComplexityScorer

def tokenWeight : Double := .ofRat 0.40
def multiStepWeight : Double := .ofRat 0.25
def retrievalWeight : Double := .ofRat 0.20
def toolCallWeight : Double := .ofRat 0.15
def tokenSaturation : Double := .ofRat 32000

def score (hints : ComplexityHints) : Double :=
  let tokens := max hints.inputTokenEstimate.toInt 0
  let tokenSignal := ((Double.ofRat tokens).div tokenSaturation).min (.ofRat 1)
  let score :=
    (((tokenSignal.mul tokenWeight).add
      (if hints.requiresMultiStep then multiStepWeight else .ofRat 0)).add
      (if hints.requiresRetrieval then retrievalWeight else .ofRat 0)).add
      (if hints.requiresToolCalls then toolCallWeight else .ofRat 0)
  (score.clamp (.ofRat 0) (.ofRat 1)).round 4

def indicatedTier (score : Double) : ModelTier :=
  if score.lt (.ofRat 0.35) then .economy
  else if score.lt (.ofRat 0.70) then .standard
  else .premium

example : score { inputTokenEstimate := 8000, requiresMultiStep := true } = .ofRat 0.35 ∧
    indicatedTier (.ofRat 0.35) = .standard := by
  decide +kernel

end ComplexityScorer

end Fcmr.RouterDecisions

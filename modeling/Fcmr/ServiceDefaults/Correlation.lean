import Fcmr.DotNet.Text

/-! The correlation id of the request in flight. -/
namespace Fcmr.ServiceDefaults

open DotNet

inductive CorrelationIdSource
  | generated
  | header
  | body
  deriving DecidableEq

namespace CorrelationIdFormat

def headerName : Text := lit "X-Correlation-Id"

def maxLength : Nat := 128

def isAcceptable (value : Option Text) : Bool :=
  match value with
  | none => false
  | some value =>
    if isNullOrWhiteSpace (some value) || maxLength < value.length then false
    else value.all fun c =>
      isAsciiLetterOrDigit c || c == digit '-' || c == digit '_' || c == digit '.' || c == digit ':'

end CorrelationIdFormat

structure CorrelationIdAccessor where
  value : Text
  source : CorrelationIdSource

def CorrelationIdAccessor.establish (value : Text) (source : CorrelationIdSource) :
    CorrelationIdAccessor where
  value
  source

/-- `TryAdoptFromBody`: false, and no change, when a supplied header disagrees. -/
def CorrelationIdAccessor.tryAdoptFromBody (accessor : CorrelationIdAccessor)
    (candidate : Option Text) : Bool × CorrelationIdAccessor :=
  match candidate with
  | none => (true, accessor)
  | some candidate =>
    if CorrelationIdFormat.isAcceptable (some candidate) = false then (true, accessor)
    else if candidate = accessor.value then (true, accessor)
    else if accessor.source ≠ .generated then (false, accessor)
    else (true, { value := candidate, source := .body })

/-- `InvokeAsync` up to the call of `next`: the text of the header as sent, empty when it is
missing, and the guid that would be drawn. -/
def CorrelationIdMiddleware.invokeAsync (supplied generated : Text) : CorrelationIdAccessor :=
  if CorrelationIdFormat.isAcceptable (some supplied) then .establish supplied .header
  else .establish generated .generated

end Fcmr.ServiceDefaults

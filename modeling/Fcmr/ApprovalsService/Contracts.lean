import Fcmr.Approvals.Approval

/-! Requests, responses and the caller's identity. -/
namespace Fcmr.ApprovalsService

open DotNet Approvals

structure CreateApprovalRequest where
  lane : Lane
  evidencePacket : Option EvidencePacket
  expiresAt : Option DateTimeOffset
  /-- The names of the members that the contract does not define. -/
  extra : Option (List Text)

structure DecisionRequest where
  decision : Option Text
  reason : Option Text
  extra : Option (List Text)

namespace RejectedIdentityMembers

def names : List Text :=
  [lit "proposedByObjectId", lit "decidedByObjectId", lit "actorObjectId", lit "objectId", lit "oid"]

/-- The first member, in the order of `names`, that names an identity. -/
def find (extra : Option (List Text)) : Option Text :=
  match extra with
  | none => none
  | some keys =>
    names.findSome? fun name => keys.find? fun key => equalsOrdinalIgnoreCase (some key) (some name)

end RejectedIdentityMembers

structure Claim where
  type : Text
  value : Text

/-- `isAuthenticated` is that of the primary identity; claims are in the order searched. -/
structure ClaimsPrincipal where
  isAuthenticated : Bool
  claims : List Claim

namespace ApprovalsAuthorization

def objectIdClaims : List Text :=
  [lit "oid", lit "http://schemas.microsoft.com/identity/claims/objectidentifier",
    lit "http://schemas.microsoft.com/identity/claims/objectidentifier"]

def findFirst (principal : ClaimsPrincipal) (claimType : Text) : Option Text :=
  (principal.claims.find? fun claim =>
    equalsOrdinalIgnoreCase (some claim.type) (some claimType)).map (·.value)

/-- `ObjectId`: the first claim type whose claim is not blank. -/
def objectId (principal : Option ClaimsPrincipal) : Option Text :=
  match principal with
  | none => none
  | some principal =>
    if principal.isAuthenticated then
      objectIdClaims.findSome? fun claimType =>
        (findFirst principal claimType).filter fun value => !isNullOrWhiteSpace (some value)
    else none

end ApprovalsAuthorization

structure ApprovalErrorResponse where
  error : Text
  detail : Text
  correlationId : Text

structure ApprovalResponse where
  id : Text
  correlationId : Text
  lane : Lane
  state : ApprovalState
  evidencePacketHash : Text
  proposedByObjectId : Text
  decidedByObjectId : Option Text
  decisionReason : Option Text
  expiresAt : DateTimeOffset
  createdAt : DateTimeOffset
  decidedAt : Option DateTimeOffset
  evidencePacket : Option EvidencePacket
  proposedAction : ProposedAction
  evidenceIntegrityVerified : Bool

def ApprovalResponse.from [RoundTripFormat] (approval : Approval) (includePacket : Bool) :
    ApprovalResponse where
  id := approval.id
  correlationId := approval.correlationId
  lane := approval.lane
  state := approval.state
  evidencePacketHash := approval.evidencePacketHash
  proposedByObjectId := approval.proposedByObjectId
  decidedByObjectId := approval.decidedByObjectId
  decisionReason := approval.decisionReason
  expiresAt := approval.expiresAt
  createdAt := approval.createdAt
  decidedAt := approval.decidedAt
  evidencePacket := if includePacket then some approval.evidencePacket else none
  proposedAction := approval.proposedAction
  evidenceIntegrityVerified := approval.verifyEvidenceIntegrity

inductive Body
  | error (response : ApprovalErrorResponse)
  | approval (response : ApprovalResponse)

/-- `IResult` as the handlers build it. -/
structure Result where
  statusCode : Nat
  body : Body

end Fcmr.ApprovalsService

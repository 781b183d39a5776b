import Fcmr.ApprovalsService.Contracts

/-! The role filter and the caller's identity, as the lane services share them. -/
namespace Fcmr.ServiceDefaults

open DotNet ApprovalsService

namespace FcmrAuthorization

def roleClaims : List Text :=
  [lit "roles", lit "http://schemas.microsoft.com/ws/2008/06/identity/claims/role",
    lit "http://schemas.microsoft.com/identity/claims/roles"]

def hasRole (principal : Option ClaimsPrincipal) (requiredRole : Text) : Bool :=
  match principal with
  | none => false
  | some principal =>
    principal.isAuthenticated &&
      principal.claims.any fun claim => roleClaims.contains claim.type && claim.value == requiredRole

def objectIdClaims : List Text :=
  [lit "oid", lit "http://schemas.microsoft.com/identity/claims/objectidentifier",
    lit "http://schemas.microsoft.com/identity/claims/objectidentifier"]

/-- `ObjectId`, the same search as that of the approvals service. -/
def objectId (principal : Option ClaimsPrincipal) : Option Text :=
  match principal with
  | none => none
  | some principal =>
    if principal.isAuthenticated then
      objectIdClaims.findSome? fun claimType =>
        (ApprovalsAuthorization.findFirst principal claimType).filter fun value =>
          !isNullOrWhiteSpace (some value)
    else none

end FcmrAuthorization

structure FilterRefusal where
  error : Text
  detail : Text

/-- `RequireAppRoleFilter`: `none` lets the request through. Without enforcement there is
no authorization service to ask. -/
def requireAppRole (enforced : Bool) (requiredRole : Text) (user : Option ClaimsPrincipal) :
    Option FilterRefusal :=
  if enforced && !FcmrAuthorization.hasRole user requiredRole then
    some {
      error := lit "Forbidden"
      detail := lit "The caller does not hold the " ++ requiredRole ++ lit " app role." }
  else none

theorem requireAppRole_of_hasRole {requiredRole : Text} {user : Option ClaimsPrincipal}
    (h : FcmrAuthorization.hasRole user requiredRole = true) (enforced : Bool) :
    requireAppRole enforced requiredRole user = none := by
  simp [requireAppRole, h]

end Fcmr.ServiceDefaults

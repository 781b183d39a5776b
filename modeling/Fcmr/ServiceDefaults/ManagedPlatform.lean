import Fcmr.ServiceDefaults.Security

/-! The guard that a service passes when it is composed: without enforcement it does not start on
a host that its platform has marked. -/
namespace Fcmr.ServiceDefaults

open DotNet

/-- What a service finds where it is started: the variables of its process, the name of its
environment, and the setting of enforcement under each configuration key. -/
structure Host where
  lookup : Text → Option Text
  isDevelopment : Bool
  enabled : Text → Option Bool

namespace ManagedPlatform

def markers : List Text :=
  [lit "CONTAINER_APP_NAME", lit "CONTAINER_APP_REVISION", lit "CONTAINER_APP_ENV_DNS_SUFFIX",
    lit "WEBSITE_SITE_NAME", lit "KUBERNETES_SERVICE_HOST", lit "MSI_ENDPOINT",
    lit "IDENTITY_ENDPOINT"]

def detectMarker (lookup : Text → Option Text) : Option Text :=
  markers.find? fun marker => !((lookup marker).getD []).isEmpty

/-- An error is the message of the exception. -/
def guardAgainstUnauthenticatedDeployment (isEnforced : Bool)
    (disabledControl consequence settingPath : Text) (lookup : Text → Option Text) :
    Except Text Unit :=
  if isEnforced then .ok ()
  else
    match detectMarker lookup with
    | none => .ok ()
    | some marker =>
      .error <| disabledControl ++ lit " is disabled, but '" ++ marker ++
        lit "' shows this process is running on a " ++
        lit "managed Azure platform rather than a developer workstation. " ++ consequence ++
        lit " Remove the Development environment setting, or set " ++ settingPath ++
        lit " to true."

theorem guard_ok {isEnforced : Bool} {disabledControl consequence settingPath : Text}
    {lookup : Text → Option Text} (h : guardAgainstUnauthenticatedDeployment isEnforced
      disabledControl consequence settingPath lookup = .ok ()) :
    isEnforced = true ∨ detectMarker lookup = none := by
  unfold guardAgainstUnauthenticatedDeployment at h
  split at h
  · rename_i hon
    exact .inl hon
  split at h
  · rename_i hnone
    exact .inr hnone
  · cases h

end ManagedPlatform

/-- The platform marks the host. -/
def Host.IsManaged (host : Host) : Prop := ManagedPlatform.detectMarker host.lookup ≠ none

structure FcmrAuthorization where
  enabledConfigurationKey : Text
  disabledControl : Text
  consequence : Text

/-- True unless enforcement is switched off and the host is Development. -/
def FcmrAuthorization.isEnforced (authorization : FcmrAuthorization) (host : Host) : Bool :=
  (host.enabled authorization.enabledConfigurationKey).getD true || !host.isDevelopment

def FcmrAuthorization.register (authorization : FcmrAuthorization) (host : Host) :
    Except Text Bool := do
  ManagedPlatform.guardAgainstUnauthenticatedDeployment (authorization.isEnforced host)
    authorization.disabledControl authorization.consequence authorization.enabledConfigurationKey
    host.lookup
  return authorization.isEnforced host

theorem FcmrAuthorization.registered {authorization : FcmrAuthorization} {host : Host}
    (hmanaged : host.IsManaged) {found : Bool} (h : authorization.register host = .ok found) :
    authorization.isEnforced host = true ∧ found = true := by
  unfold register at h
  cases hguard : ManagedPlatform.guardAgainstUnauthenticatedDeployment
      (authorization.isEnforced host) authorization.disabledControl authorization.consequence
      authorization.enabledConfigurationKey host.lookup with
  | error message =>
    rw [hguard] at h
    cases h
  | ok =>
    rw [hguard] at h
    have hfound : authorization.isEnforced host = found := Except.ok.inj h
    have henforced := (ManagedPlatform.guard_ok hguard).resolve_right hmanaged
    exact ⟨henforced, hfound.symm.trans henforced⟩

theorem requireAppRole_eq_none {requiredRole : Text}
    {user : Option ApprovalsService.ClaimsPrincipal}
    (h : requireAppRole true requiredRole user = none) :
    FcmrAuthorization.hasRole user requiredRole = true := by
  unfold requireAppRole at h
  split at h
  · cases h
  · rename_i hrole
    rwa [Bool.true_and, Bool.not_eq_true', Bool.not_eq_false] at hrole

end Fcmr.ServiceDefaults

import Fcmr.ApprovalsService.Accountability
import Fcmr.OrderRoutingService.Authorship
import Fcmr.RouterService.Answers

/-! The five services on one host. Where the platform marks the host, a service that has started
serves no caller without the role, whatever the environment is called. -/
namespace Fcmr

open DotNet ServiceDefaults Programs
open ApprovalsService (ClaimsPrincipal)

namespace ApprovalsService.ApprovalsAuthorization

def settingPath : Text := lit "Approvals:Authorization:Enabled"

def guardAgainstUnauthenticatedDeployment (host : Host) : Except Text Unit :=
  ManagedPlatform.guardAgainstUnauthenticatedDeployment
    (isEnforced (host.enabled settingPath) host.isDevelopment)
    (lit "Approval role enforcement")
    (lit "No consequential action may execute without a recorded human approval " ++
      lit "(Principle I), and an unauthenticated approvals service records approvals nobody " ++
      lit "made.")
    settingPath host.lookup

end ApprovalsService.ApprovalsAuthorization

namespace RouterService.RouterAuthorization

def settingPath : Text := lit "Router:Authorization:Enabled"

def guardAgainstUnauthenticatedDeployment (host : Host) : Except Text Unit :=
  ManagedPlatform.guardAgainstUnauthenticatedDeployment
    (isEnforced (host.enabled settingPath) host.isDevelopment)
    (lit "Router.Invoke enforcement")
    (lit "Disabling app-role enforcement is a local development affordance only. The router " ++
      lit "is the sole path to a model (Principle IV), so an unauthenticated router is that " ++
      lit "path standing open.")
    settingPath host.lookup

end RouterService.RouterAuthorization

def OrderRoutingService.OrderRoutingAuthorization.create : FcmrAuthorization where
  enabledConfigurationKey := lit "OrderRouting:Authorization:Enabled"
  disabledControl := lit "Order routing app-role enforcement"
  consequence :=
    lit "This service is the only path to an execution, and no consequential action may run " ++
      lit "without a recorded human approval (Principle I). Unauthenticated, it cannot establish " ++
      lit "who approved, so segregation of duties compares nothing."

def ResearchService.ResearchAuthorization.create : FcmrAuthorization where
  enabledConfigurationKey := lit "Research:Authorization:Enabled"
  disabledControl := lit "Research app-role enforcement"
  consequence :=
    lit "Research output is attributable to the analyst who requested it (Principle VI). " ++
      lit "Unauthenticated, the audit record names nobody, and the coverage figure on a brief " ++
      lit "cannot be traced to who accepted it."

def SurveillanceService.SurveillanceAuthorization.create : FcmrAuthorization where
  enabledConfigurationKey := lit "Surveillance:Authorization:Enabled"
  disabledControl := lit "Surveillance app-role enforcement"
  consequence :=
    lit "Escalating or dismissing an alert is a consequential action requiring a recorded " ++
      lit "human approval (Principle I). Unauthenticated, this service cannot establish who " ++
      lit "proposed or who approved, so segregation of duties compares nothing."

namespace Deployments

structure RoleBound (arrivals : List ApprovalsService.Inbound) (approval : Approvals.Approval) :
    Prop where
  proposed : ∃ inbound ∈ arrivals, ∃ body user correlation,
    inbound.request = .create (some body) user correlation ∧
      ApprovalsService.ApprovalsAuthorization.objectId user = some approval.proposedByObjectId ∧
      ApprovalsService.ApprovalsAuthorization.hasRole user
        ApprovalsService.ApprovalRoles.proposer = true
  decided : ∀ decidedBy, approval.decidedByObjectId = some decidedBy →
    ∃ inbound ∈ arrivals, ∃ body user correlation,
      inbound.request = .decide approval.id body user correlation ∧
        ApprovalsService.ApprovalsAuthorization.objectId user = some decidedBy ∧
        ApprovalsService.ApprovalsAuthorization.hasRole user
          ApprovalsService.ApprovalRoles.approver = true

/-- The services of a host, once started. The router and the approvals service read the setting
anew for each request; the lane services never do. -/
structure Guarded [RoundTripFormat] (host : Host) : Prop where
  approvals : ApprovalsService.ApprovalsAuthorization.guardAgainstUnauthenticatedDeployment host =
      .ok () →
    ∀ arrivals turns, (∀ inbound ∈ arrivals, inbound.enabled =
      host.enabled ApprovalsService.ApprovalsAuthorization.settingPath) → ∀ id approval,
      (ApprovalsService.reached host.isDevelopment arrivals turns).getAsync id = some approval →
        RoleBound arrivals approval
  router : RouterService.RouterAuthorization.guardAgainstUnauthenticatedDeployment host = .ok () →
    ∀ (arrivals : List RouterService.Arrival) policySets turns,
      (∀ turn ∈ turns, turn.2.options.authorization.enabled =
        host.enabled RouterService.RouterAuthorization.settingPath) →
      ∀ (i : Nat) (result : RouterService.RouteHttpResult),
      ((RouterService.serving arrivals policySets host.isDevelopment).run
        RouterService.serve turns).threads[i]? = some (.done (some result)) →
      result.statusCode = 403 ∨ ∃ arrival, arrivals[i]? = some arrival ∧ ∃ turn ∈ turns,
        RouterService.RouterAuthorization.hasRole arrival.user
          turn.2.options.authorization.requiredRole = true
  orderRouting : ∀ found,
    OrderRoutingService.OrderRoutingAuthorization.create.register host = .ok found →
    ∀ arrivals turns, OrderRoutingService.Authored arrivals
      ((OrderRoutingService.hosting found arrivals).run OrderRoutingService.serve turns).state
  lanes : ∀ authorization ∈ [ResearchService.ResearchAuthorization.create,
      SurveillanceService.SurveillanceAuthorization.create], ∀ found,
    authorization.register host = .ok found → ∀ requiredRole user,
      requireAppRole found requiredRole user = none →
        FcmrAuthorization.hasRole user requiredRole = true

section

variable [RoundTripFormat]

theorem roleBound_of_accounted {isDevelopment : Bool} {arrivals : List ApprovalsService.Inbound}
    {store : ApprovalsService.InMemoryApprovalStore}
    (h : ApprovalsService.Accounted isDevelopment arrivals store)
    (henforced : ∀ inbound ∈ arrivals, ApprovalsService.ApprovalsAuthorization.isEnforced
      inbound.enabled isDevelopment = true) {id : Text} {approval : Approvals.Approval}
    (hstored : store.getAsync id = some approval) : RoleBound arrivals approval where
  proposed := by
    obtain ⟨inbound, hinbound, body, user, correlation, harrived, hproposer, _, _, _, hrole⟩ :=
      (h.raised id approval hstored).source
    exact ⟨inbound, hinbound, body, user, correlation, harrived, hproposer,
      hrole (henforced inbound hinbound)⟩
  decided := by
    intro decidedBy hdecided
    cases h.concluded id approval hstored with
    | pending _ undecided => cases undecided.1.symm.trans hdecided
    | expired _ decider _ => cases decider.symm.trans hdecided
    | decided decider instant byOther _ =>
      cases byOther.decider.symm.trans hdecided
      obtain ⟨inbound, hinbound, body, user, correlation, _, _, harrived, hdecider, _, _, _, hrole⟩ :=
        byOther.source
      exact ⟨inbound, hinbound, body, user, correlation, harrived, hdecider,
        hrole (henforced inbound hinbound)⟩

omit [RoundTripFormat] in
theorem router_enforced {arrivals : List RouterService.Arrival}
    {policySets : RouterDecisions.InMemoryPolicySetRepository} {isDevelopment : Bool}
    {turns : List (Nat × RouterService.Moment)}
    (henforced : ∀ turn ∈ turns, RouterService.RouterAuthorization.isEnforced
      turn.2.options.authorization.enabled isDevelopment = true) {i : Nat} :
    (i, ⟨RouterService.Op.isEnforced, false⟩) ∉
      (RouterService.serving arrivals policySets isDevelopment).events RouterService.serve turns := by
  intro hoff
  obtain ⟨before, moment, hprefix, hserve⟩ := Pool.event_state _ hoff
  have hfound : RouterService.RouterAuthorization.isEnforced moment.options.authorization.enabled
      ((RouterService.serving arrivals policySets isDevelopment).run RouterService.serve
        before).state.isDevelopment = false := congrArg Prod.fst hserve
  rw [RouterService.isDevelopment_run] at hfound
  have hturn : (i, moment) ∈ turns :=
    hprefix.subset (List.mem_append_right _ (List.mem_singleton_self _))
  cases hfound.symm.trans (henforced _ hturn)

omit [RoundTripFormat] in
theorem router_roleBound {arrivals : List RouterService.Arrival}
    {policySets : RouterDecisions.InMemoryPolicySetRepository} {isDevelopment : Bool}
    {turns : List (Nat × RouterService.Moment)}
    (henforced : ∀ turn ∈ turns, RouterService.RouterAuthorization.isEnforced
      turn.2.options.authorization.enabled isDevelopment = true) {i : Nat}
    {result : RouterService.RouteHttpResult}
    (hdone : ((RouterService.serving arrivals policySets isDevelopment).run
      RouterService.serve turns).threads[i]? = some (.done (some result))) :
    result.statusCode = 403 ∨ ∃ arrival, arrivals[i]? = some arrival ∧ ∃ turn ∈ turns,
      RouterService.RouterAuthorization.hasRole arrival.user
        turn.2.options.authorization.requiredRole = true := by
  obtain ⟨arrival, harrival, htrace⟩ := RouterService.serving_thread hdone
  rcases RouterService.invokeAsync_authorized htrace with (hoff | ⟨requiredRole, hrequired, hrole⟩) |
    ⟨requiredRole, rfl⟩
  · exact absurd (mem_own.mp hoff) (router_enforced henforced)
  · obtain ⟨turn, hturn, rfl⟩ := RouterService.requiredRole_turn hrequired
    exact .inr ⟨arrival, harrival, turn, hturn, hrole⟩
  · exact .inl rfl

end

namespace Samples

def misconfigured : Host where
  lookup name := if name = lit "CONTAINER_APP_NAME" then some (lit "fcmr-approvals") else none
  isDevelopment := true
  enabled _ := none

end Samples

end Deployments

end Fcmr

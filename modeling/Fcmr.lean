import Fcmr.Approvals.Absence
import Fcmr.Approvals.Provenance
import Fcmr.Approvals.Rehydration
import Fcmr.ApprovalsService.AuditCoverage
import Fcmr.ApprovalsService.Expiry
import Fcmr.ApprovalsService.Interleavings
import Fcmr.ApprovalsService.Queries
import Fcmr.ApprovalsService.RefusalStatus
import Fcmr.DemoData.Executions
import Fcmr.DemoData.Streams
import Fcmr.Deployments
import Fcmr.NeverFlattering
import Fcmr.OrderRouting.QuoteOrder
import Fcmr.OrderRoutingService.Identity
import Fcmr.OrderRoutingService.Proposals
import Fcmr.OrderRoutingService.SingleUse
import Fcmr.OrderRoutingService.Terms
import Fcmr.Research.Isolation
import Fcmr.ResearchService.ResearchEndpoints
import Fcmr.RouterDecisions.Ceilings
import Fcmr.RouterDecisions.PlanOrder
import Fcmr.RouterDecisions.PolicyScope
import Fcmr.RouterDecisions.ValidatedPolicies
import Fcmr.RouterDecisions.Withdrawal
import Fcmr.RouterService.Answers
import Fcmr.RouterService.ModelCatalog
import Fcmr.RouterService.PayloadScreen
import Fcmr.RouterService.Queries
import Fcmr.RouterService.RouteStatusMapper
import Fcmr.Segregation
import Fcmr.ServiceDefaults.Adoption
import Fcmr.SurveillanceService.DraftedMemos
import Fcmr.SurveillanceService.EscalationHistory
import Fcmr.SurveillanceService.TriageEndpoints
import Fcmr.WebUi.ApprovalRules
import Fcmr.WebUi.DecisionFailures
import Fcmr.WebUi.ShownAnswers
import Fcmr.WebUi.ShownExecutions
import Fcmr.WebUi.DecisionPanel

import DealFlow.Addon.AccountingAdapter
import DealFlow.Addon.DealContext
import DealFlow.Addon.EventDispatcher
import DealFlow.Addon.FulfillmentApi
import DealFlow.Addon.IntegrationService
import DealFlow.Addon.InventoryAdapter
import DealFlow.Addon.Negotiation
import DealFlow.Addon.Orm
import DealFlow.Addon.PortalController
import DealFlow.Addon.Records
import DealFlow.Addon.SaleOrder
import DealFlow.Addon.SaleOrderGovernance
import DealFlow.Addon.SalesAdapter
import DealFlow.Addon.Schemas
import DealFlow.Addon.Security
import DealFlow.Addon.SubscriptionAdapter
import DealFlow.Addon.WebhookUrl
import DealFlow.AddonGovernance.ApprovalAuthority
import DealFlow.AddonGovernance.ApprovalTokens
import DealFlow.AddonGovernance.ApprovedTerms
import DealFlow.AddonGovernance.Gates
import DealFlow.AddonGovernance.InviolableConfirmation
import DealFlow.AddonGovernance.LineCommands
import DealFlow.AddonGovernance.NegotiatedTerms
import DealFlow.AddonGovernance.NegotiationAuthority
import DealFlow.AddonGovernance.NegotiationCalls
import DealFlow.AddonGovernance.NegotiationTerms
import DealFlow.AddonGovernance.OpenNegotiations
import DealFlow.AddonGovernance.OrderMoves
import DealFlow.AddonGovernance.RisingDiscounts
import DealFlow.AddonPortal.PortalRuns
import DealFlow.Alerts.AnomalyMonotone
import DealFlow.Alerts.Baseline
import DealFlow.Alerts.Conditions
import DealFlow.Alerts.ControlTower
import DealFlow.Alerts.Disturbance
import DealFlow.Alerts.Lifecycle
import DealFlow.Alerts.Nudges
import DealFlow.Alerts.Pass
import DealFlow.Alerts.Settle
import DealFlow.Alerts.Stalled
import DealFlow.Api.Events
import DealFlow.Api.Identity
import DealFlow.Api.Portal
import DealFlow.Billing.BilledOnce
import DealFlow.Billing.BilledRevenue
import DealFlow.Billing.BillingReport
import DealFlow.Billing.DeadOrders
import DealFlow.Billing.PaymentLedger
import DealFlow.Billing.PaymentStatus
import DealFlow.Billing.RenewalSchedule
import DealFlow.Billing.Renewals
import DealFlow.Billing.RevenueViews
import DealFlow.Core.Security
import DealFlow.Db.Session
import DealFlow.Deals.Registry
import DealFlow.Dispatcher.AuditTrail
import DealFlow.Dispatcher.Delivery
import DealFlow.Fulfillment.AggregateDemand
import DealFlow.Fulfillment.Allocation
import DealFlow.Fulfillment.Choice
import DealFlow.Fulfillment.Conservation
import DealFlow.Fulfillment.ForcedExhaustive
import DealFlow.Fulfillment.Optimality
import DealFlow.Fulfillment.OverrideValidity
import DealFlow.Fulfillment.PlanLifecycle
import DealFlow.Fulfillment.PlanRuns
import DealFlow.Fulfillment.ProposalCoverage
import DealFlow.Fulfillment.RiskAgreement
import DealFlow.Fulfillment.Shipments
import DealFlow.Fulfillment.StockBalance
import DealFlow.Governance.AcceptedTerms
import DealFlow.Governance.Announcements
import DealFlow.Governance.ApprovalQueue
import DealFlow.Governance.Authority
import DealFlow.Governance.Chain
import DealFlow.Governance.Concurrency
import DealFlow.Governance.Confirmation
import DealFlow.Governance.Coverage
import DealFlow.Governance.DealEffects
import DealFlow.Governance.DealRuns
import DealFlow.Governance.Decisions
import DealFlow.Governance.Footing
import DealFlow.Governance.Frame
import DealFlow.Governance.Lifecycle
import DealFlow.Governance.LifecycleFrame
import DealFlow.Governance.LifecycleRuns
import DealFlow.Governance.MaterialChanges
import DealFlow.Governance.Mirror
import DealFlow.Governance.OdooLock
import DealFlow.Governance.RealConfirmation
import DealFlow.Governance.Reevaluation
import DealFlow.Governance.Refinement
import DealFlow.Governance.Revocation
import DealFlow.Governance.Runs
import DealFlow.Governance.ServiceFrame
import DealFlow.Governance.SingleConfirmation
import DealFlow.Governance.StuckAcceptance
import DealFlow.Governance.Terms
import DealFlow.Guardian.ApprovalRouting
import DealFlow.Guardian.Evaluator
import DealFlow.Guardian.Fulfillment
import DealFlow.Guardian.Health
import DealFlow.Guardian.MaterialChange
import DealFlow.Guardian.NextAction
import DealFlow.Guardian.Policy
import DealFlow.Guardian.Recommend
import DealFlow.Guardian.Risk
import DealFlow.Identity.Accounts
import DealFlow.Identity.Bearers
import DealFlow.Identity.MagicLinks
import DealFlow.Inventory.Batches
import DealFlow.Inventory.DictionaryPlans
import DealFlow.Inventory.Overselling
import DealFlow.Inventory.SplitThenApply
import DealFlow.Lib.Bounded
import DealFlow.Lib.Capped
import DealFlow.Lib.Cents
import DealFlow.Lib.Dict
import DealFlow.Lib.Fallible
import DealFlow.Lib.Fill
import DealFlow.Lib.FirstBest
import DealFlow.Lib.Forest
import DealFlow.Lib.Grouping
import DealFlow.Lib.Like
import DealFlow.Lib.Ordered
import DealFlow.Lib.PythonText
import DealFlow.Lib.Ranking
import DealFlow.Lib.Rounding
import DealFlow.Lib.Run
import DealFlow.Lib.Significant
import DealFlow.Lib.SubsetSearch
import DealFlow.Lib.Table
import DealFlow.Lib.Upsert
import DealFlow.Models.Enums
import DealFlow.Models.Store
import DealFlow.Negotiation.Atomicity
import DealFlow.Negotiation.Effects
import DealFlow.Negotiation.OwnOrder
import DealFlow.Negotiation.Spelling
import DealFlow.Negotiation.WellFormed
import DealFlow.Odoo.Categories
import DealFlow.Odoo.Costs
import DealFlow.Odoo.Fake
import DealFlow.Odoo.FakeBooks
import DealFlow.Odoo.FakeDepot
import DealFlow.Odoo.FakePayments
import DealFlow.Odoo.Interface
import DealFlow.Odoo.LineStore
import DealFlow.Odoo.Outbox
import DealFlow.Odoo.Warehouse
import DealFlow.Odoo.XmlRpc
import DealFlow.Outbox.Delivery
import DealFlow.Policies.Resolution
import DealFlow.Policies.TierCeiling
import DealFlow.Portal.Amounts
import DealFlow.Portal.Isolation
import DealFlow.Portal.Noninterference
import DealFlow.Recommendations.CategoryTree
import DealFlow.Recommendations.Currency
import DealFlow.Recommendations.Dismissals
import DealFlow.Recommendations.KeptRules
import DealFlow.Recommendations.MinedCounts
import DealFlow.Recommendations.RuleOrder
import DealFlow.Recommendations.TopScores
import DealFlow.Reports.Agreement
import DealFlow.Reports.CategoryFilter
import DealFlow.Reports.RejectionReasons
import DealFlow.Reports.ShippingCosts
import DealFlow.Risk.Comparison
import DealFlow.Risk.ContextTotals
import DealFlow.Risk.DiscountMonotone
import DealFlow.Risk.Evaluation
import DealFlow.Risk.Explanation
import DealFlow.Risk.Factors
import DealFlow.Risk.Grid
import DealFlow.Risk.LineOrder
import DealFlow.Risk.OneMoreLine
import DealFlow.Risk.RemovedLines
import DealFlow.Risk.Residue
import DealFlow.Risk.Strictness
import DealFlow.Risk.WhatIfAgreement
import DealFlow.Services.AlertDetectors
import DealFlow.Services.ApprovalService
import DealFlow.Services.AuthService
import DealFlow.Services.DealContextBuilder
import DealFlow.Services.DealRegistry
import DealFlow.Services.DealReports
import DealFlow.Services.DealService
import DealFlow.Services.DiscountBaseline
import DealFlow.Services.FulfillmentService
import DealFlow.Services.HealthService
import DealFlow.Services.NegotiationService
import DealFlow.Services.NotificationService
import DealFlow.Services.PortalService
import DealFlow.Services.RecommendationService
import DealFlow.Services.ReportService
import DealFlow.Webhooks.Idempotence

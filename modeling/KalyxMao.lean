import KalyxMao.AccountIsolation
import KalyxMao.AcquisitionCosts
import KalyxMao.ActivationBridge
import KalyxMao.ActivationPolicy
import KalyxMao.ActivationReconciliation
import KalyxMao.ActivationSettlement
import KalyxMao.ActivationVerifier
import KalyxMao.AddressText
import KalyxMao.AgentRepository
import KalyxMao.AllocationOrder
import KalyxMao.ApprovalHistories
import KalyxMao.ApprovalRegistry
import KalyxMao.AuditTrail
import KalyxMao.AuditedRuns
import KalyxMao.BlockchainIntents
import KalyxMao.BlockchainProvider
import KalyxMao.Bookkeeping
import KalyxMao.CanonicalText
import KalyxMao.CapabilityGrants
import KalyxMao.CapabilityScores
import KalyxMao.CircuitBreakers
import KalyxMao.CollateralCoordinator
import KalyxMao.CollateralVault
import KalyxMao.ColumnReading
import KalyxMao.Connections
import KalyxMao.Consequential
import KalyxMao.Conservation
import KalyxMao.DaemonBacklog
import KalyxMao.DaemonCycles
import KalyxMao.DaemonLineage
import KalyxMao.DaemonRestarts
import KalyxMao.DaemonRuns
import KalyxMao.DecimalRounding
import KalyxMao.DelimitedText
import KalyxMao.Dispatch
import KalyxMao.Domain
import KalyxMao.EffectPrograms
import KalyxMao.EscrowInvariant
import KalyxMao.EscrowNames
import KalyxMao.EventChain
import KalyxMao.EventStores
import KalyxMao.ExactlyOnce
import KalyxMao.ExchangeProvider
import KalyxMao.ExchangeRuns
import KalyxMao.ExecutionAdmission
import KalyxMao.ExecutionApprovals
import KalyxMao.ExecutionAudits
import KalyxMao.Executors
import KalyxMao.IdempotencyJournal
import KalyxMao.IdentityTokens
import KalyxMao.IntentProjections
import KalyxMao.KeyedLists
import KalyxMao.Ledger
import KalyxMao.LedgerAudit
import KalyxMao.LedgerEquivalence
import KalyxMao.LedgerSessions
import KalyxMao.LoopLedger
import KalyxMao.LoopOutcomes
import KalyxMao.ManagerSpecs
import KalyxMao.Marketplace
import KalyxMao.MarketplaceClaims
import KalyxMao.MigrationRuns
import KalyxMao.Migrations
import KalyxMao.MissionRevenue
import KalyxMao.MissionRunner
import KalyxMao.NonceHistories
import KalyxMao.OperationAudits
import KalyxMao.Orchestration
import KalyxMao.OrderTerms
import KalyxMao.OutboundTargets
import KalyxMao.PayloadText
import KalyxMao.PolicyEngine
import KalyxMao.PolicyRules
import KalyxMao.ProgramPools
import KalyxMao.ProgramViews
import KalyxMao.ProportionalShares
import KalyxMao.ProposalCounts
import KalyxMao.ProviderAgreement
import KalyxMao.ProviderDialogue
import KalyxMao.ProviderRuns
import KalyxMao.PurchaseBridge
import KalyxMao.PurchaseLoop
import KalyxMao.PurchasePolicy
import KalyxMao.PurchaseReconciliation
import KalyxMao.PurchaseSettlement
import KalyxMao.PurchaseVerifications
import KalyxMao.PurchaseVerifier
import KalyxMao.PythonConversions
import KalyxMao.PythonDates
import KalyxMao.PythonText
import KalyxMao.PythonValues
import KalyxMao.QuorumApprovals
import KalyxMao.ReceiptBinding
import KalyxMao.ReconcilerSpecs
import KalyxMao.Reconciliation
import KalyxMao.RecoveryScans
import KalyxMao.RepositoryHistories
import KalyxMao.Reputation
import KalyxMao.ReputationLosses
import KalyxMao.ResourceAllocation
import KalyxMao.ScopedLedgers
import KalyxMao.SettlementAudits
import KalyxMao.SimulatedProvider
import KalyxMao.SqlLedgers
import KalyxMao.SqlScripts
import KalyxMao.StatementScanning
import KalyxMao.StepRuns
import KalyxMao.SurplusAccounting
import KalyxMao.SurplusRuns
import KalyxMao.TaskAllocation
import KalyxMao.TextColumns
import KalyxMao.TokenAgreement
import KalyxMao.TokenBinding
import KalyxMao.TreasuryOpening
import KalyxMao.UpsertTables
import KalyxMao.UrlText
import KalyxMao.VaultSimulation
import KalyxMao.WalletSessions
import KalyxMao.WorkOrderRepository
import KalyxMao.WorkOrders
import KalyxMao.WorkerInterleaving

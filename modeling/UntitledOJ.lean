import UntitledOJ.AdminBootstrap
import UntitledOJ.BindingRestoration
import UntitledOJ.CompensationGates
import UntitledOJ.CompensationOrder
import UntitledOJ.ContributionSuccess
import UntitledOJ.ContributionWithdrawal
import UntitledOJ.EventDelivery
import UntitledOJ.JobIdentities
import UntitledOJ.JobLifetime
import UntitledOJ.JobStoreRefinement
import UntitledOJ.JudgeCoupling
import UntitledOJ.JudgeWorker
import UntitledOJ.LedgerHistories
import UntitledOJ.ReservedPaths
import UntitledOJ.RetryCompensation
import UntitledOJ.RuntimeContexts
import UntitledOJ.TopologyProjection
import UntitledOJ.TrackedOperations
import UntitledOJ.UniqueEffects

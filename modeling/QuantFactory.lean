import QuantFactory.Library.Table
import QuantFactory.Library.Runs
import QuantFactory.Library.RequestLog
import QuantFactory.Library.StableSort
import QuantFactory.Library.Lookup
import QuantFactory.Library.MemoStore
import QuantFactory.Library.Outcome
import QuantFactory.Library.SortedSearch
import QuantFactory.Python.Value
import QuantFactory.Python.Text
import QuantFactory.Python.Lines
import QuantFactory.Python.Samples
import QuantFactory.Python.Equality
import QuantFactory.Persistence.Serialization
import QuantFactory.Persistence.ArtifactFiles
import QuantFactory.Launch.Records
import QuantFactory.Launch.Repositories
import QuantFactory.Launch.Claims
import QuantFactory.Launch.Service
import QuantFactory.Launch.Effects
import QuantFactory.Launch.Dispatch
import QuantFactory.Launch.Coupling
import QuantFactory.Launch.Binding
import QuantFactory.Launch.Acknowledgement
import QuantFactory.Launch.Idempotency
import QuantFactory.WalkForward.Models
import QuantFactory.WalkForward.Sessions
import QuantFactory.WalkForward.Splitter
import QuantFactory.WalkForward.Windows
import QuantFactory.WalkForward.Grid
import QuantFactory.WalkForward.Evidence
import QuantFactory.WalkForward.Acceptance
import QuantFactory.WalkForward.RequestedRows
import QuantFactory.WalkForward.Documents
import QuantFactory.WalkForward.Reading
import QuantFactory.WalkForward.Agreement
import QuantFactory.WalkForward.Differences
import QuantFactory.WalkForward.ReadableLabels
import QuantFactory.WalkForward.PersistedAgreement
import QuantFactory.Validation.Evidence
import QuantFactory.Validation.LockboxGate
import QuantFactory.Validation.Eligibility
import QuantFactory.FilterChain.Reopen
import QuantFactory.RuleLanguage.Indicators
import QuantFactory.RuleLanguage.Syntax
import QuantFactory.RuleLanguage.Validation
import QuantFactory.RuleLanguage.Grammar
import QuantFactory.RuleLanguage.Accepted
import QuantFactory.RuleLanguage.Copies
import QuantFactory.RuleLanguage.FixedPoint
import QuantFactory.RuleLanguage.Normalized
import QuantFactory.RuleLanguage.Elements
import QuantFactory.RuleLanguage.Revalidation
import QuantFactory.Campaign.Events
import QuantFactory.Campaign.Drafts
import QuantFactory.Campaign.Pass
import QuantFactory.Campaign.Steps
import QuantFactory.Campaign.Requests
import QuantFactory.Campaign.Budget
import QuantFactory.Campaign.Waiting
import QuantFactory.Campaign.Retest
import QuantFactory.Campaign.Packets
import QuantFactory.Campaign.Keys
import QuantFactory.Campaign.CandidatePacket
import QuantFactory.Campaign.Isolation
import QuantFactory.Campaign.Unblocked
import QuantFactory.RunLifecycle.Writers
import QuantFactory.RunLifecycle.Invariant
import QuantFactory.RunLifecycle.Interleavings
import QuantFactory.Persistence.Artifacts
import QuantFactory.Persistence.ManifestDocuments
import QuantFactory.Gateway.Service
import QuantFactory.Gateway.AtMostOnce
import QuantFactory.Persistence.ManifestRetrieval
import QuantFactory.Persistence.JsonText
import QuantFactory.RuleStrategy.Arrays
import QuantFactory.RuleStrategy.Evaluation
import QuantFactory.RuleStrategy.Indicators
import QuantFactory.RuleStrategy.Batch
import QuantFactory.RuleStrategy.ArrayRuns
import QuantFactory.RuleStrategy.CacheKeys
import QuantFactory.RuleStrategy.NodeRuns
import QuantFactory.RuleStrategy.SeriesRuns
import QuantFactory.RuleStrategy.SignalRuns
import QuantFactory.RuleStrategy.SettingRuns
import QuantFactory.RuleStrategy.SharedCache
import QuantFactory.Experiments.SessionCap
import QuantFactory.Experiments.SignalCache
import QuantFactory.Experiments.Simulation
import QuantFactory.Experiments.Sweep
import QuantFactory.Experiments.ChunkSizes
import QuantFactory.Deployment.Drain
import QuantFactory.Deployment.EnvFile
import QuantFactory.Deployment.Switch
import QuantFactory.Deployment.Rollback
import QuantFactory.MarketData.Bars
import QuantFactory.MarketData.PriceFiles
import QuantFactory.MarketData.Readers
import QuantFactory.MarketData.TopUp
import QuantFactory.MarketData.TopUpRuns
import QuantFactory.Library.OrderedCuts
import QuantFactory.OutOfSample.Splitter
import QuantFactory.Robustness.Regimes
import QuantFactory.Robustness.RegimeTrades
import QuantFactory.Robustness.ParameterNeighborhood
import QuantFactory.Robustness.NeighborhoodPoints
import QuantFactory.Experiments.SessionCloses
import QuantFactory.Experiments.WindowCloses
import QuantFactory.Library.OrderStatistics
import QuantFactory.Library.AdjacentIntervals
import QuantFactory.Library.FirstMatch
import QuantFactory.Library.RunCounts
import QuantFactory.Library.ArrayIndexing
import QuantFactory.MarketData.SuspectBars
import QuantFactory.MarketData.SuspectBarDates
import QuantFactory.MarketData.SuspectBarFlags
import QuantFactory.MarketData.SuspectBarOrder
import QuantFactory.Strategies.SessionScan
import QuantFactory.Strategies.ContractMapping
import QuantFactory.Strategies.Parameters
import QuantFactory.Strategies.OpeningRangeBreakout
import QuantFactory.Strategies.IntradayMomentum
import QuantFactory.Strategies.OvernightGapReversal
import QuantFactory.Strategies.SessionDays
import QuantFactory.Strategies.SmaCrossover
import QuantFactory.Strategies.RunExhaustion
import QuantFactory.Strategies.VwapBreakout
import QuantFactory.RuleStrategy.RowLoops
import QuantFactory.Strategies.BarLoops
import QuantFactory.Library.KeyRuns
import QuantFactory.Dashboard.ChartBars
import QuantFactory.Dashboard.EpochBuckets
import QuantFactory.Dashboard.BarAggregation
import QuantFactory.Dashboard.TradeMarkers
import QuantFactory.Deployment.Passes
import QuantFactory.Deployment.DrainMarker
import QuantFactory.Deployment.DeployState
import QuantFactory.Python.Shlex
import QuantFactory.Python.Argparse
import QuantFactory.Gateway.Client
import QuantFactory.Python.ArgparseRules
import QuantFactory.Gateway.Confinement
import QuantFactory.MarketData.ListingGap
import QuantFactory.MarketData.HistoryCut
import QuantFactory.MarketData.Databento
import QuantFactory.MarketData.DatabentoRuns
import QuantFactory.Experiments.ExecuteExperiment
import QuantFactory.Experiments.ScreeningEvidence
import QuantFactory.Experiments.EvidenceRows
import QuantFactory.Experiments.EvidenceComplete
import QuantFactory.Library.TwoRuns
import QuantFactory.RuleStrategy.ArrayAgreement
import QuantFactory.RuleStrategy.CausalDistances
import QuantFactory.RuleStrategy.CausalSignals
import QuantFactory.RuleStrategy.Frames
import QuantFactory.RuleStrategy.RuleSignals
import QuantFactory.RuleStrategy.StopInputs
import QuantFactory.RuleStrategy.NoLookAhead
import QuantFactory.RuleStrategy.CompiledSignals

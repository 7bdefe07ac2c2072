import TruthFingerprint.Lib.Loops
import TruthFingerprint.Lib.FinmapLoops
import TruthFingerprint.Lib.Json
import TruthFingerprint.Lib.Majority
import TruthFingerprint.Lib.MeanDistance
import TruthFingerprint.Lib.NearestInt
import TruthFingerprint.Lib.StagedStore
import TruthFingerprint.Lib.BlockMachine
import TruthFingerprint.Arith
import TruthFingerprint.Abci.Types
import TruthFingerprint.Abci.EvaluateRound
import TruthFingerprint.Abci.EvaluateRoundLemmas
import TruthFingerprint.Abci.Agreement
import TruthFingerprint.Abci.Encoding
import TruthFingerprint.Abci.Application
import TruthFingerprint.Abci.ApplicationLemmas
import TruthFingerprint.Abci.Finality
import TruthFingerprint.Abci.Replicas
import TruthFingerprint.Abci.FiniteRounds
import TruthFingerprint.Abci.RealMajority
import TruthFingerprint.Consensus.DateTime
import TruthFingerprint.Consensus.Contracts
import TruthFingerprint.Consensus.TrustModel
import TruthFingerprint.Consensus.Engine
import TruthFingerprint.Consensus.TrustModelLemmas
import TruthFingerprint.Consensus.EngineLemmas
import TruthFingerprint.Consensus.DistinctSources
import TruthFingerprint.Consensus.CometbftClient
import TruthFingerprint.Abci.Decoding
import TruthFingerprint.Parity
import TruthFingerprint.Lib.NonnegFloat
import TruthFingerprint.Lib.Sorting
import TruthFingerprint.Lib.Unicode
import TruthFingerprint.Lib.Sha256
import TruthFingerprint.Lib.JsonDoc
import TruthFingerprint.Lib.JsonText
import TruthFingerprint.Lib.JsonEscapes
import TruthFingerprint.Lib.DecimalText
import TruthFingerprint.Lib.Decimal
import TruthFingerprint.Abci.OrderIndependence
import TruthFingerprint.Identity
import TruthFingerprint.Python.Json
import TruthFingerprint.ConsensusV2.Records
import TruthFingerprint.ConsensusV2.Contracts
import TruthFingerprint.ConsensusV2.ContractsLemmas
import TruthFingerprint.ConsensusV2.ReferenceInputs
import TruthFingerprint.ConsensusV2.ReferenceEvaluator
import TruthFingerprint.ConsensusV2.ReferenceLemmas
import TruthFingerprint.ConsensusV2.Totality
import TruthFingerprint.ConsensusV2.ExactLaw
import TruthFingerprint.Lib.Utf8
import TruthFingerprint.Go.Json
import TruthFingerprint.Scada.OpcUaService
import TruthFingerprint.Scada.ReplayBehavior
import TruthFingerprint.Evidence.Diagnostics
import TruthFingerprint.Evidence.SyscallPartitions
import TruthFingerprint.Evidence.Records
import TruthFingerprint.Evidence.DetectorScores
import TruthFingerprint.Evidence.PhysicalEvaluation
import TruthFingerprint.Evidence.DetectorBundle
import TruthFingerprint.Evidence.BlindScores
import TruthFingerprint.Lib.WriteOnce
import TruthFingerprint.Persistence.EvidenceStore
import TruthFingerprint.Evidence.ManifestBytes
import TruthFingerprint.Evidence.Publication
import TruthFingerprint.Evidence.Manifests
import TruthFingerprint.Evidence.DependencyClosure
import TruthFingerprint.Evidence.ArtifactManifest
import TruthFingerprint.Lib.FifoBroadcast
import TruthFingerprint.EdgeNodes.Replication
import TruthFingerprint.Lib.Bucket
import TruthFingerprint.Lstm.DatasetBuilder
import TruthFingerprint.Lstm.DatasetArtifacts
import TruthFingerprint.Lstm.DatasetArtifactsLemmas
import TruthFingerprint.Lstm.Lifecycle
import TruthFingerprint.Lstm.LifecycleLemmas
import TruthFingerprint.Lstm.StableBaseline
import TruthFingerprint.ScenarioControl.Runtime
import TruthFingerprint.Comparison.Service
import TruthFingerprint.Persistence.Service
import TruthFingerprint.Demo.Cycle
import TruthFingerprint.Demo.TrainingHistory
import TruthFingerprint.OfflineTraining.TrainingHistory
import TruthFingerprint.Evidence.ConsensusParameters
import TruthFingerprint.Evidence.ParameterBinding
import TruthFingerprint.Lib.FirstOccurrences
import TruthFingerprint.OfflineTraining.AcademicDataset
import TruthFingerprint.OfflineTraining.Preprocessing
import TruthFingerprint.OfflineTraining.FitIsolation
import TruthFingerprint.Lib.PrioritySlices
import TruthFingerprint.Lib.Grouping
import TruthFingerprint.Python.Coercions
import TruthFingerprint.OfflineTraining.NumericSchema
import TruthFingerprint.OfflineTraining.PhaseAllocation
import TruthFingerprint.OfflineTraining.Selection
import TruthFingerprint.OfflineTraining.AdfaLd
import TruthFingerprint.Lib.BreakLoop
import TruthFingerprint.OfflineTraining.LidDs2021
import TruthFingerprint.OfflineTraining.ContentReservation
import TruthFingerprint.OfflineTraining.ContentUniqueness
import TruthFingerprint.OfflineTraining.Hai2305
import TruthFingerprint.OfflineTraining.PhaseSlices
import TruthFingerprint.OfflineTraining.HaiSlices
import TruthFingerprint.OfflineTraining.PhaseIsolation
import TruthFingerprint.Lib.MarkedSearch
import TruthFingerprint.Evidence.ScenarioTruthValidation
import TruthFingerprint.Evidence.ConfigurationIdentity
import TruthFingerprint.Evidence.ConfigurationSecrecy
import TruthFingerprint.Lib.LinkedFiles
import TruthFingerprint.Evidence.BaselinePublication
import TruthFingerprint.Lib.Dict
import TruthFingerprint.Python.Equality
import TruthFingerprint.Python.Paths
import TruthFingerprint.OfflineTraining.ResumeArtifact
import TruthFingerprint.OfflineTraining.PhaseSummary
import TruthFingerprint.Lib.SlidingWindows
import TruthFingerprint.Evidence.PhysicalWindows
import TruthFingerprint.Evidence.SyscallWindows
import TruthFingerprint.Python.Timestamps
import TruthFingerprint.Evidence.SyscallCapture
import TruthFingerprint.Lib.RankSums
import TruthFingerprint.OfflineTraining.AcademicMetrics
import TruthFingerprint.OfflineTraining.Rankings
import TruthFingerprint.Lib.RocCurves
import TruthFingerprint.OfflineTraining.Curves
import TruthFingerprint.OfflineTraining.Calibration
import TruthFingerprint.Lib.CycleSearch
import TruthFingerprint.Evidence.ClosureCompleteness
import TruthFingerprint.Evidence.PhysicalShadow
import TruthFingerprint.Lib.StepDown
import TruthFingerprint.OfflineTraining.HolmAdjustment
import TruthFingerprint.Lib.SignFlips
import TruthFingerprint.OfflineTraining.PairedComparison
import TruthFingerprint.Lib.LeastSearch
import TruthFingerprint.OfflineTraining.RepetitionPlanning
import TruthFingerprint.OfflineTraining.StratifiedSplit
import TruthFingerprint.Contracts.SignalObservation
import TruthFingerprint.PhysicalFeatures.Schema
import TruthFingerprint.Lib.KeyedRuns
import TruthFingerprint.Lib.ScaledDecimal
import TruthFingerprint.Python.Decimals
import TruthFingerprint.Evidence.StreamCompleteness
import TruthFingerprint.Evidence.OpcComparison
import TruthFingerprint.Lstm.DatasetWindows
import TruthFingerprint.Lib.FixedWidth
import TruthFingerprint.EdgeNodes.RoundStamps
import TruthFingerprint.Evidence.SnapshotVerification
import TruthFingerprint.Evidence.CandidateComparison
import TruthFingerprint.Lib.EvenGrid
import TruthFingerprint.OfflineTraining.WindowThinning
import TruthFingerprint.OfflineTraining.CategoricalUnigram
import TruthFingerprint.Evidence.HaiAdapter
import TruthFingerprint.Lib.Chunks
import TruthFingerprint.Lib.ReservoirSampling
import TruthFingerprint.OfflineTraining.HaiBenchmark
import TruthFingerprint.Lib.MarkedRuns
import TruthFingerprint.OfflineTraining.HaiBlockTruth
import TruthFingerprint.Lib.TimedMerge
import TruthFingerprint.Evidence.CustomCampaign
import TruthFingerprint.Lib.PrefixSplit
import TruthFingerprint.OfflineTraining.ValidationRoles
import TruthFingerprint.Lib.ExactDecimal
import TruthFingerprint.Evidence.ParameterRecords
import TruthFingerprint.Evidence.ParameterDerivation
import TruthFingerprint.Lib.Framing
import TruthFingerprint.OfflineTraining.RecordingSampling
import TruthFingerprint.OfflineTraining.HaiSelection
import TruthFingerprint.Lstm.ReplayDataset
import TruthFingerprint.Lib.JsonLayout
import TruthFingerprint.Lib.StoreProcs
import TruthFingerprint.OfflineTraining.CellFiles
import TruthFingerprint.OfflineTraining.CellRuns

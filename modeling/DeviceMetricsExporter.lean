import DeviceMetricsExporter.Lib.TransitionSystem
import DeviceMetricsExporter.Lib.GoMap
import DeviceMetricsExporter.Lib.RangeOrder
import DeviceMetricsExporter.Testrunner.Impl.StatusDB
import DeviceMetricsExporter.Testrunner.Impl.Calls
import DeviceMetricsExporter.Testrunner.Impl.Results
import DeviceMetricsExporter.Testrunner.Impl.TestHandler
import DeviceMetricsExporter.Testrunner.Impl.Config
import DeviceMetricsExporter.Testrunner.Lemmas.StatusDB
import DeviceMetricsExporter.Testrunner.Lemmas.Calls
import DeviceMetricsExporter.Testrunner.Lemmas.MutualExclusion
import DeviceMetricsExporter.Testrunner.Lemmas.LostUpdates
import DeviceMetricsExporter.Testrunner.Lemmas.TestHandler
import DeviceMetricsExporter.Testrunner.Lemmas.Timeout
import DeviceMetricsExporter.Testrunner.Lemmas.Stop
import DeviceMetricsExporter.Testrunner.Lemmas.Results
import DeviceMetricsExporter.Testrunner.Lemmas.Verdict
import DeviceMetricsExporter.Testrunner.Lemmas.Config
import DeviceMetricsExporter.Lib.UUID
import DeviceMetricsExporter.Lib.Float64
import DeviceMetricsExporter.Lib.CaseMap
import DeviceMetricsExporter.Lib.GoStrings
import DeviceMetricsExporter.Lib.EventQueue
import DeviceMetricsExporter.Exporter.Impl.Scheduler
import DeviceMetricsExporter.Exporter.Impl.Selector
import DeviceMetricsExporter.Exporter.Impl.Slurm
import DeviceMetricsExporter.Exporter.Lemmas.Slurm
import DeviceMetricsExporter.GPUAgent.Impl.Messages
import DeviceMetricsExporter.GPUAgent.Impl.Client
import DeviceMetricsExporter.GPUAgent.Impl.Health
import DeviceMetricsExporter.GPUAgent.Lemmas.ECC
import DeviceMetricsExporter.GPUAgent.Lemmas.Health
import DeviceMetricsExporter.GPUAgent.Lemmas.Verdict
import DeviceMetricsExporter.GPUAgent.Lemmas.Agreement
import DeviceMetricsExporter.GPUAgent.Impl.ComputeNode
import DeviceMetricsExporter.GPUAgent.Lemmas.ComputeNode
import DeviceMetricsExporter.Exporter.Impl.NodeLabeller
import DeviceMetricsExporter.Exporter.Lemmas.NodeLabeller
import DeviceMetricsExporter.GPUAgent.Impl.Monitor
import DeviceMetricsExporter.GPUAgent.Lemmas.Monitor
import DeviceMetricsExporter.Lib.ProtoEnum
import DeviceMetricsExporter.Exporter.Impl.Labels
import DeviceMetricsExporter.Exporter.Lemmas.Labels
import DeviceMetricsExporter.Exporter.Lemmas.Reload
import DeviceMetricsExporter.Exporter.Impl.Pods
import DeviceMetricsExporter.Exporter.Lemmas.Pods
import DeviceMetricsExporter.GPUAgent.Impl.Labels
import DeviceMetricsExporter.GPUAgent.Impl.IFOELabels
import DeviceMetricsExporter.GPUAgent.Impl.Fields
import DeviceMetricsExporter.GPUAgent.Impl.Configs
import DeviceMetricsExporter.GPUAgent.Lemmas.Labels
import DeviceMetricsExporter.GPUAgent.Lemmas.IFOELabels
import DeviceMetricsExporter.GPUAgent.Lemmas.Reload
import DeviceMetricsExporter.NICAgent.Impl.Labels
import DeviceMetricsExporter.NICAgent.Impl.Configs
import DeviceMetricsExporter.NICAgent.Lemmas.Labels
import DeviceMetricsExporter.NICAgent.Lemmas.Reload
import DeviceMetricsExporter.Exporter.Lemmas.History
import DeviceMetricsExporter.Lib.LRU
import DeviceMetricsExporter.NICAgent.Impl.PodCaches
import DeviceMetricsExporter.NICAgent.Lemmas.PodCaches
import DeviceMetricsExporter.Lib.CallPool
import DeviceMetricsExporter.Rocprofiler.Impl.Client
import DeviceMetricsExporter.Rocprofiler.Lemmas.Client
import DeviceMetricsExporter.Rocprofiler.Lemmas.Latch
import DeviceMetricsExporter.Rocprofiler.Lemmas.Cache
import DeviceMetricsExporter.GPUAgent.Lemmas.Cache
import DeviceMetricsExporter.Events.Lemmas.Delivery
import DeviceMetricsExporter.GPUAgent.Lemmas.Agent
import DeviceMetricsExporter.Lib.Streak
import DeviceMetricsExporter.GPUAgent.Impl.AgentDown
import DeviceMetricsExporter.GPUAgent.Lemmas.AgentDown
import DeviceMetricsExporter.GPUAgent.Impl.FieldLogger
import DeviceMetricsExporter.GPUAgent.Lemmas.FieldLogger
import DeviceMetricsExporter.GPUAgent.Impl.Profiler
import DeviceMetricsExporter.GPUAgent.Lemmas.Profiler
import DeviceMetricsExporter.Exporter.Impl.Logger
import DeviceMetricsExporter.Exporter.Lemmas.Logger
import DeviceMetricsExporter.Exporter.Lemmas.K8sClient
import DeviceMetricsExporter.Testrunner.Lemmas.Recovery
import DeviceMetricsExporter.Lib.NestedMap
import DeviceMetricsExporter.Lib.TrimSpace
import DeviceMetricsExporter.Testrunner.Impl.Rvs
import DeviceMetricsExporter.Testrunner.Lemmas.Precedence
import DeviceMetricsExporter.Testrunner.Lemmas.RvsRepair
import DeviceMetricsExporter.Testrunner.Impl.Agfhc
import DeviceMetricsExporter.Testrunner.Lemmas.Agfhc
import DeviceMetricsExporter.Testrunner.Lemmas.Rvs
import DeviceMetricsExporter.Testrunner.Lemmas.Masking
import DeviceMetricsExporter.Testrunner.Lemmas.Attribution
import DeviceMetricsExporter.Testrunner.Impl.EventLabels
import DeviceMetricsExporter.Testrunner.Lemmas.EventLabels
import DeviceMetricsExporter.Testrunner.Lemmas.Selection
import DeviceMetricsExporter.Testrunner.Lemmas.ConfigTotal
import DeviceMetricsExporter.Testrunner.Impl.Deadline
import DeviceMetricsExporter.Testrunner.Lemmas.Deadline
import DeviceMetricsExporter.Testrunner.Lemmas.ConfigCase
import DeviceMetricsExporter.Lib.Latest
import DeviceMetricsExporter.GPUAgent.Lemmas.LatestCPER
import DeviceMetricsExporter.GPUAgent.Lemmas.Identity
import DeviceMetricsExporter.GPUAgent.Lemmas.EccMonotone
import DeviceMetricsExporter.GPUAgent.Lemmas.UserLabels
import DeviceMetricsExporter.Exporter.Impl.PodResources
import DeviceMetricsExporter.Exporter.Lemmas.PodResources
import DeviceMetricsExporter.GPUAgent.Impl.Workloads
import DeviceMetricsExporter.GPUAgent.Lemmas.Workloads
import DeviceMetricsExporter.Exporter.Lemmas.Selector
import DeviceMetricsExporter.Lib.Accumulate
import DeviceMetricsExporter.Rocprofiler.Impl.Sampler
import DeviceMetricsExporter.Rocprofiler.Lemmas.Packing
import DeviceMetricsExporter.GPUAgent.Impl.ProfilerFields
import DeviceMetricsExporter.Rocprofiler.Lemmas.Duplicates
import DeviceMetricsExporter.GPUAgent.Lemmas.ProfilerFields
import DeviceMetricsExporter.NICAgent.Impl.Statistics
import DeviceMetricsExporter.Lib.Loop
import DeviceMetricsExporter.NICAgent.Lemmas.LifLabels
import DeviceMetricsExporter.NICAgent.Impl.Inventory
import DeviceMetricsExporter.NICAgent.Impl.Health
import DeviceMetricsExporter.NICAgent.Lemmas.Inventory
import DeviceMetricsExporter.NICAgent.Lemmas.Health
import DeviceMetricsExporter.NICAgent.Lemmas.PortLabels
import DeviceMetricsExporter.NICAgent.Impl.QueuePairs
import DeviceMetricsExporter.Lib.JsonMembers
import DeviceMetricsExporter.NICAgent.Impl.QPDocument
import DeviceMetricsExporter.NICAgent.Lemmas.QueuePairs
import DeviceMetricsExporter.NICAgent.Lemmas.QPDocument
import DeviceMetricsExporter.HealthCLI.Impl.Messages
import DeviceMetricsExporter.HealthCLI.Impl.Utils
import DeviceMetricsExporter.HealthCLI.Impl.QueryMetric
import DeviceMetricsExporter.HealthCLI.Lemmas.InbandRas
import DeviceMetricsExporter.HealthCLI.Lemmas.EccAgreement
import DeviceMetricsExporter.Lib.GaugeVec
import DeviceMetricsExporter.GPUAgent.Impl.Counters
import DeviceMetricsExporter.GPUAgent.Impl.Metrics
import DeviceMetricsExporter.GPUAgent.Impl.Scrape
import DeviceMetricsExporter.GPUAgent.Lemmas.Metrics
import DeviceMetricsExporter.GPUAgent.Lemmas.Scrape
import DeviceMetricsExporter.GPUAgent.Lemmas.Entries
import DeviceMetricsExporter.GPUAgent.Lemmas.ScrapeRun
import DeviceMetricsExporter.GPUAgent.Lemmas.ScrapeContent
import DeviceMetricsExporter.Exporter.Impl.MetricsHandler
import DeviceMetricsExporter.Exporter.Lemmas.MetricsHandler
import DeviceMetricsExporter.GPUAgent.Lemmas.ScrapeServer
import DeviceMetricsExporter.Exporter.Impl.ConfigWatcher
import DeviceMetricsExporter.Exporter.Lemmas.ConfigWatcher
import DeviceMetricsExporter.HealthCLI.Lemmas.MetricsAgreement
import DeviceMetricsExporter.Exporter.Impl.Lifecycle
import DeviceMetricsExporter.Exporter.Lemmas.Lifecycle
import DeviceMetricsExporter.GPUAgent.Lemmas.Fields
import DeviceMetricsExporter.GPUAgent.Lemmas.ServedConfig

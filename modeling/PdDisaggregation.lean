import PdDisaggregation.BusyRate
import PdDisaggregation.CollectorRequests
import PdDisaggregation.CounterResets
import PdDisaggregation.DemoRun
import PdDisaggregation.DiskNode
import PdDisaggregation.FileOwnership
import PdDisaggregation.KvbmMetrics
import PdDisaggregation.KvbmProgress
import PdDisaggregation.LayoutImport
import PdDisaggregation.MetricReaders
import PdDisaggregation.NexusChunking
import PdDisaggregation.NexusRead
import PdDisaggregation.NfsMount
import PdDisaggregation.NfsrdmaRestore
import PdDisaggregation.NvfsErrors
import PdDisaggregation.PartialWriters
import PdDisaggregation.PromptBounds
import PdDisaggregation.RamRestart
import PdDisaggregation.RamWedge
import PdDisaggregation.RoceEscapes
import PdDisaggregation.RoceExact
import PdDisaggregation.RoceSampler
import PdDisaggregation.RollbackPass
import PdDisaggregation.SamplerOutput
import PdDisaggregation.SetupRollback
import PdDisaggregation.StoragePair
import PdDisaggregation.StreamAgreement
import PdDisaggregation.TransferAttribution
import PdDisaggregation.WarmMedian
import PdDisaggregation.KvbmLayout
import PdDisaggregation.OverwriteRun

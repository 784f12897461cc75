import IngestionEngine.Batch.Durability
import IngestionEngine.Batch.Stop
import IngestionEngine.Batch.Shape
import IngestionEngine.Batch.Storage
import IngestionEngine.Worker.Race
import IngestionEngine.Worker.Drain
import IngestionEngine.Worker.Counters
import IngestionEngine.Worker.Contention
import IngestionEngine.Pipeline.ZeroDrop
import IngestionEngine.Pipeline.Memory
import IngestionEngine.Pipeline.Settling
import IngestionEngine.RateLimit.Isolation
import IngestionEngine.RateLimit.Envelope
import IngestionEngine.RateLimit.Concurrent
import IngestionEngine.Router.RateLimit
import IngestionEngine.Router.Ingest
import IngestionEngine.Server.Stall
import IngestionEngine.Server.Conservation
import IngestionEngine.Server.Validation
import IngestionEngine.Server.Accounting
import IngestionEngine.Server.Config
import IngestionEngine.Server.Rates
import IngestionEngine.Server.Shutdown
import IngestionEngine.Server.Reports
import IngestionEngine.Server.Stuck
import IngestionEngine.Server.Gate
import IngestionEngine.Server.Dwell
import IngestionEngine.Server.Processed
import IngestionEngine.Server.Memory
import IngestionEngine.Server.FlushSize
import IngestionEngine.Server.Agreement
import IngestionEngine.Server.Retry
import IngestionEngine.Server.TokenRange
import IngestionEngine.Server.Polling
import IngestionEngine.Server.Attack
import IngestionEngine.Server.Percentiles
import IngestionEngine.Server.Uniqueness
import IngestionEngine.Server.Histories
import IngestionEngine.Worker.Stats
import IngestionEngine.Router.Metrics
import IngestionEngine.Router.Settling
import IngestionEngine.Server.Answers
import IngestionEngine.Server.Pace
import IngestionEngine.Server.Delivery
import IngestionEngine.Pipeline.Order
import IngestionEngine.Router.Refusals
import IngestionEngine.Server.ShutdownReports

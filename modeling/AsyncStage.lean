import AsyncStage.Config.Json
import AsyncStage.Element.Json
import AsyncStage.Logging.Setup
import AsyncStage.Pipeline
import AsyncStage.Proofs.Config.RoundTrip
import AsyncStage.Proofs.Config.Rounding
import AsyncStage.Proofs.Queue.Refinement
import AsyncStage.Proofs.Queue.Representation
import AsyncStage.Proofs.Scenario.Alike
import AsyncStage.Proofs.Scenario.Succession
import AsyncStage.Proofs.Snapshot.Truncation
import AsyncStage.Proofs.Stage.Attempts
import AsyncStage.Proofs.Stage.Awaited
import AsyncStage.Proofs.Stage.Backpressure
import AsyncStage.Proofs.Stage.Batches
import AsyncStage.Proofs.Stage.Building
import AsyncStage.Proofs.Stage.Checkpoint
import AsyncStage.Proofs.Stage.Clock
import AsyncStage.Proofs.Stage.FailStop
import AsyncStage.Proofs.Stage.Finish
import AsyncStage.Proofs.Stage.Gauge
import AsyncStage.Proofs.Stage.InputEnd
import AsyncStage.Proofs.Stage.LateRetry
import AsyncStage.Proofs.Stage.Lookup
import AsyncStage.Proofs.Stage.Metrics
import AsyncStage.Proofs.Stage.Provenance
import AsyncStage.Proofs.Stage.Quiescence
import AsyncStage.Proofs.Stage.Reissue
import AsyncStage.Proofs.Stage.Restart
import AsyncStage.Proofs.Stage.Retries
import AsyncStage.Proofs.Stage.RetryWindow
import AsyncStage.Proofs.Stage.Rounds
import AsyncStage.Proofs.Stage.Signals
import AsyncStage.Proofs.Stage.Stale
import AsyncStage.Proofs.Stage.StrictRun
import AsyncStage.Proofs.Stage.Timeouts
import AsyncStage.Proofs.Stage.Timers
import AsyncStage.Proofs.Timer.Refinement
import AsyncStage.Scenario.Scene

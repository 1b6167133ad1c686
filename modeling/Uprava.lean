import Uprava.Core.SessionStream
import Uprava.Core.Deletion
import Uprava.Node.FrameSizes
import Uprava.Node.Durability
import Uprava.Node.SaveErrors
import Uprava.Node.Retention
import Uprava.Node.Answers
import Uprava.Node.Cancelled
import Uprava.Core.ToolVersions
import Uprava.Core.Integrations
import Uprava.Core.Redaction
import Uprava.Core.CallEnds
import Uprava.Core.SchedulerTicks
import Uprava.Web.PendingApprovals
import Uprava.Node.OutboxAccount
import Uprava.Node.ToolNames
import Uprava.Core.LoginThrottle
import Uprava.Core.ArtifactHistory
import Uprava.Core.ActionIdempotency
import Uprava.Node.Restart
import Uprava.Core.EventLog
import Uprava.Node.Terminal
import Uprava.Node.SandboxStream
import Uprava.Core.NextRun
import Uprava.Core.ToolSearch
import Uprava.Core.PreferenceUpdates
import Uprava.Core.Evidence
import Uprava.Node.ProcessOutput
import Uprava.Node.TaskChecks
import Uprava.Node.DiffHunks
import Uprava.Node.DiffSides
import Uprava.Node.FileWrites
import Uprava.Web.LiveTrace
import Uprava.Web.Timeline
import Uprava.Web.StreamResume

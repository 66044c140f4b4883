import OpsEngine.Mutation.Fidelity
import OpsEngine.Mutation.Admission
import OpsEngine.Mutation.Retention
import OpsEngine.Mutation.Survival
import OpsEngine.Transaction.Contention
import OpsEngine.Deploy.Truthful
import OpsEngine.Deploy.VerifiedRelease
import OpsEngine.Migrate.Journals
import OpsEngine.Migrate.Retarget
import OpsEngine.Ingress.Served
import OpsEngine.Identity.Isolation
import OpsEngine.Create.Resolvable
import OpsEngine.Publish.Recoverable
import OpsEngine.Stack.Redeploy
import OpsEngine.Cron.Calendar
import OpsEngine.Cron.Redaction
import OpsEngine.Swap.AllOrNothing
import OpsEngine.Agents.Registry
import OpsEngine.WordPress.DropTables
import OpsEngine.WordPress.RotateCredentials
import OpsEngine.Site.Enrolment
import OpsEngine.Backup.Retention
import OpsEngine.Journal.Outcome
import OpsEngine.Docker.Limits
import OpsEngine.Compose.Actions
import OpsEngine.Compose.Activate
import OpsEngine.Permissions.WorldWritable
import OpsEngine.Valkey.Rename
import OpsEngine.Maria.SlowLog

import Pilot.Access.Drift
import Pilot.Decommission.Approved
import Pilot.Decommission.Teardown
import Pilot.Delivery.Prune
import Pilot.Deploy.Outcome
import Pilot.Detection.Delivery
import Pilot.Detection.Episodes
import Pilot.Detection.Evidence
import Pilot.Detection.MapOrder
import Pilot.Identity.Convergence
import Pilot.Incidents.Budget
import Pilot.Mcp.Manifest
import Pilot.Outbound.Bodies
import Pilot.Outbound.Publication
import Pilot.Outbound.Retry
import Pilot.Remediation.Breakers
import Pilot.Remediation.Caps
import Pilot.Remediation.RealOutcome
import Pilot.Remediation.StoreCalls
import Pilot.Roster.Dangling
import Pilot.Roster.Editing
import Pilot.Roster.Explain
import Pilot.Roster.Migration
import Pilot.Roster.Nesting
import Pilot.Sessions.Asciicast
import Pilot.Sessions.Ingest
import Pilot.Sessions.Recorder
import Pilot.Sessions.Retention
import Pilot.SshCache.Retirement
import Pilot.Workspace.RosterRollback

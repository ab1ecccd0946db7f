import Pilot.Detection.Store

/-!
The detection engine's cycle (`internal/detection/engine.go`) from the point
where every pending host has its fused score: advance the host's lifecycle
in memory, then persist the transition, host after host, then refresh the
active episodes. A host's lifecycle is found by name, its episode by the
fingerprint of name, kind, site and profile.
-/
namespace Pilot.Detection
open Pilot.Table

structure NotifyPolicy where
  (warning critical runbookURL recommendedAction : String)
  deriving DecidableEq, Repr

/-- The profile fields the lifecycle and the alerts read. -/
structure FeatureProfile where
  id : String
  version : Int
  identityKind : String
  lifecycle : LifecyclePolicy
  notify : NotifyPolicy
  notifyByCategory : List (String × NotifyPolicy)
  deriving DecidableEq, Repr

def subjectKindManagedHost : String := "managed_host"

def orElse (text fallback : String) : String := if text = "" then fallback else text

/-- `EffectiveIdentity().Kind`. -/
def FeatureProfile.kind (p : FeatureProfile) : String :=
  orElse p.identityKind subjectKindManagedHost

def FeatureProfile.effectiveNotifyPolicy (p : FeatureProfile) : NotifyPolicy :=
  ⟨orElse p.notify.warning "dashboard",orElse p.notify.critical "teams",
    orElse p.notify.runbookURL "docs/runbooks/detection-engine.md",p.notify.recommendedAction⟩

def FeatureProfile.effectiveNotifyPolicyForCategory (p : FeatureProfile) (category : String) :
    NotifyPolicy :=
  let effective := p.effectiveNotifyPolicy
  if category = "" ∨ category = "composite_resource" then effective
  else match p.notifyByCategory.lookup category with
    | none => effective
    | some override =>
      ⟨orElse override.warning effective.warning,orElse override.critical effective.critical,
        orElse override.runbookURL effective.runbookURL,
        orElse override.recommendedAction effective.recommendedAction⟩

structure FusedResult where
  score : Score
  category : String
  contributors : List Contributor
  (source detectorSource : String)
  deriving DecidableEq

structure AlertEvidence where
  (score confidence : Score)
  (categoryHint detectorSource dominantFeature : String)
  contributors : List Contributor
  featureValues : List (String × Score)
  deriving DecidableEq

structure AlertNotification where
  actionRequired : Bool
  (channel reason recommendedAction runbookURL : String)
  deriving DecidableEq, Repr

def buildAlertEvidence (fused : FusedResult) (current : List (String × Score)) : AlertEvidence where
  score := fused.score
  confidence := .value 1
  categoryHint :=
    if 1 < ((fused.contributors.map Contributor.category).filter (· != "")).dedup.length then
      "composite_resource"
    else fused.category
  detectorSource := orElse (orElse fused.detectorSource fused.source) "unknown"
  dominantFeature := ((fused.contributors.map Contributor.feature).find? (· != "")).getD ""
  contributors := fused.contributors
  featureValues := (fused.contributors.map Contributor.feature).dedup.filterMap (fun feature =>
    (current.lookup feature).map (fun value => (feature,value)))

def FeatureProfile.alertNotification (p : FeatureProfile) (severity : Severity)
    (evidence : AlertEvidence) : AlertNotification :=
  let policy := p.effectiveNotifyPolicyForCategory evidence.categoryHint
  let channel := if severity = .critical then policy.critical else policy.warning
  let actionRequired := channel == "teams"
  let reason := s!"sustained {evidence.categoryHint} anomaly detected by {evidence.detectorSource}"
  { actionRequired := actionRequired
    channel := channel
    reason :=
      if evidence.dominantFeature = "" then reason
      else s!"{reason}; primary signal {evidence.dominantFeature}"
    recommendedAction := orElse policy.recommendedAction
      (if actionRequired then
        "Inspect the ranked contributors, confirm user-visible impact, and follow the runbook before remediation."
      else
        "Review this warning in the dashboard during routine triage; no immediate user action is requested.")
    runbookURL := policy.runbookURL }

def Severity.text : Severity → String
  | none => ""
  | warning => "warning"
  | critical => "critical"

def alertmanagerRefreshWindow : Int := 60 * second
def alertmanagerEndsAtHorizon : Int := 180 * second

def durationSeconds (now started : Int) : String := toString (max 0 ((now - started).tdiv second))

def buildAlertPayload (P : Platform) (subjectID subjectKind site severity signalID : String)
    (evidence : AlertEvidence) (notification : AlertNotification) (profile : String)
    (startsAt now : Int) : AlertmanagerPayload where
  labels :=
    [("alertname","PilotAdaptiveAnomaly"),
      ("action_required",if notification.actionRequired then "true" else "false"),
      ("notification_channel",notification.channel),("source","detection-engine"),
      ("signal_id",signalID),("pilot_subject",subjectID),("pilot_subject_kind",subjectKind),
      ("site",site),("severity",severity),
      (if subjectKind = subjectKindManagedHost then "pilot_host" else "pilot_target",subjectID)]
  annotations :=
    [("signal_id",signalID),("reason",notification.reason),
      ("recommended_action",notification.recommendedAction),
      ("runbook_url",notification.runbookURL),("duration_seconds",durationSeconds now startsAt),
      ("score",P.formatFloat evidence.score),("confidence",P.formatFloat evidence.confidence),
      ("category_hint",evidence.categoryHint),
      ("top_contributors",P.marshalStrings (evidence.contributors.map Contributor.feature)),
      ("profile",profile),("detector_source",evidence.detectorSource),
      ("dominant_feature",evidence.dominantFeature),
      ("contributor_scores",P.marshalContributors evidence.contributors),
      ("feature_values",P.marshalValues evidence.featureValues)]
  startsAt := P.rfc3339 startsAt
  endsAt := P.rfc3339 (now + alertmanagerEndsAtHorizon)

def setAnnotation (annotations : List (String × String)) (key value : String) :
    List (String × String) :=
  annotations.filter (fun a => a.1 != key) ++ [(key,value)]

def updateAlertDuration (P : Platform) (payload : AlertmanagerPayload) (now : Int) :
    AlertmanagerPayload :=
  match P.parseRFC3339 payload.startsAt with
  | none => payload
  | some started => { payload with
      annotations := setAnnotation payload.annotations "duration_seconds"
        (durationSeconds now started) }

def resolveAlertPayload (P : Platform) (payload : AlertmanagerPayload) (now : Int) :
    AlertmanagerPayload :=
  updateAlertDuration P { payload with endsAt := P.rfc3339 now } now

def refreshAlertPayload (P : Platform) (payload : AlertmanagerPayload) (now : Int) :
    AlertmanagerPayload :=
  updateAlertDuration P { payload with endsAt := P.rfc3339 (now + alertmanagerEndsAtHorizon) } now

def fingerprintPayload (subjectID subjectKind site featureProfileID : String)
    (featureProfileVersion : Int) : String :=
  "pilot-detection/v1\n" ++ subjectID ++ "\n" ++ subjectKind ++ "\n" ++ site ++ "\n" ++
    featureProfileID ++ "\n" ++ toString featureProfileVersion

def fingerprint (P : Platform) (subjectID subjectKind site featureProfileID : String)
    (featureProfileVersion : Int) : String :=
  P.sha256Hex (fingerprintPayload subjectID subjectKind site featureProfileID featureProfileVersion)

/-- `drawn` counts the ULIDs taken from the platform's source. -/
structure Engine where
  profile : FeatureProfile
  lifecycles : String → Option HostLifecycle
  store : Store
  drawn : Nat

def Engine.lifecycleFor (e : Engine) (host : String) : HostLifecycle :=
  (e.lifecycles host).getD (newHostLifecycleWithPolicy e.profile.lifecycle.effective)

def Engine.setLifecycle (e : Engine) (host : String) (lc : HostLifecycle) : Engine :=
  { e with lifecycles := Function.update e.lifecycles host (some lc) }

def Engine.fingerprintOf (P : Platform) (e : Engine) (host site : String) : String :=
  fingerprint P host e.profile.kind site e.profile.id e.profile.version

/-- Oldest bit first, so the newest is the lowest. -/
def packWarningHistory (history : List Bool) : Nat × Nat :=
  history.foldl (fun (bits,count) value => (2 * bits + (if value then 1 else 0),count + 1)) (0,0)

def copyLifecycleToEpisode (lc : HostLifecycle) (episode : EpisodeRecord) : EpisodeRecord :=
  { episode with
    warningBits := (packWarningHistory lc.warningHistory).1
    warningCount := (packWarningHistory lc.warningHistory).2
    criticalStreak := lc.criticalStreak
    recoveryStreak := lc.recoveryStreak
    candidateClearStreak := lc.candidateClearStreak }

def LifecycleAction.text : LifecycleAction → String
  | none => "none"
  | createWarning => "create_warning"
  | createCritical => "create_critical"
  | escalateCritical => "escalate_critical"
  | enterRecovering => "enter_recovering"
  | returnToFiring => "return_to_firing"
  | resolve => "resolve"

/-- One host that reached the lifecycle stage of a cycle, its policy-limited
    score, and whether the database will refuse the write of its transition. -/
structure PendingHost where
  (host site : String)
  fused : FusedResult
  current : List (String × Score)
  lifecycleScore : Score
  writeFails : Bool

def Engine.commit (e : Engine) (draws : Nat) : Except String Store → Engine × Option String
  | .ok store => ({ e with store := store, drawn := e.drawn + draws },none)
  | .error err => ({ e with drawn := e.drawn + draws },some err)

def openEpisode (P : Platform) (e : Engine) (ph : PendingHost) (tr : Transition) (now : Int) :
    EpisodeRecord :=
  copyLifecycleToEpisode (e.lifecycleFor ph.host)
    { signalID := P.ulid e.drawn
      fingerprint := e.fingerprintOf P ph.host ph.site
      subjectID := ph.host
      subjectKind := e.profile.kind
      pilotHost := if e.profile.kind = subjectKindManagedHost then ph.host else ""
      site := ph.site
      profileID := e.profile.id
      profileVersion := e.profile.version
      state := .lifecycle .firing
      severity := tr.severity
      categoryHint := (buildAlertEvidence ph.fused ph.current).categoryHint
      createdAt := now
      updatedAt := now
      revision := 1
      lastScore := some ph.fused.score
      lastConfidence := none
      warningBits := 0
      warningCount := 0
      criticalStreak := 0
      recoveryStreak := 0
      candidateClearStreak := 0 }

def Engine.payload (P : Platform) (e : Engine) (ph : PendingHost) (severity : Severity)
    (signalID : String) (startsAt now : Int) : AlertmanagerPayload :=
  let evidence := buildAlertEvidence ph.fused ph.current
  buildAlertPayload P ph.host e.profile.kind ph.site severity.text signalID evidence
    (e.profile.alertNotification severity evidence) e.profile.id startsAt now

def persistCreate (P : Platform) (e : Engine) (wall : Int) (ph : PendingHost) (tr : Transition)
    (now : Int) : Engine × Option String :=
  let signalID := P.ulid e.drawn
  let payload := P.marshalAlert (e.payload P ph tr.severity signalID now now)
  e.commit 2 (applyTransition P e.store ph.writeFails wall (openEpisode P e ph tr now)
    ⟨signalID,1,tr.action.text,payload,now⟩
    [⟨P.ulid (e.drawn + 1),signalID,1,1,"fire",payload,now⟩])

def persistEscalate (P : Platform) (e : Engine) (wall : Int) (ph : PendingHost) (tr : Transition)
    (now : Int) (existing : EpisodeRecord) : Engine × Option String :=
  let revision := existing.revision + 1
  let episode := copyLifecycleToEpisode (e.lifecycleFor ph.host) { existing with
    severity := .critical, categoryHint := (buildAlertEvidence ph.fused ph.current).categoryHint,
    updatedAt := now, revision := revision, lastScore := some ph.fused.score }
  let resolvePayload := P.marshalAlert (resolveAlertPayload P
    (e.payload P ph .warning existing.signalID existing.createdAt now) now)
  let firePayload := P.marshalAlert (e.payload P ph .critical existing.signalID now now)
  e.commit 2 (applyTransition P e.store ph.writeFails wall episode
    ⟨existing.signalID,revision,tr.action.text,firePayload,now⟩
    [⟨P.ulid e.drawn,existing.signalID,revision,1,"resolve_warning",resolvePayload,now⟩,
      ⟨P.ulid (e.drawn + 1),existing.signalID,revision,2,"fire_critical",firePayload,now⟩])

def persistMove (P : Platform) (e : Engine) (wall : Int) (ph : PendingHost) (tr : Transition)
    (now : Int) (existing : EpisodeRecord) : Engine × Option String :=
  let revision := existing.revision + 1
  let episode := copyLifecycleToEpisode (e.lifecycleFor ph.host) { existing with
    state := .lifecycle tr.toState, severity := tr.severity,
    categoryHint := (buildAlertEvidence ph.fused ph.current).categoryHint,
    updatedAt := now, revision := revision, lastScore := some ph.fused.score }
  let payload := P.marshalAlert (e.payload P ph tr.severity existing.signalID existing.createdAt now)
  e.commit 0 (applyTransition P e.store ph.writeFails wall episode
    ⟨existing.signalID,revision,tr.action.text,payload,now⟩ [])

def persistResolve (P : Platform) (e : Engine) (wall : Int) (ph : PendingHost) (tr : Transition)
    (now : Int) (existing : EpisodeRecord) : Engine × Option String :=
  let revision := existing.revision + 1
  let episode := copyLifecycleToEpisode (e.lifecycleFor ph.host) { existing with
    state := .resolved, severity := .none, updatedAt := now, revision := revision }
  let previous := (latestAlertPayload P e.store existing.signalID).getD
    (e.payload P ph tr.severity existing.signalID existing.createdAt now)
  let payload := P.marshalAlert (resolveAlertPayload P previous now)
  e.commit 1 (applyTransition P e.store ph.writeFails wall episode
    ⟨existing.signalID,revision,tr.action.text,payload,now⟩
    [⟨P.ulid e.drawn,existing.signalID,revision,1,"resolve",payload,now⟩])

/-- The action to persist; a transition of an existing episode that the
    store does not have is an error. -/
def persistTransition (P : Platform) (e : Engine) (wall : Int) (ph : PendingHost)
    (tr : Transition) (evaluationTime : Int) : Engine × Option String :=
  let now := evaluationTime * second
  let existing := getEpisodeByFingerprint e.store (e.fingerprintOf P ph.host ph.site)
  match tr.action with
  | .none => (e,none)
  | .createWarning | .createCritical => persistCreate P e wall ph tr now
  | .escalateCritical =>
    match existing with
    | none => (e,some s!"escalate: no active episode for fingerprint (host={ph.host}): %!w(<nil>)")
    | some episode => persistEscalate P e wall ph tr now episode
  | .enterRecovering | .returnToFiring =>
    match existing with
    | none => (e,some s!"{tr.action.text}: no active episode for fingerprint (host={ph.host}): %!w(<nil>)")
    | some episode => persistMove P e wall ph tr now episode
  | .resolve =>
    match existing with
    | none => (e,some s!"resolve: no active episode for fingerprint (host={ph.host}): %!w(<nil>)")
    | some episode => persistResolve P e wall ph tr now episode

/-- The hosts of one `RunCycle`: those that were valid, those that reached
    the lifecycle stage, and which refresh writes the database refuses. -/
structure Cycle where
  (evaluationTime wall : Int)
  valid : List String
  pending : List PendingHost
  refreshFails : String → Bool

inductive CycleEnd where
  | completed
  | persistFailed (host : String) (action : LifecycleAction) (err : String)
  | refreshFailed (err : String)
  deriving DecidableEq, Repr

/-- Advance in memory, then persist what the advance asked for. -/
def advanceHost (P : Platform) (e : Engine) (wall evaluationTime : Int) (ph : PendingHost) :
    (Engine × Option String) × Transition :=
  let advanced := (e.lifecycleFor ph.host).advance ph.lifecycleScore
  let e := e.setLifecycle ph.host advanced.1
  (persistTransition P e wall ph advanced.2 evaluationTime,advanced.2)

def advanceHosts (P : Platform) (wall evaluationTime : Int) :
    Engine → List PendingHost → Engine × CycleEnd
  | e, [] => (e,.completed)
  | e, ph :: rest =>
    match advanceHost P e wall evaluationTime ph with
    | ((e',some err),tr) => (e',.persistFailed ph.host tr.action err)
    | ((e',none),_) => advanceHosts P wall evaluationTime e' rest

def refreshDue (e : Engine) (now : Int) (existing : EpisodeRecord) : Bool :=
  existing.profileID == e.profile.id && existing.profileVersion == e.profile.version &&
    existing.subjectKind == e.profile.kind &&
    decide (alertmanagerRefreshWindow ≤ now - existing.updatedAt)

def refreshPayload (P : Platform) (e : Engine) (now : Int) (existing : EpisodeRecord) :
    AlertmanagerPayload :=
  match latestAlertPayload P e.store existing.signalID with
  | some payload => refreshAlertPayload P payload now
  | none =>
    let evidence : AlertEvidence :=
      ⟨existing.lastScore.getD (.value 0),.value 0,existing.categoryHint,"runtime_refresh","",[],[]⟩
    buildAlertPayload P existing.subjectID e.profile.kind existing.site existing.severity.text
      existing.signalID evidence (e.profile.alertNotification existing.severity evidence)
      e.profile.id existing.createdAt now

def refreshedEpisode (e : Engine) (now : Int) (existing : EpisodeRecord) : EpisodeRecord :=
  let episode := { existing with updatedAt := now, revision := existing.revision + 1 }
  match e.lifecycles existing.subjectID with
  | none => episode
  | some lc => copyLifecycleToEpisode lc episode

def refreshEpisode (P : Platform) (e : Engine) (fails : Bool) (wall now : Int)
    (existing : EpisodeRecord) : Engine × Option String :=
  let payload := P.marshalAlert (refreshPayload P e now existing)
  let revision := existing.revision + 1
  e.commit 1 (applyTransition P e.store fails wall (refreshedEpisode e now existing)
    ⟨existing.signalID,revision,"heartbeat_refresh",payload,now⟩
    [⟨P.ulid e.drawn,existing.signalID,revision,1,"heartbeat_refresh",payload,now⟩])

def refreshEpisodes (P : Platform) (fails : String → Bool) (wall now : Int) :
    Engine → List EpisodeRecord → Engine × CycleEnd
  | e, [] => (e,.completed)
  | e, existing :: rest =>
    if refreshDue e now existing then
      match refreshEpisode P e (fails existing.signalID) wall now existing with
      | (e',some err) => (e',.refreshFailed err)
      | (e',none) => refreshEpisodes P fails wall now e' rest
    else refreshEpisodes P fails wall now e rest

/-- `lifecycleFor` leaves a fresh lifecycle behind for a host it has not seen. -/
def Engine.touch (e : Engine) (host : String) : Engine := e.setLifecycle host (e.lifecycleFor host)

def runCycle (P : Platform) (e : Engine) (c : Cycle) : Engine × CycleEnd :=
  let e := c.valid.foldl Engine.touch e
  match advanceHosts P c.wall c.evaluationTime e c.pending with
  | (e',.completed) =>
    refreshEpisodes P c.refreshFails c.wall (c.evaluationTime * second) e' (listActiveEpisodes e'.store)
  | failed => failed

end Pilot.Detection

import Pilot.Detection.LogDetector

/-!
The front of `RunCycle` (`internal/detection/engine.go`): the instant queries, the
grouping of their series by subject and site, the classification of the samples
(`source.go`), the snapshots, the per-host scores and the learning of the history
buckets (`baseline.go`). The pending hosts then go to `runCycle`.
-/
namespace Pilot.Detection

structure RawSample where
  timestamp : Int
  value : Score
  deriving DecidableEq

structure Series where
  labels : List (String × String)
  sample : RawSample

def Series.label (s : Series) (name : String) : String := (s.labels.lookup name).getD ""

inductive SampleValidity where
  | valid | missing | ambiguousSeries | nonFinite | futureSample | stale | outOfRange
  deriving DecidableEq, Repr

def classifySample (samples : List RawSample) (evaluationTime : Int) (feature : Feature)
    (maxSampleAge futureSkewTolerance : Int) : Score × SampleValidity :=
  match samples with
  | [] => (.value 0,.missing)
  | [s] =>
    if s.value = .nan ∨ s.value = .posInf ∨ s.value = .negInf then (s.value,.nonFinite)
    else if evaluationTime + futureSkewTolerance < s.timestamp then (s.value,.futureSample)
    else if maxSampleAge < evaluationTime - s.timestamp then (s.value,.stale)
    else if s.value.lt feature.validMin || feature.validMax.lt s.value then (s.value,.outOfRange)
    else (s.value,.valid)
  | _ => (.value 0,.ambiguousSeries)

structure FeatureSampleResult where
  feature : String
  value : Score
  validity : SampleValidity
  deriving DecidableEq

def hostCycleValid (p : DetectorProfile) (results : Dict String FeatureSampleResult) : Bool :=
  (p.features.filter Feature.required).all fun f =>
    (results.get? f.name).any fun r => r.validity == .valid

def validCurrentValues (results : Dict String FeatureSampleResult) : List (String × Score) :=
  (results.entries.filter fun entry => entry.2.validity == .valid).map fun entry =>
    (entry.1,entry.2.value)

structure SeriesKey where
  (pilotHost site : String)
  deriving DecidableEq

def DetectorProfile.subjectLabel (p : DetectorProfile) : String := orElse p.identityLabel "pilot_host"
def DetectorProfile.placeLabel (p : DetectorProfile) : String := orElse p.siteLabel "site"

/-- A duration of the profile in seconds, the default for a text that does not parse. -/
def windowSeconds (parseSeconds : String → Option Int) (text fallback : String) : Int :=
  ((parseSeconds (orElse text fallback)).orElse fun _ => parseSeconds fallback).getD 0

structure Grouping where
  samples : Dict SeriesKey (List RawSample)
  cohorts : Dict SeriesKey String

/-- A series without a subject is dropped, and one without a site too unless the
    subjects are managed hosts. -/
def groupSeries (p : DetectorProfile) (g : Grouping) (s : Series) : Grouping :=
  let key : SeriesKey := ⟨s.label p.subjectLabel,s.label p.placeLabel⟩
  if key.pilotHost = "" ∨ (key.site = "" ∧ p.kind ≠ subjectKindManagedHost) then g
  else
    { samples := g.samples.set key ((g.samples.get? key).getD [] ++ [s.sample])
      cohorts :=
        if p.cohortLabel ≠ "" ∧ s.label p.cohortLabel ≠ "" then
          g.cohorts.set key (s.label p.cohortLabel)
        else g.cohorts }

def groupSamplesByKey (p : DetectorProfile) (series : List Series) : Grouping :=
  series.foldl (groupSeries p) ⟨.empty,.empty⟩

/-- The buckets of a host's feature, by the start of their minute. -/
abbrev Baselines := String → String → Dict Int Score

def bucketOf (evaluationTime : Int) : Int := evaluationTime.tdiv 60 * 60

def baselineWindowSeconds : Int := 24 * 60 * 60

def Baselines.edit (b : Baselines) (host feature : String) (f : Dict Int Score → Dict Int Score) :
    Baselines :=
  Function.update b host (Function.update (b host) feature (f (b host feature)))

def Baselines.observe (b : Baselines) (host feature : String) (evaluationTime : Int)
    (value : Score) : Baselines :=
  b.edit host feature fun buckets => buckets.set (bucketOf evaluationTime) value

def Baselines.evict (b : Baselines) (host feature : String) (evaluationTime : Int) : Baselines :=
  b.edit host feature fun buckets =>
    buckets.filter fun bucket => decide (evaluationTime - baselineWindowSeconds ≤ bucket.1)

def Baselines.history (order : Order) (b : Baselines) (host feature : String) : List Score :=
  (order.pick (.history host feature) (b host feature).entries).map Prod.snd

def shouldUpdateBaseline (state : LifecycleState) (localScore : Score)
    (allRequiredFeaturesValid : Bool) : Bool :=
  state == .normal && localScore.below candidateThreshold && allRequiredFeaturesValid

structure Candidate where
  (host kind site : String)
  localScore : LocalScoreResult
  current : List (String × Score)

/-- What a cycle reads from outside: the static cohorts, the metric source, the
    normalized log lines of both windows (none without a log source) and the ratio of
    the windows, the model provider if there is one, and which writes will fail. -/
structure CycleInput where
  (evaluationTime wall : Int)
  cohorts : String → String
  query : String → Except String (List Series)
  logText : LogText
  (currentLog baselineLog : String → List LogEntry)
  logScale : Score
  provider : Option (List Candidate → String → Option ModelCandidateResponse)
  (writeFails refreshFails : String → Bool)

structure Gathered where
  perHost : SeriesKey → Dict String FeatureSampleResult
  (siteByHost cohortByHost : Dict String String)

section
variable (parseSeconds : String → Option Int) (round : ℚ → Score) (order : Order)
  (p : DetectorProfile) (input : CycleInput)

def CycleInput.logs (host : String) : HostLogs where
  current := summarizeLogWindow input.logText (input.currentLog host)
  baseline := summarizeLogWindow input.logText (input.baselineLog host)
  scale := input.logScale

def CycleInput.logScore (host : String) : HostFeatureScoreResult :=
  computeLogHostScore round input.logText (List.take 5) order host (input.logs host)

def queryFeatures : Except String (List (Feature × Grouping)) :=
  p.features.mapM fun feature =>
    match input.query feature.promQL with
    | .error err => throw s!"query feature {feature.name}: {err}"
    | .ok series => return (feature,groupSamplesByKey p series)

def gatherKey (feature : Feature) (cohorts : Dict SeriesKey String) (g : Gathered)
    (entry : SeriesKey × List RawSample) : Gathered :=
  let classified := classifySample entry.2 input.evaluationTime feature
    (windowSeconds parseSeconds p.maxSampleAge "45s")
    (windowSeconds parseSeconds p.futureSkewTolerance "5s")
  { perHost := Function.update g.perHost entry.1
      ((g.perHost entry.1).set feature.name ⟨feature.name,classified.1,classified.2⟩)
    siteByHost := g.siteByHost.set entry.1.pilotHost entry.1.site
    cohortByHost := match cohorts.get? entry.1 with
      | none => g.cohortByHost
      | some cohort => g.cohortByHost.set entry.1.pilotHost cohort }

def gather (queried : List (Feature × Grouping)) : Gathered :=
  queried.zipIdx.foldl (fun g entry =>
    (order.pick (.grouped entry.2) entry.1.2.samples.entries).foldl
      (gatherKey parseSeconds p input entry.1.1 entry.1.2.cohorts) g)
    ⟨fun _ => .empty,.empty,.empty⟩

def Gathered.site (g : Gathered) (host : String) : String := (g.siteByHost.get? host).getD ""

def Gathered.results (g : Gathered) (host : String) : Dict String FeatureSampleResult :=
  g.perHost ⟨host,g.site host⟩

def Gathered.hosts (g : Gathered) : List String :=
  (order.pick .hosts (g.siteByHost.entries.map Prod.fst)).insertionSort (· ≤ ·)

/-- A profile with a cohort label takes the cohort from the sample, never from the table. -/
def Gathered.snapshot (g : Gathered) (host : String) : HostCycleSnapshot where
  host := host
  cohort := if p.cohortLabel ≠ "" then (g.cohortByHost.get? host).getD "" else input.cohorts host
  current := validCurrentValues (g.results host)

def Gathered.snapshots (g : Gathered) : List HostCycleSnapshot :=
  (g.hosts order).map (g.snapshot p input)

/-- Write the readings of a cycle, or not, and drop what is older than a day. -/
def Baselines.learn (b : Baselines) (state : LifecycleState) (localScore : Score)
    (snap : HostCycleSnapshot) : Baselines :=
  let b := if shouldUpdateBaseline state localScore true then
      (order.pick (.observe snap.host) snap.current).foldl
        (fun b reading => b.observe snap.host reading.1 input.evaluationTime reading.2) b
    else b
  if state = .normal then
    (order.pick (.prune snap.host) snap.current).foldl
      (fun b reading => b.evict snap.host reading.1 input.evaluationTime) b
  else b

structure PendingScore where
  snap : HostCycleSnapshot
  site : String
  localScore : LocalScoreResult

structure Scored where
  baselines : Baselines
  valid : List String
  pending : List PendingScore

def localScoreOf (b : Baselines) (snapshots : List HostCycleSnapshot) (snap : HostCycleSnapshot) :
    LocalScoreResult :=
  computeLocalScore
    (computeBaselineHostScore (List.take 5) round p (b.history order snap.host)
      (order.pick (.baseline snap.host) snap.current))
    (computeCohortHostScore (List.take 5) round p snap (order.pick (.cohort snap.host) snap.current)
      snapshots)
    (input.logScore round order snap.host)

/-- An invalid host is skipped; a host no detector is ready for only learns. -/
def scoreHost (e : Engine) (g : Gathered) (s : Scored) (snap : HostCycleSnapshot) : Scored :=
  if !hostCycleValid p (g.results snap.host) then s
  else
    let state := (e.lifecycleFor snap.host).state
    let b := if state = .normal then
        (order.pick (.evict snap.host) snap.current).foldl
          (fun b reading => b.evict snap.host reading.1 input.evaluationTime) s.baselines
      else s.baselines
    let l := localScoreOf round order p input b (g.snapshots order p input) snap
    if l.valid then ⟨b,s.valid ++ [snap.host],s.pending ++ [⟨snap,g.site snap.host,l⟩]⟩
    else ⟨b.learn order input state l.score snap,s.valid ++ [snap.host],s.pending⟩

def candidates (pending : List PendingScore) : List Candidate :=
  (pending.filter fun ph => ph.localScore.score.atLeast candidateThreshold).map fun ph =>
    ⟨ph.snap.host,p.kind,ph.site,ph.localScore,ph.snap.current⟩

def modelResponse (pending : List PendingScore) (ph : PendingScore) : Option ModelCandidateResponse :=
  if ph.localScore.score.atLeast candidateThreshold then
    input.provider.bind fun provider => provider (candidates p pending) ph.snap.host
  else none

def pendingHost (pending : List PendingScore) (ph : PendingScore) : PendingHost :=
  let fused := fuse round ph.localScore (modelResponse p input pending ph)
  { host := ph.snap.host
    site := ph.site
    fused := fused
    current := ph.snap.current
    lifecycleScore := p.lifecycleScore ph.snap.current fused
    writeFails := input.writeFails ph.snap.host }

/-- The hosts whose transition was persisted; a failed write ends the loop. -/
def persistedHosts (result : CycleEnd) (pending : List PendingScore) : List PendingScore :=
  match result with
  | .persistFailed host _ _ => pending.takeWhile fun ph => ph.snap.host != host
  | _ => pending

structure CycleResult where
  engine : Engine
  baselines : Baselines
  finish : CycleEnd

def scoreHosts (e : Engine) (b : Baselines) (queried : List (Feature × Grouping)) : Scored :=
  let g := gather parseSeconds order p input queried
  (g.snapshots order p input).foldl (scoreHost round order p input e g) ⟨b,[],[]⟩

def cycleOf (scored : Scored) : Cycle where
  evaluationTime := input.evaluationTime
  wall := input.wall
  valid := scored.valid
  pending := scored.pending.map (pendingHost round p input scored.pending)
  refreshFails := input.refreshFails

def finishCycle (P : Platform) (e : Engine) (scored : Scored) : CycleResult :=
  let (e',finish) := runCycle P e (cycleOf round p input scored)
  { engine := e'
    baselines := (persistedHosts finish scored.pending).foldl (fun b ph =>
      b.learn order input (e'.lifecycleFor ph.snap.host).state ph.localScore.score ph.snap)
      scored.baselines
    finish := finish }

def runCycleOnSamples (P : Platform) (e : Engine) (b : Baselines) : Except String CycleResult := do
  let queried ← queryFeatures p input
  return finishCycle round order p input P e
    (scoreHosts parseSeconds round order p input e b queried)

end
end Pilot.Detection

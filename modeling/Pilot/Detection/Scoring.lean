import Pilot.Detection.Engine

/-!
The detectors that turn a host's readings into the score its lifecycle is fed:
`baseline.go`, `cohort.go`, `score.go`, `model_fusion.go` and the scoring part of
`featureprofile.go` in `internal/detection`. Every arithmetic result passes
through a rounding hook, the nearest float64. Which of the positive contributors a
detector keeps is a parameter: the source keeps the first five.
-/
namespace Pilot.Detection

def Score.sortLE : Score → Score → Bool
  | nan, _ => true
  | _, nan => false
  | negInf, _ => true
  | _, negInf => false
  | value p, value q => decide (p ≤ q)
  | value _, posInf => true
  | posInf, value _ => false
  | posInf, posInf => true

/-- The comparisons of float64: nothing compares with NaN. -/
def Score.le (a b : Score) : Bool := a != nan && b != nan && a.sortLE b
def Score.lt (a b : Score) : Bool := a != nan && b != nan && !b.sortLE a

section
variable (round : ℚ → Score)

def Score.neg : Score → Score
  | nan => nan
  | negInf => posInf
  | value q => value (-q)
  | posInf => negInf

def Score.add : Score → Score → Score
  | nan, _ | _, nan | negInf, posInf | posInf, negInf => nan
  | negInf, _ | _, negInf => negInf
  | posInf, _ | _, posInf => posInf
  | value p, value q => round (p + q)

def Score.sub (a b : Score) : Score := Score.add round a b.neg

def Score.abs : Score → Score
  | nan => nan
  | value q => value |q|
  | negInf | posInf => posInf

/-- The infinity with the sign of a finite factor. -/
def Score.infinity (sign : ℚ) : Score :=
  if sign = 0 then nan else if 0 < sign then posInf else negInf

def Score.mul : Score → Score → Score
  | nan, _ | _, nan => nan
  | value p, value q => round (p * q)
  | posInf, value q | value q, posInf => infinity q
  | negInf, value q | value q, negInf => infinity (-q)
  | posInf, posInf | negInf, negInf => posInf
  | posInf, negInf | negInf, posInf => negInf

/-- A zero divisor counts as the positive zero. -/
def Score.div : Score → Score → Score
  | nan, _ | _, nan => nan
  | value p, value q => if q = 0 then infinity p else round (p / q)
  | value _, posInf | value _, negInf => value 0
  | posInf, value q => if q < 0 then negInf else posInf
  | negInf, value q => if q < 0 then posInf else negInf
  | posInf, posInf | posInf, negInf | negInf, posInf | negInf, negInf => nan

/-- `math.Max`. -/
def Score.max (a b : Score) : Score :=
  if a = posInf ∨ b = posInf then posInf
  else if a = nan ∨ b = nan then nan
  else if a.lt b then b else a

def median (xs : List Score) : Score :=
  let sorted := xs.insertionSort (fun a b => a.sortLE b)
  let mid := xs.length / 2
  if xs.length = 0 then .value 0
  else if xs.length % 2 = 1 then sorted.getD mid .nan
  else Score.div round (Score.add round (sorted.getD (mid - 1) .nan) (sorted.getD mid .nan)) (.value 2)

def medianAbsoluteDeviation (xs : List Score) (m : Score) : Score :=
  median round (xs.map (fun x => (Score.sub round x m).abs))

def scoreZeroDistance : ℚ := 7 / 2
def scoreOneDistance : ℚ := 8

def scoreFromDistance (d : Score) : Score :=
  if d.le (.value scoreZeroDistance) then .value 0
  else if (Score.value scoreOneDistance).le d then .value 1
  else Score.div round (Score.sub round d (.value scoreZeroDistance))
    (.value (scoreOneDistance - scoreZeroDistance))

structure FeatureThreshold where
  feature : String
  minValue : Score
  deriving DecidableEq

structure Feature where
  name : String
  required : Bool
  category : String
  scaleFloor : Score
  cohort : Bool
  warning : Option Bool
  warningMinValue : Option Score
  warningRequireAny : List FeatureThreshold
  critical : Option Bool
  criticalMinValue : Option Score
  (validMin validMax : Score)
  promQL : String
  deriving DecidableEq

/-- The profile with the fields that sampling and scoring read. -/
structure DetectorProfile extends FeatureProfile where
  (identityLabel siteLabel cohortLabel maxSampleAge futureSkewTolerance : String)
  features : List Feature

def DetectorProfile.feature (p : DetectorProfile) (name : String) : Option Feature :=
  p.features.find? (fun f => f.name == name)

def allowedDestinations : List String := ["none","dashboard","digest","teams"]

section
variable (quote : String → String) (parseDuration : String → Except String Int)

def checkDestination (field destination : String) : Except String Unit :=
  if destination ∈ allowedDestinations then return ()
  else
    let shown := quote destination
    throw s!"feature profile: {field} {shown} is not one of none, dashboard, digest, teams"

def DetectorProfile.checkOverride (p : DetectorProfile) (category : String) (override : NotifyPolicy) :
    Except String Unit := do
  let name := quote category
  if !p.features.any (fun f => f.category == category) then
    throw s!"feature profile: notifyByCategory references unknown category {name}"
  if override.warning ≠ "" then
    checkDestination quote s!"notifyByCategory[{name}].warning" override.warning
  if override.critical ≠ "" then
    checkDestination quote s!"notifyByCategory[{name}].critical" override.critical

def checkDuration (field text : String) : Except String Unit :=
  if text = "" then return ()
  else match parseDuration text with
    | .ok _ => return ()
    | .error err => throw s!"feature profile: sampling.{field}: {err}"

def Feature.check (f : Feature) : Except String Unit := do
  let name := quote f.name
  if f.validMax.le f.validMin then
    throw s!"feature profile: feature {name} validMin must be < validMax"
  if f.warning = some false ∧ (f.warningMinValue.isSome ∨ f.warningRequireAny ≠ []) then
    throw s!"feature profile: feature {name} cannot set warning gates when warning is false"
  if f.warningMinValue.any (fun floor => floor.lt f.validMin || f.validMax.lt floor) then
    throw s!"feature profile: feature {name} warningMinValue must be within valid range"
  if f.warningMinValue.any (fun floor => f.criticalMinValue.any (fun high => high.lt floor)) then
    throw s!"feature profile: feature {name} criticalMinValue must be >= warningMinValue"
  if f.criticalMinValue.isSome ∧ f.critical = some false then
    throw s!"feature profile: feature {name} cannot set criticalMinValue when critical is false"
  if f.criticalMinValue.any (fun floor => floor.lt f.validMin || f.validMax.lt floor) then
    throw s!"feature profile: feature {name} criticalMinValue must be within valid range"
  if f.scaleFloor.le (.value 0) then
    throw s!"feature profile: feature {name} scaleFloor must be > 0"
  if f.promQL = "" then throw s!"feature profile: feature {name} has no promql"

/-- The features checked so far have the names `seen`. -/
def checkFeatures : List String → List Feature → Except String Unit
  | _, [] => return ()
  | seen, f :: rest => do
    if f.name = "" then throw "feature profile: feature with empty name"
    let name := quote f.name
    if f.name ∈ seen then throw s!"feature profile: duplicate feature {name}"
    f.check quote
    checkFeatures (f.name :: seen) rest

def DetectorProfile.checkRequirement (p : DetectorProfile) (f : Feature)
    (requirement : FeatureThreshold) : Except String Unit := do
  let name := quote f.name
  if requirement.feature = "" ∨ requirement.feature = f.name then
    throw s!"feature profile: feature {name} warningRequireAny must name another feature"
  let other := quote requirement.feature
  match p.feature requirement.feature with
  | none =>
    throw s!"feature profile: feature {name} warningRequireAny references unknown feature {other}"
  | some required =>
    if requirement.minValue.lt required.validMin || required.validMax.lt requirement.minValue then
      throw s!"feature profile: feature {name} warningRequireAny floor for {other} must be within its valid range"

def DetectorProfile.validate (p : DetectorProfile) : Except String Unit := do
  if p.id = "" then throw "feature profile: id is required"
  if p.version < 1 then throw "feature profile: version must be >= 1"
  if p.features = [] then throw "feature profile: at least one feature is required"
  match p.lifecycle.validate with
  | .error err => throw s!"feature profile: lifecycle: {err}"
  | .ok _ => pure ()
  checkDestination quote "notify.warning" p.effectiveNotifyPolicy.warning
  checkDestination quote "notify.critical" p.effectiveNotifyPolicy.critical
  p.notifyByCategory.forM fun (category,override) => p.checkOverride quote category override
  checkDuration parseDuration "maxSampleAge" p.maxSampleAge
  checkDuration parseDuration "futureSkewTolerance" p.futureSkewTolerance
  checkFeatures quote [] p.features
  if !p.features.any Feature.required then
    throw "feature profile: at least one required feature is needed"
  p.features.forM fun f => f.warningRequireAny.forM (p.checkRequirement quote f)

end

/-- 1.4826 and 0.01 rounded to the nearest float64. -/
def madScale : ℚ := 6677036807539497 / 4503599627370496
def relativeFloor : ℚ := 5764607523034235 / 576460752303423488

def computeDistanceScore (feature : Feature) (values : List Score) (current : Score) : Score :=
  let m := median round values
  let mad := medianAbsoluteDeviation round values m
  let sigma := Score.max (Score.mul round (.value madScale) mad)
    (Score.max feature.scaleFloor (Score.mul round m.abs (.value relativeFloor)))
  scoreFromDistance round (Score.div round (Score.sub round current m).abs sigma)

def minReadyBuckets : Nat := 120
def minCohortPeers : Nat := 3

/-- `none` while the detector is learning. -/
def computeRobustBaseline (feature : Feature) (history : List Score) (current : Score) :
    Option Score :=
  if history.length < minReadyBuckets then none
  else some (computeDistanceScore round feature history current)

def computeCohortDistance (feature : Feature) (peerValues : List Score) (current : Score) :
    Option Score :=
  if peerValues.length < minCohortPeers then none
  else some (computeDistanceScore round feature peerValues current)

end

structure HostFeatureScoreResult where
  valid : Bool
  score : Score
  contributors : List Contributor
  category : String
  deriving DecidableEq

def HostFeatureScoreResult.invalid : HostFeatureScoreResult := ⟨false,.value 0,[],""⟩

def Contributor.before (a b : Contributor) : Bool :=
  if a.score = b.score then decide (a.feature ≤ b.feature) else b.score.sortLE a.score

def positiveContributors (scored : List Contributor) : List Contributor :=
  (scored.filter (fun c => (Score.value 0).lt c.score)).insertionSort (fun a b => a.before b)

def maxScore (scored : List Contributor) : Score :=
  scored.foldl (fun best c => if best.lt c.score then c.score else best) (.value 0)

section
variable (keep : List Contributor → List Contributor)

/-- `aggregateFeatureScores`, which keeps five contributors. -/
def aggregateWith (scored : List Contributor) : HostFeatureScoreResult :=
  if scored = [] then .invalid
  else
    { valid := true
      score := maxScore scored
      contributors := keep (positiveContributors scored)
      category := ((positiveContributors scored).head?.map Contributor.category).getD "unknown" }

def scoreReadings (p : DetectorProfile) (detector : Feature → Score → Option Score)
    (current : List (String × Score)) : List Contributor :=
  current.filterMap fun (name,value) => do
    let feature ← p.feature name
    let score ← detector feature value
    return ⟨name,feature.category,score⟩

variable (round : ℚ → Score) (p : DetectorProfile)

def computeBaselineHostScore (history : String → List Score) (current : List (String × Score)) :
    HostFeatureScoreResult :=
  aggregateWith keep (scoreReadings p
    (fun feature value => computeRobustBaseline round feature (history feature.name) value) current)

structure HostCycleSnapshot where
  (host cohort : String)
  current : List (String × Score)

def cohortPeerValues (subject : HostCycleSnapshot) (allHosts : List HostCycleSnapshot)
    (feature : String) : List Score :=
  if subject.cohort = "" then []
  else (allHosts.filter (fun peer => peer.host != subject.host && peer.cohort == subject.cohort)).filterMap
    (fun peer => peer.current.lookup feature)

def computeCohortHostScore (subject : HostCycleSnapshot) (current : List (String × Score))
    (allHosts : List HostCycleSnapshot) : HostFeatureScoreResult :=
  aggregateWith keep (scoreReadings p (fun feature value =>
    if feature.cohort then
      computeCohortDistance round feature (cohortPeerValues subject allHosts feature.name) value
    else none) current)

end

structure LocalScoreResult where
  valid : Bool
  score : Score
  contributors : List Contributor
  (category source : String)
  deriving DecidableEq

def betterCandidate (best : Option (HostFeatureScoreResult × String))
    (c : HostFeatureScoreResult × String) : Option (HostFeatureScoreResult × String) :=
  if !c.1.valid then best
  else match best with
    | none => some c
    | some b => if b.1.score.lt c.1.score then some c else some b

def computeLocalScore (baseline cohort log : HostFeatureScoreResult) : LocalScoreResult :=
  match [(baseline,"baseline"),(cohort,"cohort"),(log,"log")].foldl betterCandidate none with
  | none => ⟨false,.value 0,[],"",""⟩
  | some (winner,source) => ⟨true,winner.score,winner.contributors,winner.category,source⟩

structure ModelContributor where
  feature : String
  score : Score

structure ModelCandidateResponse where
  (score confidence : Score)
  categoryHint : String
  contributors : List ModelContributor

/-- 0.05 rounded to the nearest float64. -/
def categoryEscalationMargin : ℚ := 3602879701896397 / 72057594037927936

def fuseLocalOnly (l : LocalScoreResult) : FusedResult :=
  ⟨l.score,l.category,l.contributors,"local",l.source⟩

/-- The model can only raise the score; it takes over the contributors when it
    clears the local score by the margin. -/
def fuseCandidate (round : ℚ → Score) (l : LocalScoreResult) (model : ModelCandidateResponse) :
    FusedResult :=
  let effective := Score.mul round model.score model.confidence
  let score := if l.score.lt effective then effective else l.score
  if (Score.add round l.score (.value categoryEscalationMargin)).le effective then
    ⟨score,model.categoryHint,model.contributors.map (fun c => ⟨c.feature,"",c.score⟩),"model","model"⟩
  else ⟨score,l.category,l.contributors,"local",l.source⟩

def fuse (round : ℚ → Score) (l : LocalScoreResult) : Option ModelCandidateResponse → FusedResult
  | none => fuseLocalOnly l
  | some model => fuseCandidate round l model

def beforeWarning : ℚ := 7205759403792793 / 9007199254740992
def beforeCritical : ℚ := 8556839292003941 / 9007199254740992

def Feature.allowsWarning (f : Feature) (current : List (String × Score)) : Bool :=
  if f.warning = some false then false
  else if (f.warningMinValue.any fun floor =>
      (current.lookup f.name).all fun value => value.lt floor) then false
  else f.warningRequireAny.isEmpty || f.warningRequireAny.any fun requirement =>
    (current.lookup requirement.feature).any fun value => requirement.minValue.le value

def Contributor.strong (c : Contributor) : Bool := !c.score.below warningThreshold

section
variable (p : DetectorProfile) (current : List (String × Score))

def DetectorProfile.warns (c : Contributor) : Bool :=
  c.strong && (p.feature c.feature).all (fun f => f.allowsWarning current)

def DetectorProfile.escalates (c : Contributor) : Bool :=
  c.strong && (p.feature c.feature).all fun f =>
    f.critical.getD true && f.allowsWarning current && f.criticalMinValue.all fun floor =>
      (current.lookup c.feature).any fun value => !value.lt floor

end

def DetectorProfile.criticalScore (p : DetectorProfile) (current : List (String × Score))
    (score : Score) : Bool → List Contributor → Score
  | blocked, [] => if blocked then .value beforeCritical else score
  | blocked, c :: rest =>
    if !c.strong then p.criticalScore current score blocked rest
    else if p.escalates current c then score
    else p.criticalScore current score true rest

def DetectorProfile.lifecycleScore (p : DetectorProfile) (current : List (String × Score))
    (fused : FusedResult) : Score :=
  if fused.score.atLeast warningThreshold && !fused.contributors.any (p.warns current) then
    .value beforeWarning
  else if fused.score.below criticalThreshold then fused.score
  else p.criticalScore current fused.score false fused.contributors

inductive AlertLevel where
  | below | warning | critical
  deriving DecidableEq, Repr

def Score.level (s : Score) : AlertLevel :=
  if s.atLeast criticalThreshold then .critical
  else if s.atLeast warningThreshold then .warning else .below

end Pilot.Detection

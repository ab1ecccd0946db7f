import Pilot.Library.Dict
import Pilot.Detection.Scoring

/-!
The log detector (`internal/detection/log_detector.go`): the normalized lines of a
host in the current and in the reference window become counts per template, and the
templates and the error rate become contributors. Go iterates over a map in an order
of its own choice, so every such loop asks an oracle for it. The same oracle settles
ties where `sort.Slice`, which is not stable, compares scores only.
-/
namespace Pilot.Detection

inductive Loop where
  | grouped (feature : Nat)
  | hosts
  | evict (host : String)
  | history (host feature : String)
  | baseline (host : String)
  | cohort (host : String)
  | trigger (host : String)
  | templates (host : String)
  | ties (host : String)
  | observe (host : String)
  | prune (host : String)
  deriving DecidableEq

structure Order where
  pick : {α : Type} → Loop → List α → List α
  perm : ∀ {α : Type} (loop : Loop) (entries : List α), (pick loop entries).Perm entries

def logMaxSamplesPerTemplate : Nat := 3
def logBurstMinCurrentCount : Nat := 5
def logBurstMultiplier : ℚ := 5
def logRareBaselineMax : Nat := 2
def logErrorRateSpikeMultiplier : ℚ := 3
def logErrorRateMinCurrentCount : Nat := 5

/-- 0.05, 0.1 and 0.4 rounded to the nearest float64. -/
def twentieth : ℚ := 3602879701896397 / 72057594037927936
def tenth : ℚ := 3602879701896397 / 36028797018963968
def fourTenths : ℚ := 3602879701896397 / 9007199254740992

def logErrorRateMinRate : ℚ := tenth

def knownCriticalPatterns : List String :=
  ["(?i)out of memory", "(?i)kernel panic", "(?i)segfault", "(?i)\\bI/O error\\b",
    "(?i)(uncorrectable.*ECC|ECC.*uncorrectable)",
    "(?i)(read-only file ?system|filesystem.*read.?only)"]

/-- The text functions of the standard library: a pattern against a line, and the
    trimmed text in lower case. -/
structure LogText where
  matchString : String → String → Bool
  lowerTrimmed : String → String

structure LogEntry where
  (severity message templateID : String)

structure LogTemplateBucket where
  count : Nat
  samples : List String

structure LogWindowSummary where
  (totalCount errorCount : Nat)
  templates : Dict String LogTemplateBucket

section
variable (T : LogText)

def matchesKnownCriticalPattern (line : String) : Bool :=
  knownCriticalPatterns.any (T.matchString · line)

def isErrorSeverity (severity : String) : Bool :=
  ["error","err","critical","crit","fatal","emerg","emergency","alert"].contains
    (T.lowerTrimmed severity)

def LogTemplateBucket.add (b : LogTemplateBucket) (message : String) : LogTemplateBucket where
  count := b.count + 1
  samples := if b.samples.length < logMaxSamplesPerTemplate then b.samples ++ [message] else b.samples

def summarizeLogWindow (entries : List LogEntry) : LogWindowSummary :=
  entries.foldl (fun w e =>
    { totalCount := w.totalCount + 1
      errorCount := if isErrorSeverity T e.severity then w.errorCount + 1 else w.errorCount
      templates := w.templates.set e.templateID
        (((w.templates.get? e.templateID).getD ⟨0,[]⟩).add e.message) }) ⟨0,0,.empty⟩

end

def capScore (s : Score) : Score :=
  if (Score.value 1).lt s then .value 1 else if s.lt (.value 0) then .value 0 else s

/-- The identifiers are hexadecimal digests, so their characters are their bytes. -/
def shortTemplateID (id : String) : String := String.ofList (id.toList.take 12)

section
variable (round : ℚ → Score)

/-- `base + slope * x`, rounded after each operation. -/
def rising (base slope : ℚ) (x : Score) : Score :=
  capScore (Score.add round (.value base) (Score.mul round (.value slope) x))

def scoreLogTemplate (currentCount baselineCount : Nat) (scale : Score) : Score × String :=
  if baselineCount = 0 ∧ 1 ≤ currentCount then
    (rising round (1 / 2) tenth (round (currentCount - 1)),"new_template")
  else if baselineCount ≤ logRareBaselineMax ∧ baselineCount < currentCount then
    (rising round fourTenths tenth (round (currentCount - baselineCount)),"rare_template")
  else
    let expectedRate := Score.mul round (round baselineCount) scale
    let floor := if (Score.value logBurstMinCurrentCount).lt expectedRate then expectedRate
      else .value logBurstMinCurrentCount
    if (Score.mul round floor (.value logBurstMultiplier)).le (round currentCount) ∧
        logBurstMinCurrentCount ≤ currentCount then
      (rising round (1 / 2) twentieth (Score.div round (round currentCount) floor),"burst")
    else (.value 0,"")

def scoreErrorRate (current baseline : LogWindowSummary) : Option Score :=
  let rate (w : LogWindowSummary) := Score.div round (round w.errorCount) (round w.totalCount)
  let baselineRate := if 0 < baseline.totalCount then rate baseline else .value 0
  if current.totalCount < logErrorRateMinCurrentCount then none
  else if (rate current).lt (.value logErrorRateMinRate) then none
  else if (rate current).le (Score.mul round baselineRate (.value logErrorRateSpikeMultiplier)) then none
  else some (capScore (Score.add round (.value fourTenths) (rate current)))

/-- What the detector reads of one host. -/
structure HostLogs where
  (current baseline : LogWindowSummary)
  scale : Score

def HostLogs.template (logs : HostLogs) (entry : String × LogTemplateBucket) : Option Contributor :=
  let baselineCount := ((logs.baseline.templates.get? entry.1).map LogTemplateBucket.count).getD 0
  let (score,category) := scoreLogTemplate round entry.2.count baselineCount logs.scale
  if score.le (.value 0) then none else some ⟨"log:" ++ shortTemplateID entry.1,category,score⟩

def HostLogs.errorRate (logs : HostLogs) : Option Contributor :=
  (scoreErrorRate round logs.current logs.baseline).map (⟨"log:error_rate","error_rate",·⟩)

/-- The contributors of the templates in the order of the loop, and the error rate. -/
def HostLogs.contributors (logs : HostLogs) (templates : List (String × LogTemplateBucket)) :
    List Contributor :=
  templates.filterMap (logs.template round) ++ (logs.errorRate round).toList

def Contributor.outscores (a b : Contributor) : Bool := b.score.sortLE a.score

/-- The best score so far and its category, from zero and no category. -/
def leading (contributors : List Contributor) : Score × String :=
  contributors.foldl (fun best c => if best.1.lt c.score then (c.score,c.category) else best)
    (.value 0,"")

variable (T : LogText) (keep : List Contributor → List Contributor) (order : Order) (host : String)
  (logs : HostLogs)

def triggers (entry : String × LogTemplateBucket) : Bool :=
  entry.2.samples.any (matchesKnownCriticalPattern T)

def HostLogs.ranked : List Contributor :=
  (order.pick (.ties host) (logs.contributors round
    (order.pick (.templates host) logs.current.templates.entries))).insertionSort
      (fun a b => a.outscores b)

def computeLogHostScore : HostFeatureScoreResult :=
  if logs.current.totalCount = 0 then .invalid
  else match (order.pick (.trigger host) logs.current.templates.entries).find? (triggers T) with
    | some entry =>
      ⟨true,.value 1,[⟨"log:" ++ shortTemplateID entry.1,"known_critical_pattern",.value 1⟩],
        "known_critical_pattern"⟩
    | none =>
      let best := leading (logs.contributors round
        (order.pick (.templates host) logs.current.templates.entries))
      ⟨true,best.1,keep (logs.ranked round order host),best.2⟩

end
end Pilot.Detection

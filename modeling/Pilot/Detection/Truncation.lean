import Mathlib.Data.List.Count
import Pilot.Library.Fold
import Pilot.Detection.LogDetector

/-!
The report of a detector keeps its first five positive contributors, and the
same list later decides whether the score may open a warning or a critical
episode. Here the level a host reaches is compared with the level it would
reach if all positive contributors were kept, and with what its contributors
are authorized for.
-/
namespace Pilot.Detection
open List Score Contributor DetectorProfile

section
variable {a b c : Score}

theorem Score.sortLE_total (a b : Score) : a.sortLE b = true ∨ b.sortLE a = true := by
  cases a <;> cases b <;> simp [sortLE,le_total]

theorem Score.sortLE_trans (first : a.sortLE b = true) (second : b.sortLE c = true) :
    a.sortLE c = true := by
  cases a <;> cases b <;> cases c <;> simp_all [sortLE]
  exact first.trans second

theorem Score.sortLE_antisymm (first : a.sortLE b = true) (second : b.sortLE a = true) : a = b := by
  cases a <;> cases b <;> simp_all [sortLE]
  exact le_antisymm first second

end

theorem Contributor.before_total (a b : Contributor) : a.before b = true ∨ b.before a = true := by
  unfold before
  by_cases same : a.score = b.score
  · rw [if_pos same,if_pos same.symm]
    simpa using le_total a.feature b.feature
  · rw [if_neg same,if_neg (Ne.symm same)]
    exact sortLE_total _ _

theorem Contributor.score_of_before {a b : Contributor} (before : a.before b = true) :
    b.score.sortLE a.score = true := by
  unfold Contributor.before at before
  split at before
  · rename_i same
    rw [same]
    exact (sortLE_total b.score b.score).elim id id
  · exact before

theorem Contributor.before_trans {a b c : Contributor} (first : a.before b = true)
    (second : b.before c = true) : a.before c = true := by
  have low := score_of_before first
  have high := score_of_before second
  by_cases same : a.score = c.score
  · -- equal ends force equal scores all along, so the names decide
    rw [← same] at high
    have left : a.score = b.score := sortLE_antisymm high low
    have right : b.score = c.score := left.symm.trans same
    unfold before at first second ⊢
    rw [if_pos left,decide_eq_true_eq] at first
    rw [if_pos right,decide_eq_true_eq] at second
    rw [if_pos same,decide_eq_true_eq]
    exact first.trans second
  · unfold before
    rw [if_neg same]
    exact sortLE_trans high low

instance : Std.Total (fun a b : Contributor => a.before b = true) := ⟨before_total⟩

instance : IsTrans Contributor (fun a b => a.before b = true) :=
  ⟨fun _ _ _ => before_trans⟩

variable {s : Score} {scored : List Contributor}

section
variable {p : DetectorProfile} {current : List (String × Score)} {fused : FusedResult}

theorem warns_of_escalates (escalates : p.escalates current c = true) : p.warns current c = true := by
  unfold DetectorProfile.escalates at escalates
  unfold warns
  rw [Bool.and_eq_true] at escalates ⊢
  refine ⟨escalates.1,?_⟩
  cases found : p.feature c.feature with
  | none => rfl
  | some f =>
    have gates := escalates.2
    rw [found,Option.all_some,Bool.and_eq_true,Bool.and_eq_true] at gates
    exact gates.1.2

theorem criticalScore_eq (score : Score) (blocked : Bool) (contributors : List Contributor) :
    p.criticalScore current score blocked contributors =
      if contributors.any (p.escalates current) then score
      else if blocked || contributors.any strong then .value beforeCritical else score := by
  induction contributors generalizing blocked with
  | nil => simp [criticalScore]
  | cons c rest ih =>
    rw [criticalScore,any_cons,any_cons,ih,ih]
    by_cases strong : c.strong = true
    · by_cases escalates : p.escalates current c = true
      · simp [strong,escalates]
      · simp [strong,escalates]
    · have weak : p.escalates current c = false := by simp [escalates,strong]
      simp [strong,weak]

theorem threshold_levels : (value beforeWarning).level = .below ∧
    (value beforeCritical).level = .warning := by decide +kernel

theorem below_of_not_atLeast (number : s ≠ .nan) (low : s.atLeast t = false) : s.below t = true := by
  cases s with
  | nan => exact absurd rfl number
  | negInf => rfl
  | posInf => cases low
  | value q => simpa [atLeast,below] using low

theorem not_below_of_atLeast (high : s.atLeast t = true) : s.below t = false := by
  cases s with
  | nan => rfl
  | negInf => cases high
  | posInf => rfl
  | value q => simpa [atLeast,below] using high

theorem atLeast_warning_of_critical (high : s.atLeast criticalThreshold = true) :
    s.atLeast warningThreshold = true := by
  cases s with
  | nan => cases high
  | negInf => cases high
  | posInf => rfl
  | value q =>
    have order : warningThreshold ≤ criticalThreshold := by decide +kernel
    simp only [atLeast,decide_eq_true_eq] at high ⊢
    exact order.trans high

theorem level_lifecycleScore (number : fused.score ≠ .nan) :
    (p.lifecycleScore current fused).level =
      if fused.score.atLeast warningThreshold && fused.contributors.any (p.warns current) then
        if fused.score.atLeast criticalThreshold && fused.contributors.any (p.escalates current) then
          .critical
        else .warning
      else .below := by
  unfold lifecycleScore
  cases warm : fused.score.atLeast warningThreshold with
  | false =>
    have cool : fused.score.atLeast criticalThreshold = false := by
      by_contra hot
      rw [atLeast_warning_of_critical (by simpa using hot)] at warm
      cases warm
    simp [below_of_not_atLeast number cool,level,cool,warm]
  | true =>
    cases authorized : fused.contributors.any (p.warns current) with
    | false => simp [threshold_levels.1]
    | true =>
      cases hot : fused.score.atLeast criticalThreshold with
      | false => simp [below_of_not_atLeast number hot,level,hot,warm]
      | true =>
        have strong : fused.contributors.any strong = true := by
          obtain ⟨c,mem,warns⟩ := any_eq_true.mp authorized
          refine any_eq_true.mpr ⟨c,mem,?_⟩
          exact (Bool.and_eq_true _ _ ▸ warns).1
        rw [not_below_of_atLeast hot,criticalScore_eq,strong]
        cases escalated : fused.contributors.any (p.escalates current) with
        | true => simp [level,hot]
        | false => simp [threshold_levels.2]

end

theorem maxScore_number (scored : List Contributor) : maxScore scored ≠ .nan := by
  refine Fold.foldl_invariant (I := fun best => best ≠ nan) (by simp) ?_
  intro best c _ number
  split
  · rename_i less
    rintro same
    rw [same] at less
    simp [lt] at less
  · exact number

theorem maxScore_concat (scored : List Contributor) (c : Contributor) :
    maxScore (scored ++ [c]) = if (maxScore scored).lt c.score then c.score else maxScore scored := by
  rw [maxScore,foldl_append]
  rfl

theorem le_of_not_lt {best s : Score} (number : best ≠ .nan) (low : best.lt s = false) :
    s.sortLE best = true := by
  by_cases nan : s = .nan
  · rw [nan,sortLE]
  · simpa [lt,number,nan] using low

theorem le_of_lt {best s : Score} (high : best.lt s = true) : best.sortLE s = true := by
  simp only [lt,Bool.and_eq_true,Bool.not_eq_true'] at high
  exact (sortLE_total best s).resolve_right (by simp [high.2])

theorem positive_of_lt {best : Score} (start : (value 0).sortLE best = true) (high : best.lt s = true) :
    (value 0).lt s = true := by
  cases best <;> cases s <;> simp_all [sortLE,lt]
  exact start.trans_lt high

theorem atLeast_of_sortLE {best : Score} (order : s.sortLE best = true) (high : s.atLeast t = true) :
    best.atLeast t = true := by
  cases s <;> cases best <;> simp_all [sortLE,atLeast]
  exact high.trans order

theorem maxScore_upper (scored : List Contributor) :
    (value 0).sortLE (maxScore scored) = true ∧ ∀ c ∈ scored, c.score.sortLE (maxScore scored) = true := by
  induction scored using reverseRecOn with
  | nil => simp [maxScore,sortLE]
  | append_singleton scored last ih =>
    obtain ⟨zero,bound⟩ := ih
    rw [maxScore_concat]
    by_cases high : (maxScore scored).lt last.score = true
    · rw [if_pos high]
      have step := le_of_lt high
      refine ⟨sortLE_trans zero step,?_⟩
      rw [forall_mem_append,forall_mem_singleton]
      exact ⟨fun c earlier => sortLE_trans (bound c earlier) step,(sortLE_total _ _).elim id id⟩
    · rw [if_neg high]
      refine ⟨zero,?_⟩
      rw [forall_mem_append,forall_mem_singleton]
      exact ⟨bound,le_of_not_lt (maxScore_number scored) (by simpa using high)⟩

theorem maxScore_attained (scored : List Contributor) :
    maxScore scored = .value 0 ∨ ∃ c ∈ scored, c.score = maxScore scored := by
  induction scored using reverseRecOn with
  | nil => exact .inl rfl
  | append_singleton scored last ih =>
    rw [maxScore_concat]
    by_cases high : (maxScore scored).lt last.score = true
    · exact .inr ⟨last,by simp,by rw [if_pos high]⟩
    rw [if_neg high]
    rcases ih with zero | ⟨c,mem,same⟩
    · exact .inl zero
    · exact .inr ⟨c,mem_append_left _ mem,same⟩

theorem maxScore_le (inside : scored ⊆ other) : (maxScore scored).sortLE (maxScore other) = true := by
  obtain ⟨zero,bound⟩ := maxScore_upper other
  rcases maxScore_attained scored with same | ⟨c,mem,same⟩
  · rwa [same]
  · rw [← same]
    exact bound c (inside mem)

theorem maxScore_perm (perm : scored.Perm other) : maxScore scored = maxScore other :=
  sortLE_antisymm (maxScore_le perm.subset) (maxScore_le perm.symm.subset)

theorem maxScore_positives (scored : List Contributor) :
    maxScore (positiveContributors scored) = maxScore scored := by
  refine (maxScore_perm (perm_insertionSort _ _)).trans ?_
  induction scored using reverseRecOn with
  | nil => rfl
  | append_singleton scored c ih =>
    rw [filter_append,maxScore_concat,← ih]
    by_cases positive : (value 0).lt c.score = true
    · simp only [filter_cons,positive,if_true,filter_nil,maxScore_concat]
    · have low : ¬(maxScore (scored.filter fun c => (value 0).lt c.score)).lt c.score = true :=
        fun high => positive (positive_of_lt (maxScore_upper _).1 high)
      simp [positive,low]

theorem leading_score (contributors : List Contributor) :
    (leading contributors).1 = maxScore contributors := by
  refine (foldl_hom Prod.fst ?_).symm
  intro best c
  split <;> rfl

theorem maxScore_atLeast (positive : 0 < t) (contributors : List Contributor) :
    (maxScore contributors).atLeast t = contributors.any (·.score.atLeast t) := by
  rw [Bool.eq_iff_iff,any_eq_true]
  constructor
  · intro high
    rcases maxScore_attained contributors with zero | ⟨c,mem,same⟩
    · rw [zero] at high
      exact absurd (of_decide_eq_true high) (not_le.mpr positive)
    · exact ⟨c,mem,same ▸ high⟩
  · rintro ⟨c,mem,high⟩
    exact atLeast_of_sortLE ((maxScore_upper contributors).2 c mem) high

/-- What a report shows of a detector's contributors. -/
def HostFeatureScoreResult.cut (r : HostFeatureScoreResult) : HostFeatureScoreResult :=
  { r with contributors := r.contributors.take 5 }

def FusedResult.cut (fused : FusedResult) : FusedResult :=
  { fused with contributors := fused.contributors.take 5 }

theorem aggregate_cut (scored : List Contributor) :
    aggregateWith (take 5) scored = (aggregateWith id scored).cut := by
  unfold aggregateWith
  split
  · rfl
  · rfl

theorem log_cut (round : ℚ → Score) (T : LogText) (order : Order) (host : String) (logs : HostLogs) :
    computeLogHostScore round T (take 5) order host logs =
      (computeLogHostScore round T id order host logs).cut := by
  unfold computeLogHostScore
  split
  · rfl
  · split
    · rfl
    · rfl

theorem betterCandidate_cut (best : Option (HostFeatureScoreResult × String))
    (c : HostFeatureScoreResult) (source : String) :
    betterCandidate (best.map (Prod.map .cut id)) (c.cut,source) =
      (betterCandidate best (c,source)).map (Prod.map .cut id) := by
  cases best with
  | none => cases valid : c.valid <;> simp [betterCandidate,HostFeatureScoreResult.cut,valid]
  | some best =>
    cases valid : c.valid with
    | false => simp [betterCandidate,HostFeatureScoreResult.cut,valid]
    | true =>
      cases higher : best.1.score.lt c.score <;>
        simp [betterCandidate,HostFeatureScoreResult.cut,valid,higher]

theorem computeLocalScore_cut (baseline cohort log : HostFeatureScoreResult) :
    computeLocalScore baseline.cut cohort.cut log.cut =
      { computeLocalScore baseline cohort log with
        contributors := (computeLocalScore baseline cohort log).contributors.take 5 } := by
  have lead : [(baseline.cut,"baseline"),(cohort.cut,"cohort"),(log.cut,"log")].foldl betterCandidate none =
      ([(baseline,"baseline"),(cohort,"cohort"),(log,"log")].foldl betterCandidate none).map
        (Prod.map .cut id) := by
    simp only [foldl_cons,foldl_nil]
    rw [← betterCandidate_cut,← betterCandidate_cut,← betterCandidate_cut]
    rfl
  unfold computeLocalScore
  rw [lead]
  cases [(baseline,"baseline"),(cohort,"cohort"),(log,"log")].foldl betterCandidate none <;> rfl

section
variable (round : ℚ → Score) (p : DetectorProfile) (history : String → List Score)
  (subject : HostCycleSnapshot) (peers : List HostCycleSnapshot) (T : LogText) (order : Order)
  (logs : HostLogs) (model : Option ModelCandidateResponse)

/-- The fused result of a host when the detectors report what `keep` leaves of
    their positive contributors. -/
def fusedKeeping (keep : List Contributor → List Contributor) : FusedResult :=
  fuse round (computeLocalScore (computeBaselineHostScore keep round p history subject.current)
    (computeCohortHostScore keep round p subject subject.current peers)
    (computeLogHostScore round T keep order subject.host logs)) model

def baselineReadings : List Contributor :=
  scoreReadings p
    (fun feature value => computeRobustBaseline round feature (history feature.name) value)
    subject.current

def cohortReadings : List Contributor :=
  scoreReadings p (fun feature value =>
    if feature.cohort then
      computeCohortDistance round feature (cohortPeerValues subject peers feature.name) value
    else none) subject.current

/-- The contributors of the log lines: the first template with a critical line alone,
    or else all that score. -/
def logRanking : List Contributor :=
  match (order.pick (.trigger subject.host) logs.current.templates.entries).find? (triggers T) with
  | some entry => [⟨"log:" ++ shortTemplateID entry.1,"known_critical_pattern",.value 1⟩]
  | none => logs.ranked round order subject.host

/-- The ranked contributors of the detectors that are ready. -/
def rankings : List (List Contributor) :=
  (if baselineReadings round p history subject = [] then []
    else [positiveContributors (baselineReadings round p history subject)]) ++
  (if cohortReadings round p subject peers = [] then []
    else [positiveContributors (cohortReadings round p subject peers)]) ++
  (if logs.current.totalCount = 0 then [] else [logRanking round subject T order logs])

/-- The ranking with the highest score, the first of equals. -/
def highest : List (List Contributor) → List Contributor
  | [] => []
  | first :: rest =>
    rest.foldl (fun best r => if (maxScore best).lt (maxScore r) then r else best) first

/-- Some contributor after the first five authorizes, and none of the five does. -/
def overlooked (authorizes : Contributor → Bool) (ranked : List Contributor) : Bool :=
  (ranked.drop 5).any authorizes && !(ranked.take 5).any authorizes

def ModelCandidateResponse.effective (model : ModelCandidateResponse) : Score :=
  Score.mul round model.score model.confidence

/-- The model replaces the contributors of the detectors by its own. -/
def replaced (ranked : List Contributor) : Bool :=
  model.any fun model =>
    (Score.add round (maxScore ranked) (.value categoryEscalationMargin)).le (model.effective round)

/-- A contributor, or the model, reaches the threshold. -/
def reaches (threshold : ℚ) (ranked : List Contributor) : Bool :=
  ranked.any (·.score.atLeast threshold) || model.any (·.effective round |>.atLeast threshold)

/-- A ready detector scores as its highest contributor. -/
def HostFeatureScoreResult.Ranked (r : HostFeatureScoreResult) : Prop :=
  r.valid = true → r.score = maxScore r.contributors

def HostFeatureScoreResult.ranking (r : HostFeatureScoreResult) : List (List Contributor) :=
  if r.valid then [r.contributors] else []

theorem highest_concat (rankings : List (List Contributor)) (r : List Contributor) :
    highest (rankings ++ [r]) =
      if rankings = [] ∨ (maxScore (highest rankings)).lt (maxScore r) then r else highest rankings := by
  cases rankings with
  | nil => rfl
  | cons first rest => simp [highest,foldl_append]

theorem foldl_betterCandidate (detectors : List (HostFeatureScoreResult × String))
    (ranked : ∀ d ∈ detectors, d.1.Ranked) :
    match detectors.foldl betterCandidate none with
    | none => detectors.flatMap (·.1.ranking) = []
    | some best => detectors.flatMap (·.1.ranking) ≠ [] ∧
        best.1.contributors = highest (detectors.flatMap (·.1.ranking)) ∧
        best.1.score = maxScore best.1.contributors := by
  induction detectors using reverseRecOn with
  | nil => rfl
  | append_singleton detectors d ih =>
    have ih := ih fun d mem => ranked d (mem_append_left _ mem)
    have last := ranked d (by simp)
    rw [foldl_append,flatMap_append,flatMap_singleton]
    generalize detectors.foldl betterCandidate none = best at ih ⊢
    cases valid : d.1.valid with
    | false => simpa [betterCandidate,HostFeatureScoreResult.ranking,valid] using ih
    | true =>
      have score := last valid
      have own : d.1.ranking = [d.1.contributors] := by simp [HostFeatureScoreResult.ranking,valid]
      rw [own,highest_concat]
      cases best with
      | none => simpa [betterCandidate,valid,show detectors.flatMap (·.1.ranking) = [] from ih] using score
      | some best =>
        obtain ⟨some,contributors,top⟩ := ih
        rw [← contributors,← top,← score]
        cases higher : best.1.score.lt d.1.score <;> simp_all [betterCandidate]

theorem computeLocalScore_highest {baseline cohort log : HostFeatureScoreResult}
    (first : baseline.Ranked) (second : cohort.Ranked) (third : log.Ranked) :
    let ranked := highest (baseline.ranking ++ cohort.ranking ++ log.ranking)
    (computeLocalScore baseline cohort log).contributors = ranked ∧
      (computeLocalScore baseline cohort log).score = maxScore ranked := by
  have lead := foldl_betterCandidate [(baseline,"baseline"),(cohort,"cohort"),(log,"log")]
    (by simp [first,second,third])
  simp only [flatMap_cons,flatMap_nil,append_nil] at lead
  rw [← append_assoc] at lead
  unfold computeLocalScore
  generalize [(baseline,"baseline"),(cohort,"cohort"),(log,"log")].foldl betterCandidate none = best
    at lead ⊢
  cases best with
  | none => simp [lead,highest,maxScore]
  | some best => exact ⟨lead.2.1,lead.2.1 ▸ lead.2.2⟩

theorem aggregate_ranked (scored : List Contributor) : (aggregateWith id scored).Ranked := by
  unfold aggregateWith
  split
  · rintro ⟨⟩
  · exact fun _ => (maxScore_positives scored).symm

theorem aggregate_ranking (scored : List Contributor) :
    (aggregateWith id scored).ranking = if scored = [] then [] else [positiveContributors scored] := by
  unfold aggregateWith
  split <;> rfl

theorem log_ranked : (computeLogHostScore round T id order subject.host logs).Ranked := by
  unfold computeLogHostScore
  split
  · rintro ⟨⟩
  split
  · exact fun _ => rfl
  · intro _
    refine (leading_score _).trans ?_
    exact maxScore_perm ((perm_insertionSort _ _).trans (order.perm _ _)).symm

theorem log_ranking : (computeLogHostScore round T id order subject.host logs).ranking =
    if logs.current.totalCount = 0 then [] else [logRanking round subject T order logs] := by
  unfold computeLogHostScore logRanking
  split
  · rfl
  · cases (order.pick (.trigger subject.host) logs.current.templates.entries).find? (triggers T) <;> rfl

theorem levels_eq_iff : ∀ keptWarns cutWarns keptEscalates cutEscalates warm hot : Bool,
    (hot = true → warm = true) → (keptEscalates = true → keptWarns = true) →
    (cutEscalates = true → cutWarns = true) →
    let level (warns escalates : Bool) : AlertLevel :=
      if warm && warns then if hot && escalates then .critical else .warning else .below
    (level keptWarns keptEscalates = level (keptWarns || cutWarns) (keptEscalates || cutEscalates) ↔
      (warm = true → (cutWarns && !keptWarns) = false) ∧
      (hot = true → (cutEscalates && !keptEscalates) = false)) := by
  decide

/-- Dropping the contributors after the fifth changes the level exactly when an
    authorization that the score needs is dropped. -/
theorem level_cut_iff {p : DetectorProfile} {fused : FusedResult} (number : fused.score ≠ .nan) :
    (p.lifecycleScore current fused.cut).level = (p.lifecycleScore current fused).level ↔
      (fused.score.atLeast warningThreshold = true →
        overlooked (p.warns current) fused.contributors = false) ∧
      (fused.score.atLeast criticalThreshold = true →
        overlooked (p.escalates current) fused.contributors = false) := by
  have split (authorizes : Contributor → Bool) : fused.contributors.any authorizes =
      ((fused.contributors.take 5).any authorizes || (fused.contributors.drop 5).any authorizes) := by
    rw [← any_append,take_append_drop]
  have warnsToo (contributors : List Contributor) : contributors.any (p.escalates current) = true →
      contributors.any (p.warns current) = true := by
    simp only [any_eq_true]
    rintro ⟨c,mem,escalates⟩
    exact ⟨c,mem,warns_of_escalates escalates⟩
  have hot := atLeast_warning_of_critical (s := fused.score)
  have first := warnsToo (fused.contributors.take 5)
  have later := warnsToo (fused.contributors.drop 5)
  rw [level_lifecycleScore number,level_lifecycleScore (show fused.cut.score ≠ .nan from number),
    split (p.warns current),split (p.escalates current)]
  exact levels_eq_iff _ _ _ _ _ _ hot first later

theorem local_highest :
    let l := computeLocalScore (computeBaselineHostScore id round p history subject.current)
      (computeCohortHostScore id round p subject subject.current peers)
      (computeLogHostScore round T id order subject.host logs)
    let ranked := highest (rankings round p history subject peers T order logs)
    l.contributors = ranked ∧ l.score = maxScore ranked := by
  have lead := computeLocalScore_highest (aggregate_ranked (baselineReadings round p history subject))
    (aggregate_ranked (cohortReadings round p subject peers)) (log_ranked round subject T order logs)
  rw [aggregate_ranking,aggregate_ranking,log_ranking] at lead
  exact lead

theorem fused_cut :
    fusedKeeping round p history subject peers T order logs model (take 5) =
      if replaced round model (highest (rankings round p history subject peers T order logs)) then
        fusedKeeping round p history subject peers T order logs model id
      else (fusedKeeping round p history subject peers T order logs model id).cut := by
  have lead := (local_highest round p history subject peers T order logs).2
  have kept := computeLocalScore_cut (computeBaselineHostScore id round p history subject.current)
    (computeCohortHostScore id round p subject subject.current peers)
    (computeLogHostScore round T id order subject.host logs)
  rw [← log_cut] at kept
  unfold fusedKeeping computeBaselineHostScore computeCohortHostScore at *
  rw [aggregate_cut,aggregate_cut,kept,replaced,← lead]
  generalize computeLocalScore _ _ _ = l
  cases model with
  | none => rfl
  | some model =>
    simp only [fuse,fuseCandidate,Option.any_some,ModelCandidateResponse.effective]
    split <;> rfl

theorem fuse_score (l : LocalScoreResult) (model : ModelCandidateResponse) :
    (fuse round l (some model)).score =
      if l.score.lt (model.effective round) then model.effective round else l.score := by
  simp only [fuse,fuseCandidate]
  split <;> rfl

theorem atLeast_fused {l : LocalScoreResult} (number : l.score ≠ .nan) :
    (fuse round l model).score.atLeast t =
      (l.score.atLeast t || model.any (·.effective round |>.atLeast t)) := by
  cases model with
  | none => simp [fuse,fuseLocalOnly]
  | some model =>
    rw [fuse_score,Option.any_some,Bool.eq_iff_iff,Bool.or_eq_true]
    split
    · rename_i less
      exact ⟨.inr,fun either => either.elim (atLeast_of_sortLE (le_of_lt less)) id⟩
    · rename_i notLess
      refine ⟨.inl,fun either => either.elim id ?_⟩
      exact atLeast_of_sortLE (le_of_not_lt number (by simpa using notLess))

theorem number_fused {l : LocalScoreResult} (number : l.score ≠ .nan) :
    (fuse round l model).score ≠ .nan := by
  cases model with
  | none => exact number
  | some model =>
    rw [fuse_score]
    split
    · rename_i less
      intro nan
      simp [nan,lt] at less
    · exact number

theorem fuse_contributors {l : LocalScoreResult} {ranked : List Contributor}
    (contributors : l.contributors = ranked) (score : l.score = maxScore ranked)
    (own : replaced round model ranked = false) : (fuse round l model).contributors = ranked := by
  cases model with
  | none => exact contributors
  | some model =>
    rw [replaced,Option.any_some,← score] at own
    simp only [fuse,fuseCandidate]
    rw [if_neg (by simpa [ModelCandidateResponse.effective] using own)]
    exact contributors

/-- The level of a host is the level of all its positive contributors exactly when
    the model replaces them, or no authorization that the score needs stands only
    after the fifth contributor of the highest detector. -/
theorem truncation_keeps_level_iff :
    let ranked := highest (rankings round p history subject peers T order logs)
    (p.lifecycleScore subject.current
        (fusedKeeping round p history subject peers T order logs model (take 5))).level =
      (p.lifecycleScore subject.current
        (fusedKeeping round p history subject peers T order logs model id)).level ↔
      replaced round model ranked = true ∨
      (reaches round model warningThreshold ranked = true →
        overlooked (p.warns subject.current) ranked = false) ∧
      (reaches round model criticalThreshold ranked = true →
        overlooked (p.escalates subject.current) ranked = false) := by
  obtain ⟨contributors,score⟩ := local_highest round p history subject peers T order logs
  dsimp only
  rw [fused_cut]
  generalize highest (rankings round p history subject peers T order logs) = ranked at contributors score ⊢
  cases taken : replaced round model ranked with
  | true => simp
  | false =>
    have number := score ▸ maxScore_number ranked
    have reached (t : ℚ) (positive : 0 < t) : (fusedKeeping round p history subject peers T order logs
        model id).score.atLeast t = reaches round model t ranked := by
      rw [fusedKeeping,atLeast_fused round model number,score,maxScore_atLeast positive]
      rfl
    have own : (fusedKeeping round p history subject peers T order logs model id).contributors = ranked :=
      fuse_contributors round model contributors score taken
    have fused : (fusedKeeping round p history subject peers T order logs model id).score ≠ .nan :=
      number_fused round model number
    rw [if_neg Bool.false_ne_true,level_cut_iff fused,reached warningThreshold (by decide +kernel),
      reached criticalThreshold (by decide +kernel),own]
    simp

end

def sixthFeature (name : String) (warning : Option Bool) : Feature where
  name := name
  required := true
  category := "cpu"
  scaleFloor := .value 1
  cohort := false
  warning := warning
  warningMinValue := none
  warningRequireAny := []
  critical := none
  criticalMinValue := none
  validMin := .value 0
  validMax := .value 100
  promQL := name

def profileOf (features : List Feature) : DetectorProfile where
  id := "linux-host"
  version := 1
  identityKind := ""
  lifecycle := ⟨0,0,0,0⟩
  notify := ⟨"","","",""⟩
  notifyByCategory := []
  identityLabel := ""
  siteLabel := ""
  cohortLabel := ""
  maxSampleAge := ""
  futureSkewTolerance := ""
  features := features

def sixFeatures : DetectorProfile :=
  profileOf (["a","b","c","d","e"].map (sixthFeature · (some false)) ++ [sixthFeature "f" none])

def firstMayWarn : DetectorProfile :=
  profileOf (sixthFeature "a" none :: ["b","c","d","e","f"].map (sixthFeature · (some false)))

def sixReadings : HostCycleSnapshot :=
  ⟨"web","",["a","b","c","d","e","f"].map (fun name => (name, value 10))⟩

def asGiven : Order := ⟨fun _ entries => entries,fun _ entries => .refl entries⟩

def noText : LogText := ⟨fun _ _ => false,id⟩

def noLogs : HostLogs := ⟨summarizeLogWindow noText [],summarizeLogWindow noText [],.value 0⟩

/-- Six features at full score after two hours at zero: the five that are
    reported may not warn, the sixth may, and is cut off. -/
theorem sixth_contributor_is_cut_off :
    let fused := fusedKeeping value sixFeatures (fun _ => replicate 120 (.value 0))
      sixReadings [] noText asGiven noLogs none
    sixFeatures.validate (fun text => "\"" ++ text ++ "\"") (fun _ => .ok 0) = .ok () ∧
      (sixFeatures.lifecycleScore sixReadings.current (fused (take 5))).level = .below ∧
      (sixFeatures.lifecycleScore sixReadings.current (fused id)).level = .critical := by
  decide +kernel

/-- The same readings with the permission on the first feature, which is reported. -/
theorem first_contributor_is_reported :
    let fused := fusedKeeping value firstMayWarn (fun _ => replicate 120 (.value 0))
      sixReadings [] noText asGiven noLogs none
    (firstMayWarn.lifecycleScore sixReadings.current (fused (take 5))).level =
        (firstMayWarn.lifecycleScore sixReadings.current (fused id)).level ∧
      (firstMayWarn.lifecycleScore sixReadings.current (fused id)).level = .critical :=
  ⟨(truncation_keeps_level_iff ..).mpr (.inr ⟨fun _ => by decide +kernel,fun _ => by decide +kernel⟩),
    by decide +kernel⟩

section
variable (p : DetectorProfile) (current : List (String × Score))

def Reaches (name : String) (floor : Score) : Prop :=
  ∃ value, current.lookup name = some value ∧ floor.le value = true

structure MayWarn (f : Feature) : Prop where
  enabled : f.warning ≠ some false
  floor : ∀ floor ∈ f.warningMinValue, Reaches current f.name floor
  corroborated : f.warningRequireAny = [] ∨
    ∃ r ∈ f.warningRequireAny, Reaches current r.feature r.minValue

@[mk_iff]
structure MayEscalate (f : Feature) : Prop extends MayWarn current f where
  eligible : f.critical ≠ some false
  criticalFloor : ∀ floor ∈ f.criticalMinValue, Reaches current f.name floor

/-- A contributor at warning strength whose feature, if the profile has it,
    satisfies a condition. -/
def Authorized (may : Feature → Prop) (c : Contributor) : Prop :=
  c.score.atLeast warningThreshold = true ∧ ∀ f ∈ p.feature c.feature, may f

/-- What the score sent to the lifecycle is for. -/
structure AlertSpec (fused : FusedResult) : Prop where
  capped : fused.score.lt (p.lifecycleScore current fused) = false
  warning : (p.lifecycleScore current fused).atLeast warningThreshold = true ↔
    fused.score.atLeast warningThreshold = true ∧
      ∃ c ∈ fused.contributors, Authorized p (MayWarn current) c
  critical : (p.lifecycleScore current fused).atLeast criticalThreshold = true ↔
    fused.score.atLeast criticalThreshold = true ∧
      ∃ c ∈ fused.contributors, Authorized p (MayEscalate current) c

structure Numbers (fused : FusedResult) : Prop where
  score : fused.score ≠ .nan
  contributors : ∀ c ∈ fused.contributors, c.score ≠ .nan
  readings : ∀ name, current.lookup name ≠ some .nan
  floors : ∀ f ∈ p.features, f.warningMinValue ≠ some .nan ∧ f.criticalMinValue ≠ some .nan

end

section
variable {p : DetectorProfile} {current : List (String × Score)} {fused : FusedResult}

theorem floor_iff (reading : current.lookup name ≠ some .nan) (number : gate ≠ some .nan) :
    (gate.all fun floor => (current.lookup name).any fun value => !value.lt floor) = true ↔
      ∀ floor ∈ gate, Reaches current name floor := by
  unfold Reaches Score.le Score.lt
  cases gate <;> cases found : current.lookup name <;> simp_all

theorem authorized_iff (number : c.score ≠ .nan) :
    Authorized p may c ↔ c.strong = true ∧ ∀ f ∈ p.feature c.feature, may f := by
  unfold Authorized strong
  cases high : c.score.atLeast warningThreshold with
  | true => simp [not_below_of_atLeast high]
  | false => simp [below_of_not_atLeast number high]

theorem not_lt_of_atLeast (high : s.atLeast t = true) (less : q ≤ t) : s.lt (.value q) = false := by
  cases s with
  | nan | negInf => cases high
  | posInf => rfl
  | value r =>
    have above : t ≤ r := by simpa [atLeast] using high
    simpa [Score.lt,sortLE] using less.trans above

theorem not_lt_self (s : Score) : s.lt s = false := by
  cases s <;> simp [Score.lt,sortLE]

variable (numbers : Numbers p current fused)
include numbers

theorem allowsWarning_iff (listed : f ∈ p.features) :
    f.allowsWarning current = true ↔ MayWarn current f := by
  have own : (f.warningMinValue.any fun floor =>
      (current.lookup f.name).all fun value => value.lt floor) = false ↔
      ∀ floor ∈ f.warningMinValue, Reaches current f.name floor := by
    rw [← floor_iff (numbers.readings f.name) (numbers.floors f listed).1]
    cases f.warningMinValue <;> cases current.lookup f.name <;> simp
  have others : (f.warningRequireAny.isEmpty || f.warningRequireAny.any fun requirement =>
      (current.lookup requirement.feature).any fun value => requirement.minValue.le value) = true ↔
      f.warningRequireAny = [] ∨ ∃ r ∈ f.warningRequireAny, Reaches current r.feature r.minValue := by
    simp [Reaches,Option.any_eq_true]
  unfold Feature.allowsWarning
  constructor
  · intro allowed
    split_ifs at allowed with off low
    exact ⟨off,own.mp (by simpa using low),others.mp allowed⟩
  · rintro ⟨on,floor,corroborated⟩
    rw [if_neg on,own.mpr floor]
    exact others.mpr corroborated

theorem warns_iff (mem : c ∈ fused.contributors) :
    p.warns current c = true ↔ Authorized p (MayWarn current) c := by
  rw [authorized_iff (numbers.contributors c mem),warns,Bool.and_eq_true]
  cases found : p.feature c.feature with
  | none => simp
  | some f => simp [allowsWarning_iff numbers (mem_of_find?_eq_some found)]

theorem escalates_iff (mem : c ∈ fused.contributors) :
    p.escalates current c = true ↔ Authorized p (MayEscalate current) c := by
  rw [authorized_iff (numbers.contributors c mem),escalates,Bool.and_eq_true]
  cases found : p.feature c.feature with
  | none => simp
  | some f =>
    have listed := mem_of_find?_eq_some found
    have named : f.name = c.feature := by simpa using find?_some found
    have eligible : f.critical.getD true = true ↔ f.critical ≠ some false := by
      cases f.critical <;> simp
    rw [Option.all_some,← named,Bool.and_eq_true,Bool.and_eq_true,allowsWarning_iff numbers listed,
      eligible,floor_iff (numbers.readings f.name) (numbers.floors f listed).2]
    simp [mayEscalate_iff]
    grind

theorem lifecycleScore_capped : fused.score.lt (p.lifecycleScore current fused) = false := by
  unfold lifecycleScore
  split_ifs with blocked low
  · exact not_lt_of_atLeast (Bool.and_eq_true _ _ ▸ blocked).1 (by decide +kernel)
  · exact not_lt_self _
  · rw [criticalScore_eq]
    split_ifs
    · exact not_lt_self _
    · have high : fused.score.atLeast criticalThreshold = true := by
        by_contra cool
        exact low (below_of_not_atLeast numbers.score (by simpa using cool))
      exact not_lt_of_atLeast high (by decide +kernel)
    · exact not_lt_self _

end

theorem Score.level_iff (s : Score) :
    (s.atLeast warningThreshold = true ↔ s.level ≠ .below) ∧
      (s.atLeast criticalThreshold = true ↔ s.level = .critical) := by
  unfold level
  cases hot : s.atLeast criticalThreshold with
  | true => simp [atLeast_warning_of_critical hot]
  | false => cases s.atLeast warningThreshold <;> simp

/-- Where no score, reading or floor is NaN, the level sent to the lifecycle is
    the one that the contributors are authorized for. -/
theorem lifecycleScore_spec (p : DetectorProfile) (current : List (String × Score)) (fused : FusedResult)
    (numbers : Numbers p current fused) : AlertSpec p current fused := by
  have level : (p.lifecycleScore current fused).level = _ := level_lifecycleScore numbers.score
  have warns : fused.contributors.any (p.warns current) = true ↔ _ := any_eq_true.trans
    (exists_congr fun c => and_congr_right (warns_iff numbers))
  have escalates : fused.contributors.any (p.escalates current) = true ↔ _ := any_eq_true.trans
    (exists_congr fun c => and_congr_right (escalates_iff numbers))
  refine ⟨lifecycleScore_capped numbers,?_,?_⟩
  · rw [(level_iff _).1,level,← warns]
    grind
  · rw [(level_iff _).2,level,← escalates]
    grind [atLeast_warning_of_critical,warns_of_escalates]

def oneContributor (feature : String) : FusedResult :=
  ⟨.value 1,"cpu",[⟨feature,"",.value 1⟩],"local","local"⟩

def floored (floor : Score) : Feature :=
  { sixthFeature "a" none with
    warningMinValue := some floor, warningRequireAny := [⟨"b",.value 7⟩], criticalMinValue := some (.value 9) }

def gated (floor : Score) : DetectorProfile := profileOf [floored floor,sixthFeature "b" none]

def gatedReadings : List (String × Score) := [("a",.value 10),("b",.value 8)]

/-- A profile may set a floor that is NaN, and every reading meets it. -/
theorem nan_floor_warns :
    (gated .nan).validate (fun text => "\"" ++ text ++ "\"") (fun _ => .ok 0) = .ok () ∧
      ((gated .nan).lifecycleScore gatedReadings (oneContributor "a")).level = .critical ∧
      ¬AlertSpec (gated .nan) gatedReadings (oneContributor "a") := by
  refine ⟨by decide +kernel,by decide +kernel,?_⟩
  intro spec
  obtain ⟨-,c,mem,-,may⟩ := spec.warning.mp (by decide +kernel)
  rw [mem_singleton.mp mem] at may
  obtain ⟨value,-,high⟩ := (may (floored .nan) rfl).floor .nan rfl
  simp [Score.le] at high

/-- The floors of the feature and the reading that must corroborate it are met. -/
theorem gated_feature_alerts :
    ((gated (.value 5)).lifecycleScore gatedReadings (oneContributor "a")).level = .critical ∧
      AlertSpec (gated (.value 5)) gatedReadings (oneContributor "a") := by
  refine ⟨by decide +kernel,lifecycleScore_spec _ _ _ ⟨by simp [oneContributor],by simp [oneContributor],?_,?_⟩⟩
  · intro name
    simp only [gatedReadings,lookup_cons,lookup_nil]
    split <;> [skip; split] <;> simp
  · decide +kernel

end Pilot.Detection

import Mathlib.Data.List.Induction
import Pilot.Library.Fold
import Pilot.Roster.Value

/-!
`ClassifyDeploymentOutcome` of `internal/ansible/deployment_outcome.go`: the
result file is read line by line, the events are summed up per host, and a
non-zero exit is excused if no host failed and every unreachable host may be.
The last reason of a host is looked at and no other, and nothing asks for an
unreachable host. Decoding a line as JSON is a parameter.
-/
namespace Pilot.Deploy
open Roster List

export Go (Bytes bytesOf)

inductive TransportUnreachableReason where
  | connectionRefused | connectionTimeout | networkUnreachable | hostUnreachable | noRoute
  | connectionReset | connectionClosed | authenticationFailed | hostKeyVerificationFailed
  | identityFileError | permissionDenied | unsupportedConnection | unknown
  | other (text : String)
  deriving DecidableEq, Repr

def toleratedTransportReason : TransportUnreachableReason → Bool
  | .connectionRefused | .connectionTimeout | .networkUnreachable | .hostUnreachable | .noRoute
  | .connectionReset | .connectionClosed => true
  | _ => false

structure HostStats where
  (failures unreachable : Int)
  deriving DecidableEq, Repr

structure HostMap where
  entries : List (String × HostStats)
  distinct : (entries.map Prod.fst).Nodup
  deriving DecidableEq

inductive EventName where
  | stats | unreachable | other (text : String)
  deriving DecidableEq, Repr

structure ResultEvent where
  event : EventName
  host : String
  reason : TransportUnreachableReason
  hosts : Option HostMap
  deriving DecidableEq

structure DeploymentOutcome where
  rawExitCode : Int
  success : Bool
  deferredHosts : List String
  deriving DecidableEq, Repr

def maxLine : Nat := 4 * 1024 * 1024

def dropCR (line : Bytes) : Bytes := if line.getLast? = some 13 then line.dropLast else line

def scanLines (content : Bytes) : Option (List Bytes) :=
  let pieces := content.splitOn 10
  if pieces.any (fun p => maxLine ≤ p.length) then none else some (pieces.map dropCR)

variable (decode : Bytes → Except String ResultEvent)

def decodeLines (lines : List Bytes) : Except String (List ResultEvent) :=
  (lines.filter (fun line => line ≠ [])).mapM decode

def readResultEvents (path : String) (file : Option Bytes) : Option (List ResultEvent) :=
  if path = "" then none
  else
    match file with
    | none => none
    | some content =>
      match scanLines content with
      | none => none
      | some lines => (decodeLines decode lines).toOption

structure Summary where
  stats : Option HostMap
  statsSeen : Nat
  reasons : String → Option TransportUnreachableReason

def summarizeEvent (acc : Summary) (ev : ResultEvent) : Summary :=
  match ev.event with
  | .stats => { acc with statsSeen := acc.statsSeen + 1, stats := ev.hosts }
  | .unreachable =>
    if ev.host ≠ "" then { acc with reasons := Function.update acc.reasons ev.host (some ev.reason) }
    else acc
  | .other _ => acc

def summarize (events : List ResultEvent) : Summary :=
  events.foldl summarizeEvent ⟨none,0,fun _ => none⟩

def summarizeResultEvents (events : List ResultEvent) :
    Option (HostMap × (String → Option TransportUnreachableReason)) :=
  let sums := summarize events
  if sums.statsSeen ≠ 1 then none else sums.stats.map fun hosts => (hosts,sums.reasons)

/-- The loop over the hosts: the deferred ones, or nothing at the first host
    that is not excused. -/
def deferHosts (optionalHosts : String → Bool) (reasons : String → Option TransportUnreachableReason) :
    List (String × HostStats) → Option (List String)
  | [] => some []
  | (host,s) :: rest =>
    if 0 < s.failures then none
    else if s.unreachable = 0 then deferHosts optionalHosts reasons rest
    else if !optionalHosts host then none
    else
      match reasons host with
      | none => none
      | some reason =>
        if toleratedTransportReason reason then
          (deferHosts optionalHosts reasons rest).map (fun deferred => host :: deferred)
        else none

def ClassifyDeploymentOutcome (rawExitCode : Int) (path : String) (file : Option Bytes)
    (optionalHosts : String → Bool) : DeploymentOutcome :=
  let failed : DeploymentOutcome := ⟨rawExitCode,rawExitCode == 0,[]⟩
  if rawExitCode = 0 then failed
  else
    match readResultEvents decode path file with
    | none => failed
    | some events =>
      match summarizeResultEvents events with
      | none => failed
      | some (hosts,reasons) =>
        match deferHosts optionalHosts reasons hosts.entries with
        | none => failed
        | some deferred => ⟨rawExitCode,true,sortStrings deferred⟩

def lastReason (events : List ResultEvent) (host : String) : Option TransportUnreachableReason :=
  (events.reverse.find? (fun ev => ev.event == .unreachable && ev.host == host)).map ResultEvent.reason

/-- The reason the summary has for a host. An event without a host gives none. -/
def knownReason (events : List ResultEvent) (host : String) : Option TransportUnreachableReason :=
  if host = "" then none else lastReason events host

theorem summarize_spec (events : List ResultEvent) :
    (summarize events).statsSeen = events.countP (fun ev => ev.event == .stats) ∧
      (summarize events).stats =
        (events.reverse.find? (fun ev => ev.event == .stats)).bind ResultEvent.hosts ∧
      (summarize events).reasons = knownReason events := by
  induction events using reverseRecOn with
  | nil =>
    refine ⟨rfl,rfl,?_⟩
    funext host
    exact (ite_self none).symm
  | append_singleton events ev ih =>
    obtain ⟨seen,stats,reasons⟩ := ih
    have step : summarize (events ++ [ev]) = summarizeEvent (summarize events) ev := by
      simp [summarize]
    have last : ∀ host, lastReason (events ++ [ev]) host =
        if ev.event = .unreachable ∧ ev.host = host then some ev.reason else lastReason events host := by
      intro host
      unfold lastReason
      rw [reverse_append,reverse_singleton,singleton_append,find?_cons]
      by_cases here : ev.event = .unreachable ∧ ev.host = host
      · simp [here]
      · have miss : (ev.event == .unreachable && ev.host == host) = false := by
          simpa using here
        rw [miss,if_neg here]
    rw [step]
    unfold summarizeEvent
    cases kind : ev.event with
    | stats =>
      refine ⟨by simp [seen,kind],by simp [kind],?_⟩
      funext host
      simp [reasons,knownReason,last host,kind]
    | unreachable =>
      by_cases named : ev.host = ""
      · rw [if_neg (not_not.mpr named)]
        refine ⟨by simp [seen,kind],by simp [stats,kind],?_⟩
        funext host
        by_cases empty : host = ""
        · simp [reasons,knownReason,empty]
        · have other : ¬ ev.host = host := fun same => empty (same.symm.trans named)
          simp [reasons,knownReason,last host,empty,other]
      · rw [if_pos named]
        refine ⟨by simp [seen,kind],by simp [stats,kind],?_⟩
        funext host
        by_cases same : ev.host = host
        · subst same
          simp [knownReason,last ev.host,kind,named]
        · have other : ¬ host = ev.host := fun same' => same same'.symm
          simp [Function.update,reasons,knownReason,last host,other,same]
    | other text =>
      refine ⟨by simp [seen,kind],by simp [stats,kind],?_⟩
      funext host
      simp [reasons,knownReason,last host,kind]

structure Excused (optionalHosts : String → Bool) (reasons : String → Option TransportUnreachableReason)
    (entry : String × HostStats) : Prop where
  failures : ¬ 0 < entry.2.failures
  deferred : entry.2.unreachable ≠ 0 → optionalHosts entry.1 = true ∧
    ∃ reason, reasons entry.1 = some reason ∧ toleratedTransportReason reason = true

def touched (entry : String × HostStats) : Bool := entry.2.unreachable ≠ 0

variable {reasons : String → Option TransportUnreachableReason}
  {entries : List (String × HostStats)}

theorem deferHosts_some (ok : deferHosts optionalHosts reasons entries = some deferred) :
    (∀ entry ∈ entries, Excused optionalHosts reasons entry) ∧
      deferred = (entries.filter touched).map Prod.fst := by
  induction entries generalizing deferred with
  | nil =>
    cases ok
    exact ⟨fun _ mem => absurd mem not_mem_nil,rfl⟩
  | cons entry rest ih =>
    obtain ⟨host,s⟩ := entry
    unfold deferHosts at ok
    split at ok
    · cases ok
    rename_i failures
    split at ok
    · rename_i reachable
      obtain ⟨all,same⟩ := ih ok
      refine ⟨forall_mem_cons.mpr ⟨⟨failures,fun other => absurd reachable other⟩,all⟩,?_⟩
      rw [same,filter_cons_of_neg (by simp [touched,reachable])]
    rename_i unreachable
    split at ok
    · cases ok
    rename_i optional_
    split at ok
    · cases ok
    rename_i reason known
    split at ok
    · rename_i tolerated
      obtain ⟨others,later,rfl⟩ := Option.map_eq_some_iff.mp ok
      obtain ⟨all,same⟩ := ih later
      refine ⟨forall_mem_cons.mpr ⟨⟨failures,fun _ => ⟨?_,reason,known,tolerated⟩⟩,all⟩,?_⟩
      · simpa using optional_
      · rw [same,filter_cons_of_pos (by simp [touched,unreachable])]
        rfl
    · cases ok

theorem deferHosts_of_excused (all : ∀ entry ∈ entries, Excused optionalHosts reasons entry) :
    deferHosts optionalHosts reasons entries = some ((entries.filter touched).map Prod.fst) := by
  induction entries with
  | nil => rfl
  | cons entry rest ih =>
    obtain ⟨⟨failures,deferred⟩,later⟩ := forall_mem_cons.mp all
    unfold deferHosts
    rw [if_neg failures]
    by_cases reachable : entry.2.unreachable = 0
    · rw [if_pos reachable,filter_cons_of_neg (by simp [touched,reachable])]
      exact ih later
    · obtain ⟨optional_,reason,known,tolerated⟩ := deferred reachable
      rw [if_neg reachable,filter_cons_of_pos (by simp [touched,reachable])]
      simp [optional_,known,tolerated,ih later]

variable {decode} {rawExitCode : Int} {path : String} {file : Option Bytes} {optionalHosts : String → Bool}
  {events : List ResultEvent} {hosts : HostMap}

/-- A file of JSON lines with one stats event, which has the hosts. -/
structure Recorded (decode : Bytes → Except String ResultEvent) (path : String) (file : Option Bytes)
    (events : List ResultEvent) (hosts : HostMap) : Prop where
  lines : ∃ content lines, path ≠ "" ∧ file = some content ∧ scanLines content = some lines ∧
    decodeLines decode lines = .ok events
  once : events.countP (fun ev => ev.event == .stats) = 1
  stats : ∃ ev ∈ events, ev.event = .stats ∧ ev.hosts = some hosts

/-- Every reason that is recorded for an unreachable host is tolerated. -/
def Tolerated (events : List ResultEvent) (hosts : HostMap) : Prop :=
  ∀ entry ∈ hosts.entries, 0 < entry.2.unreachable → ∀ ev ∈ events, ev.event = .unreachable →
    ev.host = entry.1 → toleratedTransportReason ev.reason = true

structure Excusable (decode : Bytes → Except String ResultEvent) (path : String) (file : Option Bytes)
    (optionalHosts : String → Bool) (deferredHosts : List String) (events : List ResultEvent)
    (hosts : HostMap) : Prop where
  recorded : Recorded decode path file events hosts
  failures : ∀ entry ∈ hosts.entries, ¬ 0 < entry.2.failures
  some_ : ∃ entry ∈ hosts.entries, 0 < entry.2.unreachable
  optional_ : ∀ entry ∈ hosts.entries, 0 < entry.2.unreachable → optionalHosts entry.1 = true
  tolerated : Tolerated events hosts
  deferred : deferredHosts ≠ [] ∧ ∀ host, host ∈ deferredHosts ↔
    ∃ s, (host,s) ∈ hosts.entries ∧ 0 < s.unreachable

theorem readResultEvents_some_iff : readResultEvents decode path file = some events ↔
    ∃ content lines, path ≠ "" ∧ file = some content ∧ scanLines content = some lines ∧
      decodeLines decode lines = .ok events := by
  constructor
  · intro ok
    unfold readResultEvents at ok
    split at ok
    · cases ok
    rename_i named
    split at ok
    · cases ok
    rename_i content
    split at ok
    · cases ok
    rename_i lines scanned
    cases decoded : decodeLines decode lines with
    | error err =>
      rw [decoded] at ok
      cases ok
    | ok found =>
      rw [decoded] at ok
      cases ok
      exact ⟨content,lines,named,rfl,scanned,decoded⟩
  · intro ⟨content,lines,named,here,scanned,decoded⟩
    subst here
    unfold readResultEvents
    rw [if_neg named]
    dsimp only
    rw [scanned]
    dsimp only
    rw [decoded]
    rfl

theorem summarizeResultEvents_some_iff : summarizeResultEvents events = some (hosts,reasons) ↔
    events.countP (fun ev => ev.event == .stats) = 1 ∧
      (∃ ev ∈ events, ev.event = .stats ∧ ev.hosts = some hosts) ∧ reasons = knownReason events := by
  obtain ⟨seen,stats,known⟩ := summarize_spec events
  unfold summarizeResultEvents
  dsimp only
  rw [seen,stats,known]
  constructor
  · intro ok
    split at ok
    · cases ok
    rename_i one
    obtain ⟨found,there,same⟩ := Option.map_eq_some_iff.mp ok
    cases same
    obtain ⟨ev,last,here⟩ := Option.bind_eq_some_iff.mp there
    exact ⟨not_not.mp one,⟨ev,mem_reverse.mp (mem_of_find?_eq_some last),
      by simpa using find?_some last,here⟩,rfl⟩
  · intro ⟨one,⟨ev,mem,kind,here⟩,same⟩
    -- the stats event found from the end is the only one
    have only : (events.filter (fun e => e.event == .stats)).length = 1 := by
      rw [← countP_eq_length_filter]
      exact one
    obtain ⟨single,alone⟩ := length_eq_one_iff.mp only
    have first : ev ∈ events.filter (fun e => e.event == .stats) :=
      mem_filter.mpr ⟨mem,by simp [kind]⟩
    rw [alone,mem_singleton] at first
    rw [if_neg (not_not.mpr one),← head?_filter,filter_reverse,alone,← first,same]
    simp [here]

theorem classify_success (nonzero : rawExitCode ≠ 0)
    (success : (ClassifyDeploymentOutcome decode rawExitCode path file optionalHosts).success = true) :
    ∃ events hosts, Recorded decode path file events hosts ∧
      (∀ entry ∈ hosts.entries, Excused optionalHosts (knownReason events) entry) ∧
      (ClassifyDeploymentOutcome decode rawExitCode path file optionalHosts).deferredHosts =
        sortStrings ((hosts.entries.filter touched).map Prod.fst) := by
  have unsuccessful : (rawExitCode == 0) = false := by simpa using nonzero
  unfold ClassifyDeploymentOutcome at success ⊢
  rw [if_neg nonzero] at success ⊢
  cases read : readResultEvents decode path file with
  | none =>
    rw [read] at success
    exact absurd (success.symm.trans unsuccessful) (by decide)
  | some events =>
    rw [read] at success
    dsimp only at success ⊢
    cases sums : summarizeResultEvents events with
    | none =>
      rw [sums] at success
      exact absurd (success.symm.trans unsuccessful) (by decide)
    | some found =>
      obtain ⟨hosts,reasons⟩ := found
      rw [sums] at success
      dsimp only at success ⊢
      cases loop : deferHosts optionalHosts reasons hosts.entries with
      | none =>
        rw [loop] at success
        exact absurd (success.symm.trans unsuccessful) (by decide)
      | some deferred =>
        obtain ⟨all,same⟩ := deferHosts_some loop
        obtain ⟨once,stats,rfl⟩ := summarizeResultEvents_some_iff.mp sums
        exact ⟨events,hosts,⟨readResultEvents_some_iff.mp read,once,stats⟩,all,by rw [same]⟩

theorem classify_of_excused (nonzero : rawExitCode ≠ 0) (recorded : Recorded decode path file events hosts)
    (all : ∀ entry ∈ hosts.entries, Excused optionalHosts (knownReason events) entry) :
    ClassifyDeploymentOutcome decode rawExitCode path file optionalHosts =
      ⟨rawExitCode,true,sortStrings ((hosts.entries.filter touched).map Prod.fst)⟩ := by
  unfold ClassifyDeploymentOutcome
  rw [if_neg nonzero,readResultEvents_some_iff.mpr recorded.lines]
  dsimp only
  rw [summarizeResultEvents_some_iff.mpr ⟨recorded.once,recorded.stats,rfl⟩]
  dsimp only
  rw [deferHosts_of_excused all]

theorem mem_deferred :
    host ∈ sortStrings ((entries.filter touched).map Prod.fst) ↔
      ∃ s, (host,s) ∈ entries ∧ s.unreachable ≠ 0 := by
  rw [mem_sortStrings,mem_map]
  constructor
  · intro ⟨entry,mem,same⟩
    subst same
    obtain ⟨there,unreachable⟩ := mem_filter.mp mem
    exact ⟨entry.2,there,by simpa [touched] using unreachable⟩
  · intro ⟨s,there,unreachable⟩
    exact ⟨(host,s),mem_filter.mpr ⟨there,by simpa [touched] using unreachable⟩,rfl⟩

theorem Recorded.unique (one : Recorded decode path file events hosts)
    (two : Recorded decode path file events' hosts') : events' = events ∧ hosts' = hosts := by
  have read := readResultEvents_some_iff.mpr one.lines
  rw [readResultEvents_some_iff.mpr two.lines] at read
  cases read
  have sums := summarizeResultEvents_some_iff.mpr ⟨one.once,one.stats,rfl⟩
  rw [summarizeResultEvents_some_iff.mpr ⟨two.once,two.stats,rfl⟩] at sums
  cases sums
  exact ⟨rfl,rfl⟩

theorem HostMap.entry_unique (one : (host,s) ∈ hosts.entries) (two : (host,t) ∈ hosts.entries) : s = t := by
  have same : (host,s) = (host,t) := inj_on_of_nodup_map hosts.distinct one two rfl
  cases same
  rfl

/-- What the code leaves open: that a host is unreachable at all, that the counts
    are counts, and the reasons before the last one. -/
structure Accounted (events : List ResultEvent) (hosts : HostMap) : Prop where
  some_ : ∃ entry ∈ hosts.entries, 0 < entry.2.unreachable
  counts : ∀ entry ∈ hosts.entries, 0 ≤ entry.2.unreachable
  tolerated : Tolerated events hosts

/-- A non-zero exit is excused by deferred hosts alone if the files that pass
    the code's checks are accounted for, and only then. -/
theorem excused_iff_accounted (decode : Bytes → Except String ResultEvent) (rawExitCode : Int)
    (path : String) (file : Option Bytes) (optionalHosts : String → Bool) (nonzero : rawExitCode ≠ 0) :
    let outcome := ClassifyDeploymentOutcome decode rawExitCode path file optionalHosts
    (outcome.success = true → ∃ events hosts,
        Excusable decode path file optionalHosts outcome.deferredHosts events hosts) ↔
      ∀ events hosts, Recorded decode path file events hosts →
        (∀ entry ∈ hosts.entries, Excused optionalHosts (knownReason events) entry) →
        Accounted events hosts := by
  intro outcome
  constructor
  · intro excused events hosts recorded all
    have is := classify_of_excused nonzero recorded all
    obtain ⟨events',hosts',excusable⟩ := excused (congrArg DeploymentOutcome.success is)
    obtain ⟨rfl,rfl⟩ := recorded.unique excusable.recorded
    refine ⟨excusable.some_,?_,excusable.tolerated⟩
    intro entry there
    by_contra negative
    have listed : entry.1 ∈ outcome.deferredHosts := by
      rw [show outcome = _ from is]
      exact mem_deferred.mpr ⟨entry.2,there,by omega⟩
    obtain ⟨s,other,positive⟩ := (excusable.deferred.2 entry.1).mp listed
    have same : s = entry.2 := HostMap.entry_unique other there
    subst same
    omega
  · intro accounted success
    obtain ⟨events,hosts,recorded,all,deferred⟩ := classify_success nonzero success
    have good := accounted events hosts recorded all
    have members : ∀ host, host ∈ outcome.deferredHosts ↔
        ∃ s, (host,s) ∈ hosts.entries ∧ 0 < s.unreachable := by
      intro host
      rw [deferred,mem_deferred]
      constructor
      · intro ⟨s,there,unreachable⟩
        have count : 0 ≤ s.unreachable := good.counts _ there
        exact ⟨s,there,by omega⟩
      · intro ⟨s,there,unreachable⟩
        exact ⟨s,there,by omega⟩
    refine ⟨events,hosts,recorded,fun entry there => (all entry there).failures,good.some_,?_,
      good.tolerated,?_,members⟩
    · intro entry there unreachable
      exact ((all entry there).deferred (by omega)).1
    · obtain ⟨entry,there,unreachable⟩ := good.some_
      exact ne_nil_of_mem ((members entry.1).mpr ⟨entry.2,there,unreachable⟩)

section Sample

def sampleLines : List (Bytes × ResultEvent) :=
  [(bytesOf "\x7b\"event\":\"unreachable\",\"host\":\"dev-vm-01\",\"reason\":\"authentication_failed\"\x7d",
    ⟨.unreachable,"dev-vm-01",.authenticationFailed,none⟩),
   (bytesOf "\x7b\"event\":\"unreachable\",\"host\":\"dev-vm-01\",\"reason\":\"connection_timeout\"\x7d",
    ⟨.unreachable,"dev-vm-01",.connectionTimeout,none⟩),
   (bytesOf "\x7b\"event\":\"stats\",\"hosts\":\x7b\"dev-vm-01\":\x7b\"unreachable\":1\x7d\x7d\x7d",
    ⟨.stats,"",.other "",some ⟨[("dev-vm-01",⟨0,1⟩)],by decide⟩⟩),
   (bytesOf "\x7b\"event\":\"stats\",\"hosts\":\x7b\"dev-vm-01\":\x7b\"ok\":5\x7d\x7d\x7d",
    ⟨.stats,"",.other "",some ⟨[("dev-vm-01",⟨0,0⟩)],by decide⟩⟩)]

def sampleDecode (line : Bytes) : Except String ResultEvent :=
  match sampleLines.find? (fun known => known.1 == line) with
  | some known => .ok known.2
  | none => .error "invalid character"

def sampleFile (chosen : List Nat) : Bytes :=
  (chosen.filterMap fun n => (sampleLines[n]?).map Prod.fst).flatMap fun line => line ++ [10]

def sampleEvents (chosen : List Nat) : List ResultEvent :=
  chosen.filterMap fun n => (sampleLines[n]?).map Prod.snd

theorem sample_reads : ∀ chosen ∈ [[0,1,2],[1,2],[3]],
    readResultEvents sampleDecode "r.jsonl" (some (sampleFile chosen)) = some (sampleEvents chosen) := by
  decide +kernel

theorem events_of_sample (listed : chosen ∈ [[0,1,2],[1,2],[3]])
    (recorded : Recorded sampleDecode "r.jsonl" (some (sampleFile chosen)) events hosts) :
    events = sampleEvents chosen := by
  have read := readResultEvents_some_iff.mpr recorded.lines
  rw [sample_reads chosen listed] at read
  exact (Option.some.inj read).symm

def sampleOutcome (chosen : List Nat) : Option DeploymentOutcome := do
  let (hosts,reasons) ← summarizeResultEvents (sampleEvents chosen)
  let deferred ← deferHosts (fun host => host == "dev-vm-01") reasons hosts.entries
  return ⟨4,true,sortStrings deferred⟩

theorem classify_sample (chosen : List Nat) (listed : chosen ∈ [[0,1,2],[1,2],[3]])
    (is : sampleOutcome chosen = some outcome) :
    ClassifyDeploymentOutcome sampleDecode 4 "r.jsonl" (some (sampleFile chosen))
      (fun host => host == "dev-vm-01") = outcome := by
  unfold sampleOutcome at is
  unfold ClassifyDeploymentOutcome
  rw [if_neg (by decide),sample_reads chosen listed]
  dsimp only
  cases sums : summarizeResultEvents (sampleEvents chosen) with
  | none =>
    rw [sums] at is
    cases is
  | some found =>
    obtain ⟨hosts,reasons⟩ := found
    rw [sums,Option.bind_eq_bind,Option.bind_some] at is
    dsimp only at is ⊢
    cases loop : deferHosts (fun host => host == "dev-vm-01") reasons hosts.entries with
    | none =>
      rw [loop] at is
      cases is
    | some deferred =>
      rw [loop] at is
      cases is
      rfl

/-- A host that refused the login is deferred if it timed out afterwards, and a
    run in which every host was reached is a success with nothing deferred. -/
theorem failed_login_is_excused :
    let optionalHosts := fun host => host == "dev-vm-01"
    let retried := ClassifyDeploymentOutcome sampleDecode 4 "r.jsonl" (some (sampleFile [0,1,2]))
      optionalHosts
    let reached := ClassifyDeploymentOutcome sampleDecode 4 "r.jsonl" (some (sampleFile [3])) optionalHosts
    (retried = ⟨4,true,["dev-vm-01"]⟩ ∧ ¬ ∃ events hosts,
        Excusable sampleDecode "r.jsonl" (some (sampleFile [0,1,2])) optionalHosts
          retried.deferredHosts events hosts) ∧
      (reached = ⟨4,true,[]⟩ ∧ ¬ ∃ events hosts,
        Excusable sampleDecode "r.jsonl" (some (sampleFile [3])) optionalHosts
          reached.deferredHosts events hosts) := by
  intro optionalHosts retried reached
  have first : retried = ⟨4,true,["dev-vm-01"]⟩ :=
    classify_sample [0,1,2] (by decide) (by decide +kernel)
  have second : reached = ⟨4,true,[]⟩ :=
    classify_sample [3] (by decide) (by decide +kernel)
  refine ⟨⟨first,?_⟩,second,?_⟩
  · intro ⟨events,hosts,excusable⟩
    have same := events_of_sample (by decide) excusable.recorded
    subst same
    obtain ⟨entry,there,unreachable⟩ := excusable.some_
    have named : entry.1 = "dev-vm-01" := by
      obtain ⟨ev,mem,_,stats⟩ := excusable.recorded.stats
      have all : ∀ e ∈ sampleEvents [0,1,2], ∀ map ∈ e.hosts, ∀ x ∈ map.entries, x.1 = "dev-vm-01" := by
        decide +kernel
      exact all ev mem hosts stats entry there
    have refused := excusable.tolerated entry there unreachable
      ⟨.unreachable,"dev-vm-01",.authenticationFailed,none⟩ (by decide +kernel) rfl named.symm
    exact absurd refused (by decide)
  · intro ⟨events,hosts,excusable⟩
    exact excusable.deferred.1 (congrArg DeploymentOutcome.deferredHosts second)

/-- A run whose optional host timed out, and no other event. -/
theorem timed_out_host_is_excused :
    let outcome := ClassifyDeploymentOutcome sampleDecode 4 "r.jsonl" (some (sampleFile [1,2]))
      (fun host => host == "dev-vm-01")
    outcome.success = true ∧ ∃ events hosts,
      Excusable sampleDecode "r.jsonl" (some (sampleFile [1,2])) (fun host => host == "dev-vm-01")
        outcome.deferredHosts events hosts := by
  intro outcome
  have is : outcome = ⟨4,true,["dev-vm-01"]⟩ :=
    classify_sample [1,2] (by decide) (by decide +kernel)
  have success : outcome.success = true := congrArg DeploymentOutcome.success is
  refine ⟨success,(excused_iff_accounted sampleDecode 4 "r.jsonl" (some (sampleFile [1,2]))
    (fun host => host == "dev-vm-01") (by decide)).mpr ?_ success⟩
  intro events hosts recorded _
  have same := events_of_sample (by decide) recorded
  subst same
  obtain ⟨ev,mem,_,stats⟩ := recorded.stats
  have entries : ∀ e ∈ sampleEvents [1,2], ∀ map ∈ e.hosts, map.entries = [("dev-vm-01",⟨0,1⟩)] := by
    decide +kernel
  have here := entries ev mem hosts stats
  constructor
  · rw [here]
    decide
  · rw [here]
    decide
  intro entry _ _ e there kind _
  have all : ∀ e ∈ sampleEvents [1,2], e.event = .unreachable →
      toleratedTransportReason e.reason = true := by decide +kernel
  exact all e there kind

end Sample

end Pilot.Deploy

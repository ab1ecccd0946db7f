import Mathlib.Data.List.Dedup
import Pilot.Library.Dict
import Pilot.Library.Go

/-!
The SSH key propagation journal of `playbooks/apply/files/freeipa-ssh-key-cache.py`.
A prepare marks every host of a user as pending under a new epoch, a settle
takes back what the apply did not change, an acknowledgement discharges one
host and a retirement discharges a host for good. The journal file and the
request are decoded; the script's own checks of their fields are kept.
-/
namespace Pilot.SshCache

/-- What the script takes from outside: the epochs `uuid4` draws in their
    order, strict base64, `str.lower` and `repr`. -/
structure Env (Epoch : Type) where
  uuid : Nat → Epoch
  b64decode : String → Except String (List UInt8)
  (lower repr : String → String)

def sorted (xs : List String) : List String := xs.insertionSort (· ≤ ·)
def sortedSet (xs : List String) : List String := sorted xs.dedup

/-- `str.isspace` of one character. -/
def isSpace (c : Char) : Bool :=
  Go.isSpace c || (28 ≤ c.toNat && c.toNat ≤ 31)

def split (text : String) : List String :=
  ((text.toList.splitOnP isSpace).filter (· ≠ [])).map String.ofList

/-- `not text.strip()`. -/
def blank (text : String) : Bool := text.toList.all isSpace

def startsWith (text start : String) : Bool := start.toList.isPrefixOf text.toList
def endsWith (text ending : String) : Bool := ending.toList.isSuffixOf text.toList

def fromBytes (raw : List UInt8) : Nat := raw.foldl (fun n byte => n * 256 + byte.toNat) 0

def decodeAscii (raw : List UInt8) : Except String String :=
  match raw.zipIdx.find? (fun p => 128 ≤ p.1.toNat) with
  | some (byte,position) =>
    let hex := String.ofList (Nat.toDigits 16 byte.toNat)
    throw s!"'ascii' codec can't decode byte 0x{hex} in position {position}: ordinal not in range(128)"
  | none => return String.ofList (raw.map (fun byte => Char.ofNat byte.toNat))

section
variable {Epoch : Type} (env : Env Epoch)

def normalizeKey (key : String) : Except String String :=
  match split key with
  | algorithm :: blob :: _ => do
    if !(["ssh-","ecdsa-","sk-"].any (startsWith algorithm)) then throw "invalid SSH public key"
    let raw ← env.b64decode blob
    let size := fromBytes (raw.take 4)
    if raw.length < 4 + size then throw "invalid SSH public key algorithm"
    let name ← decodeAscii ((raw.drop 4).take size)
    if name ≠ algorithm then throw "invalid SSH public key algorithm"
    return algorithm ++ " " ++ blob
  | _ => throw "invalid SSH public key"

def keyset (keys : List String) : Except String (List String) :=
  return sortedSet (← keys.mapM (normalizeKey env))

end

/-- `re.fullmatch(r"[a-z_][a-z0-9_.-]*", name)`. -/
def validUser (name : String) : Bool :=
  match name.toList with
  | [] => false
  | first :: rest =>
    (('a' ≤ first && first ≤ 'z') || first == '_') &&
      rest.all (fun c => ('a' ≤ c && c ≤ 'z') || ('0' ≤ c && c ≤ '9') || c == '_' || c == '.' || c == '-')

structure Entry (Epoch : Type) where
  keys : List String
  epoch : Epoch
  (hosts pending : List String)
  deriving DecidableEq

structure Retirement where
  (hostAlias fqdn stage reason origin : String)
  deriving DecidableEq

structure Receipt extends Retirement where
  discharged : Nat
  result : String
  recordedAt : Int
  deriving DecidableEq

structure Journal (Epoch : Type) where
  domain : String
  users : Dict String (Entry Epoch)
  retired : Dict String Receipt
  authPending : Option Bool
  deriving DecidableEq

structure WorkItem (Epoch : Type) where
  (user host : String)
  epoch : Epoch
  keys : List String
  deriving DecidableEq

structure Prepared (Epoch : Type) where
  epoch : Epoch
  required : List String
  deriving DecidableEq

structure UserKeys where
  name : String
  sshKeys : List String

structure InventoryHost where
  (hostAlias fqdn stage : String)

structure PlanData where
  stage : String
  absent : List String
  inventory : List InventoryHost
  retirements : List Retirement

inductive Action (Epoch : Type) where
  | inspect
  | retirementStatus (fqdn hostAlias stage : String)
  | plan (data : PlanData)
  | retire (stage : String) (retirements : List Retirement)
  | authPrepare
  | authSettle (previous changed : Bool)
  | authAck
  | prepare (hosts : List String) (users : List UserKeys)
  | settle (prepared : Dict String (Prepared Epoch)) (changedUsers : List String)
  | ack (verified : List (WorkItem Epoch))

inductive Result (Epoch : Type) where
  | report (work : List (WorkItem Epoch)) (retired : Dict String Receipt)
  | status (settled : Bool) (retirements : List Receipt) (fqdn hostAlias stage : String)
  | planned (work : List (WorkItem Epoch)) (retirements : List Retirement)
      (cleanupRequired : List String)
  | retired (changed : Bool) (retired : Dict String Receipt) (work : List (WorkItem Epoch))
  | previous (pending : Bool)
  | dirty (pending : Bool)
  | done
  | prepared (prepared : Dict String (Prepared Epoch))
  | work (work : List (WorkItem Epoch))
  | pending (pairs : List (String × String))
  deriving DecidableEq

section
variable {Epoch : Type}

def newJournal (domain : String) : Journal Epoch := ⟨domain,Dict.empty,Dict.empty,none⟩

def workOf (users : Dict String (Entry Epoch)) : List (WorkItem Epoch) :=
  (users.entries.insertionSort (fun a b => a.1 ≤ b.1)).flatMap fun (name,entry) =>
    (sorted entry.pending).map fun host => ⟨name,host,entry.epoch,entry.keys⟩

def work (state : Journal Epoch) : List (WorkItem Epoch) := workOf state.users

def pendingOf (previous : Option (Entry Epoch)) : List String := previous.elim [] Entry.pending

section
variable (env : Env Epoch)

def selectRetirement (data : PlanData) (selected : Dict String Retirement) (item : Retirement) :
    Except String (Dict String Retirement) := do
  let fqdn := env.lower item.fqdn
  if fqdn ∉ data.absent.map env.lower ∨ item.stage ≠ data.stage ∨ blank item.reason ∨
      blank item.origin then
    throw "retirement requires absent roster intent, authorized stage, reason and origin"
  if (data.inventory.find? (fun h => h.hostAlias = item.hostAlias)).any
      (fun h => env.lower h.fqdn != fqdn || h.stage != data.stage) then
    throw "retirement inventory identity/stage mismatch"
  if (selected.get? item.hostAlias).any (fun other => other != { item with fqdn := fqdn }) then
    throw "ambiguous retirement alias"
  return selected.set item.hostAlias { item with fqdn := fqdn }

def setDefault (selected : Dict String Retirement) (hostAlias : String) (item : Retirement) :
    Dict String Retirement :=
  if selected.has hostAlias then selected else selected.set hostAlias item

def selectAbsent (receipts : Dict String Receipt) (data : PlanData)
    (selected : Dict String Retirement) (fqdn : String) : Except String (Dict String Retirement) := do
  let hosts := data.inventory.filter (fun h => env.lower h.fqdn = fqdn)
  if 1 < hosts.length then throw "ambiguous retirement FQDN in inventory"
  let selected ← hosts.foldlM (fun selected h => do
    if h.stage ≠ data.stage then throw "retirement target outside authorized stage"
    return setDefault selected h.hostAlias
      ⟨h.hostAlias,fqdn,data.stage,"canonical roster state: absent","canonical-roster"⟩) selected
  receipts.entries.foldlM (fun selected (hostAlias,receipt) => do
    if receipt.fqdn = fqdn then
      if receipt.stage ≠ data.stage then throw "retirement receipt outside authorized stage"
      return setDefault selected hostAlias receipt.toRetirement
    else return selected) selected

def checkSelected (domain : String) (receipts : Dict String Receipt) (data : PlanData)
    (hostAlias : String) (item : Retirement) : Except String Unit := do
  if !endsWith item.fqdn ("." ++ domain) then throw "retirement target outside journal domain"
  if data.inventory.any (fun h => h.hostAlias == hostAlias &&
      (env.lower h.fqdn != item.fqdn || h.stage != item.stage)) then
    throw "retirement inventory identity/stage mismatch"
  if (receipts.get? hostAlias).any
      (fun receipt => receipt.fqdn != item.fqdn || receipt.stage != item.stage) then
    throw "retirement identity conflicts with durable receipt"

def retirementPlan (state : Journal Epoch) (data : PlanData) : Except String (List Retirement) := do
  let selected ← data.retirements.foldlM (selectRetirement env data) Dict.empty
  let selected ← (sortedSet (data.absent.map env.lower)).foldlM
    (selectAbsent env state.retired data) selected
  selected.entries.forM fun (hostAlias,item) => checkSelected env state.domain state.retired data hostAlias item
  -- a tombstone remains a barrier even if the roster later drops its entry
  if data.inventory.any (fun h =>
      state.retired.has h.hostAlias && !selected.has h.hostAlias) then
    throw "retired alias reuse requires a separate authorized lifecycle"
  return (sorted (selected.entries.map Prod.fst)).filterMap selected.get?

def plan (state : Journal Epoch) (data : PlanData) : Except String (Result Epoch) := do
  let retirements ← retirementPlan env state data
  let pending := (work state).map WorkItem.host
  let cleanupRequired := retirements.filter fun item =>
    item.hostAlias ∈ pending || match state.retired.get? item.hostAlias with
      | none => true
      | some receipt =>
        receipt.hostAlias != item.hostAlias || receipt.fqdn != item.fqdn || receipt.stage != item.stage
  return .planned (work state) retirements (cleanupRequired.map Retirement.hostAlias)

def retirementStatus (state : Journal Epoch) (fqdn hostAlias stage : String) : Result Epoch :=
  let hits := (state.retired.entries.map Prod.snd).filter fun r =>
    r.fqdn == env.lower fqdn && (hostAlias == "" || r.hostAlias == hostAlias) && r.stage == stage
  let settled := !hits.isEmpty && hits.all fun r => !(work state).any fun p => p.host == r.hostAlias
  .status settled hits (env.lower fqdn) hostAlias stage

def checkRetirement (state : Journal Epoch) (stage : String) (batch : Dict String Retirement)
    (item : Retirement) : Except String (Dict String Retirement) :=
  if item.stage ≠ stage ∨ blank item.reason ∨ blank item.origin ∨
      item.fqdn ≠ env.lower item.fqdn ∨ !endsWith item.fqdn ("." ++ state.domain) ∨
      item.hostAlias = "" then
    throw "invalid authorized retirement"
  else if (batch.get? item.hostAlias).any (fun other => other != item) then
    throw "ambiguous retirement alias"
  else if (state.retired.get? item.hostAlias).any
      (fun receipt => receipt.fqdn != item.fqdn || receipt.stage != item.stage) then
    throw "retirement identity conflicts with durable receipt"
  else return batch.set item.hostAlias item

def discharge (hostAlias : String) (draws : Nat) (entry : Entry Epoch) : Entry Epoch × Nat :=
  if hostAlias ∈ entry.pending then
    ({ entry with
      pending := entry.pending.filter (· ≠ hostAlias)
      epoch := env.uuid draws }, draws + 1)
  else (entry,draws)

structure Retiring (Epoch : Type) where
  users : Dict String (Entry Epoch)
  retired : Dict String Receipt
  draws : Nat
  changed : Bool

def retireItem (now : Int) (s : Retiring Epoch) (item : Retirement) :
    Except String (Retiring Epoch) :=
  if s.retired.has item.hostAlias then
    if s.users.entries.any (fun p => p.2.pending.contains item.hostAlias) then
      throw "retired alias has unexpected pending work"
    else return s
  else
    let (users,draws) := s.users.mapAccum (discharge env item.hostAlias) s.draws
    return {
      users := users
      retired := s.retired.set item.hostAlias
        { item with discharged := draws - s.draws, result := "retired", recordedAt := now }
      draws := draws
      changed := true }

def retire (now : Int) (state : Journal Epoch) (draws : Nat) (stage : String)
    (items : List Retirement) : Except String (Retiring Epoch) := do
  let _ ← items.foldlM (checkRetirement env state stage) Dict.empty
  items.foldlM (retireItem env now) ⟨state.users,state.retired,draws,false⟩

def requiredHosts (hosts keys : List String) (previous : Option (Entry Epoch)) : List String :=
  match previous with
  | some entry =>
    -- pending from an interrupted prepare is intentionally retained
    if entry.keys = keys then sortedSet (entry.pending ++ hosts.filter (· ∉ entry.hosts))
    else sortedSet (hosts ++ entry.pending)
  | none => sortedSet hosts

structure Preparing (Epoch : Type) where
  users : Dict String (Entry Epoch)
  prepared : Dict String (Prepared Epoch)
  draws : Nat

def prepareUser (hosts : List String) (s : Preparing Epoch) (item : UserKeys) :
    Except String (Preparing Epoch) := do
  let keys ← keyset env item.sshKeys
  if !validUser item.name then throw "invalid user"
  if s.prepared.has item.name then throw "duplicate managed user"
  let previous := s.users.get? item.name
  let epoch := env.uuid s.draws
  return {
    users := s.users.set item.name ⟨keys,epoch,hosts,sortedSet (hosts ++ pendingOf previous)⟩
    prepared := s.prepared.set item.name ⟨epoch,requiredHosts hosts keys previous⟩
    draws := s.draws + 1 }

def prepare (state : Journal Epoch) (draws : Nat) (hosts : List String) (users : List UserKeys) :
    Except String (Preparing Epoch) := do
  let hosts := sortedSet hosts
  if hosts = [] then throw "no enrolled inventory hosts"
  if hosts.any state.retired.has then
    throw "retired alias reuse requires a separate authorized lifecycle"
  users.foldlM (prepareUser env hosts) ⟨state.users,Dict.empty,draws⟩

variable [DecidableEq Epoch]

def settleUser (changedUsers : List String) (users : Dict String (Entry Epoch))
    (item : String × Prepared Epoch) : Except String (Dict String (Entry Epoch)) :=
  match users.get? item.1 with
  | none => throw (env.repr item.1)
  | some entry =>
    if entry.epoch ≠ item.2.epoch then throw "concurrent identity apply; retry serially"
    else if item.1 ∈ changedUsers then return users
    else return users.set item.1 { entry with pending := item.2.required }

def settle (users : Dict String (Entry Epoch)) (prepared : Dict String (Prepared Epoch))
    (changedUsers : List String) : Except String (Dict String (Entry Epoch)) :=
  prepared.entries.foldlM (settleUser env changedUsers) users

def ackItem (users : Dict String (Entry Epoch)) (pair : WorkItem Epoch) :
    Except String (Dict String (Entry Epoch)) :=
  match users.get? pair.user with
  | none => throw (env.repr pair.user)
  | some entry =>
    if entry.epoch ≠ pair.epoch then throw "stale SSH cache acknowledgement; retry"
    else return users.set pair.user { entry with pending := entry.pending.filter (· ≠ pair.host) }

def ack (users : Dict String (Entry Epoch)) (verified : List (WorkItem Epoch)) :
    Except String (Dict String (Entry Epoch)) :=
  verified.foldlM (ackItem env) users

def update (now : Int) (domain : String) (state : Journal Epoch) (draws : Nat)
    (action : Action Epoch) : Except String (Journal Epoch × Nat × Result Epoch) := do
  if state.domain ≠ domain then throw "journal domain mismatch"
  match action with
  | .inspect => return (state, draws, .report (work state) state.retired)
  | .retirementStatus fqdn hostAlias stage =>
    return (state, draws, retirementStatus env state fqdn hostAlias stage)
  | .plan data => return (state, draws, ← plan env state data)
  | .retire stage items =>
    let s ← retire env now state draws stage items
    let state := { state with users := s.users, retired := s.retired }
    return (state, s.draws, .retired s.changed s.retired (work state))
  | .authPrepare =>
    -- a journal without the record cannot show that earlier runs refreshed every client
    return ({ state with authPending := some true }, draws, .previous (state.authPending.getD true))
  | .authSettle previous changed =>
    return ({ state with authPending := some (previous || changed) }, draws,
      .dirty (previous || changed))
  | .authAck => return ({ state with authPending := some false }, draws, .done)
  | .prepare hosts users =>
    let s ← prepare env state draws hosts users
    return ({ state with users := s.users }, s.draws, .prepared s.prepared)
  | .settle prepared changedUsers =>
    let users ← settle env state.users prepared changedUsers
    return ({ state with users := users }, draws, .work (workOf users))
  | .ack verified =>
    let users ← ack env state.users verified
    return ({ state with users := users }, draws,
      .pending ((workOf users).map (fun p => (p.host,p.user))))

def Action.readOnly : Action Epoch → Bool
  | inspect | plan _ | retirementStatus .. => true
  | _ => false

/-- One call on the journal file, which a reader never creates or replaces. -/
def journal (now : Int) (domain : String) (stored : Option (Journal Epoch)) (draws : Nat)
    (action : Action Epoch) : Except String (Option (Journal Epoch) × Nat × Result Epoch) := do
  let (state, draws, result) ← update env now domain (stored.getD (newJournal domain)) draws action
  return (if action.readOnly then stored else some state, draws, result)

end
end
end Pilot.SshCache

import Pilot.Sessions.Integrity

/-!
The ingest API of `cmd/pilot-session-store/ingest_api.go` behind the tokens of
`internal/ingesttoken`. A request for events or a finish looks at its session in
one transaction and writes in another, with other requests in between.
-/
namespace Pilot.Sessions
open Pilot.Table Pilot.Transition List

structure Claims where
  (sessionID user gateway scope target mode source : String)
  (issuedAt startBy expires : Int)
  (jti keyID : String)
  deriving DecidableEq

/-- The id and the HMAC of the key, both base64 encodings, the strict decoding of
one JSON value, and `uuid.Parse`. -/
structure Tokens where
  kid : String
  mac : String → Bytes
  (rawURL std : String → Option Bytes)
  claims : Bytes → Option Claims
  uuid : String → Bool

def seconds (n : Int) : Int := n*second

def clockSkew : Int := seconds 60

/-- `time.Unix` counts the seconds from the year 1 in 64 bits. -/
def unixTime (sec : Int) : Int := seconds (wrapInt64 (sec+62135596800)-62135596800)

def validateClaims (T : Tokens) (c : Claims) : Bool :=
  T.uuid c.sessionID && c.sessionID.utf8ByteSize == 36 &&
  c.user != "" && c.gateway != "" && c.scope != "" && c.target != "" &&
  ["terminal_output","terminal_io"].contains c.mode &&
  ["host","gateway_default"].contains c.source && c.jti.toList.length == 32 &&
  c.jti.toList.all (fun ch => ch.isDigit || 'a' ≤ ch && ch ≤ 'f') && c.keyID != "" &&
  c.issuedAt < c.expires && wrapInt64 (seconds (wrapInt64 (c.expires-c.issuedAt))) ≤ seconds 604800 &&
  c.issuedAt < c.startBy && c.startBy ≤ c.expires

def verify (T : Tokens) (token : String) (now : Int) : Except String Claims :=
  match (token.toList.splitOn '.').map String.ofList with
  | [version,payload,signature] =>
    if version ≠ "pit1" ∨ payload = "" ∨ signature = "" then .error "malformed"
    else
      match (T.rawURL payload).bind T.claims,T.rawURL signature with
      | some c,some sig =>
        if c.keyID ≠ T.kid then .error "unknown_key"
        else if sig ≠ T.mac (version ++ "." ++ payload) then .error "bad_signature"
        else if ¬ validateClaims T c then .error "invalid_claims"
        else if now+clockSkew < unixTime c.issuedAt then .error "not_yet_valid"
        else if unixTime c.expires < now-clockSkew then .error "expired"
        else .ok c
      | _,_ => .error "malformed"
  | _ => .error "malformed"

structure StartRequest where
  (sessionID user directoryID gatewayID scope target recordingMode startedAt : String)

structure WireEvent where
  schemaVersion : Int
  sessionID : String
  seq : UInt64
  offsetNanos : Int
  (stream dataBase64 : String)
  (rows cols redactedBytes : Int)

structure FinishRequest where
  endedAt : String
  complete : Bool
  lastSeq : Option UInt64

/-- A body that does not decode is none. -/
inductive Body where
  | start (req : Option StartRequest)
  | events (req : Option (List WireEvent))
  | finish (req : Option FinishRequest)

/-- `bearer` is what follows `Bearer ` in the header, and `id` is that of the path. -/
structure Request where
  bearer : Option String
  id : String
  body : Body

abbrev Refusal := Nat × String

def sessionMatchesClaims (s : SessionStart) (c : Claims) : Bool :=
  s.sessionID == c.sessionID && s.user == c.user && s.gatewayID == c.gateway && s.scope == c.scope &&
    s.target == c.target && s.recordingMode == c.mode && s.ingestJTI == c.jti

section
variable (S : Setup) (T : Tokens)

def authenticated (r : Request) (now : Int) : Except Refusal Claims :=
  match r.bearer with
  | none => .error (401,"unauthorized")
  | some token => (verify T token now).mapError (fun _ => (401,"unauthorized"))

def boundSession (db : DB) (r : Request) (c : Claims) : Except Refusal Unit :=
  if r.id ≠ c.sessionID then .error (403,"session_id_mismatch")
  else
    match db.sessions.find? (ofSession r.id) with
    | none => .error (404,"unknown session")
    | some s => if sessionMatchesClaims s.start c then .ok () else .error (403,"claims_mismatch")

def handleStart (now : Int) (req : Option StartRequest) (c : Claims) : Except Refusal Call :=
  if unixTime c.startBy < now-clockSkew then .error (401,"start_window_closed")
  else
    match req with
    | none => .error (400,"bad request")
    | some req =>
      if req.directoryID ≠ "" then .error (400,"unbound_field")
      else if req.sessionID ≠ c.sessionID ∨ req.user ≠ c.user ∨ req.gatewayID ≠ c.gateway ∨
          req.scope ≠ c.scope ∨ req.target ≠ c.target ∨ req.recordingMode ≠ c.mode then
        .error (403,"claims_mismatch")
      else
        let startedAt := (if req.startedAt = "" then none else S.clock.parse req.startedAt).getD now
        .ok (.start ⟨c.sessionID,c.user,"",c.gateway,c.scope,c.target,c.mode,startedAt,c.source,
          c.jti⟩ now)

def WireEvent.ingest (id : String) (ev : WireEvent) : Except Refusal IngestEvent :=
  if ev.sessionID ≠ id then .error (400,"event session_id mismatch")
  else
    match T.std ev.dataBase64 with
    | none => .error (400,"invalid data_base64")
    | some data => .ok ⟨ev.seq,ev.stream,ev.offsetNanos,data,ev.rows,ev.cols,ev.redactedBytes⟩

def handleEvents (stamps : Nat → Stamp) (id : String) (req : Option (List WireEvent)) :
    Except Refusal Call :=
  match req with
  | none => .error (400,"bad request")
  | some events => (events.mapM (WireEvent.ingest T id)).map fun events =>
      .ingest id (events.zipIdx.map fun e => (e.1,stamps e.2))

def handleFinish (id : String) (req : Option FinishRequest) : Except Refusal Call :=
  match req with
  | none => .error (400,"bad request")
  | some req =>
    match S.clock.parse req.endedAt,req.lastSeq with
    | some endedAt,some lastSeq => .ok (.finish id endedAt req.complete lastSeq)
    | _,_ => .error (400,"ended_at (RFC3339Nano) and last_seq are required")

/-- Up to the write of the request: what it will write. -/
def handle (db : DB) (r : Request) (now : Int) (stamps : Nat → Stamp) : Except Refusal Call := do
  let c ← authenticated T r now
  match r.body with
  | .start req => handleStart S now req c
  | .events req => boundSession db r c >>= fun _ => handleEvents T stamps r.id req
  | .finish req => boundSession db r c >>= fun _ => handleFinish S r.id req

structure Server where
  db : DB
  waiting : List (Request × Call)

inductive ServerStep (w : Server) (r : Request) : Server → Prop where
  | accepted (now : Int) (stamps : Nat → Stamp) {call : Call}
      (ok : handle S T w.db r now stamps = .ok call) :
      ServerStep w r { w with waiting := (r,call) :: w.waiting }
  -- Refused, or the store could not be read.
  | ended : ServerStep w r w
  | written (place : Nat) (failed : Bool) {call : Call} (waits : w.waiting[place]? = some (r,call)) :
      ServerStep w r ⟨call.apply S failed w.db,w.waiting.eraseIdx place⟩

def Request.carries (r : Request) (c : Claims) : Prop :=
  ∃ token now, r.bearer = some token ∧ verify T token now = .ok c

def Request.sends (r : Request) (ev : IngestEvent) : Prop :=
  ∃ events sent, r.body = .events (some events) ∧ sent ∈ events ∧ sent.ingest T r.id = .ok ev

def Request.finishes (r : Request) (endedAt : Int) (claimed : Bool) (lastSeq : UInt64) : Prop :=
  ∃ req, r.body = .finish (some req) ∧ S.clock.parse req.endedAt = some endedAt ∧
    req.complete = claimed ∧ req.lastSeq = some lastSeq

/-- The session has the claims of a token, and what is stored of it came with that token. -/
structure OwnedBy (requests : List Request) (db : DB) (s : Session) (c : Claims) : Prop where
  claims : sessionMatchesClaims s.start c
  events : ∀ e ∈ eventsOf db s.id, ∃ r ∈ requests, r.carries T c ∧
    ∃ ev stamp, r.sends T ev ∧ e = sealedRow S s.id ev stamp
  finish : s.endedAt ≠ "" → ∃ r ∈ requests, r.carries T c ∧ ∃ endedAt claimed,
    r.finishes S endedAt claimed s.lastSeq ∧ s.endedAt = S.clock.format endedAt ∧
      (s.complete → claimed)

def Bound (db : DB) (id : String) (c : Claims) : Prop :=
  ∃ s ∈ db.sessions, s.id = id ∧ sessionMatchesClaims s.start c

/-- What is known of a request that is about to write. -/
def Asked (db : DB) (r : Request) (c : Claims) : Call → Prop
  | .start given _ => sessionMatchesClaims given c
  | .ingest id batch => Bound db id c ∧ ∀ item ∈ batch, r.sends T item.1
  | .finish id endedAt claimed lastSeq => Bound db id c ∧ r.finishes S endedAt claimed lastSeq

variable {S T} {db db' : DB} {r : Request} {c : Claims} {call : Call} {failed : Bool} {id : String}
  {requests : List Request} {s : Session} {now : Int} {stamps : Nat → Stamp}
  {calls : List (Call × Bool)}

theorem bound_of_ok (ok : boundSession db r c = .ok ()) : Bound db r.id c := by
  unfold boundSession at ok
  split at ok
  · cases ok
  split at ok
  · cases ok
  rename_i s found
  split at ok
  · rename_i same
    exact ⟨s,mem_of_find?_eq_some found,ofSession_iff.mp (find?_some found),same⟩
  · cases ok

theorem asked_start (ok : handleStart S now req c = .ok call) : Asked S T db r c call := by
  unfold handleStart at ok
  split at ok
  · cases ok
  split at ok
  · cases ok
  split at ok
  · cases ok
  split at ok
  · cases ok
  · cases ok
    simp [Asked,sessionMatchesClaims]

theorem asked_events (bound : Bound db r.id c) (body : r.body = .events req)
    (ok : handleEvents T stamps r.id req = .ok call) : Asked S T db r c call := by
  unfold handleEvents at ok
  split at ok
  · cases ok
  rename_i events
  cases decoded : events.mapM (WireEvent.ingest T r.id) with
  | error err =>
    rw [decoded] at ok
    cases ok
  | ok batch =>
    rw [decoded] at ok
    cases ok
    refine ⟨bound,?_⟩
    intro item mem
    obtain ⟨e,inside,rfl⟩ := mem_map.mp mem
    obtain ⟨sent,among,made⟩ := (Fold.mem_mapM decoded).mp (fst_mem_of_mem_zipIdx inside)
    exact ⟨events,sent,body,among,made⟩

theorem asked_finish (bound : Bound db r.id c) (body : r.body = .finish req)
    (ok : handleFinish S r.id req = .ok call) : Asked S T db r c call := by
  unfold handleFinish at ok
  split at ok
  · cases ok
  rename_i req
  split at ok
  · rename_i endedAt lastSeq parsed last
    cases ok
    exact ⟨bound,req,body,parsed,rfl,last⟩
  · cases ok

theorem asked_of_handle (ok : handle S T db r now stamps = .ok call) :
    ∃ c, r.carries T c ∧ Asked S T db r c call := by
  obtain ⟨c,accepted,asked⟩ := Fold.bind_ok ok
  refine ⟨c,?_,?_⟩
  · unfold authenticated at accepted
    split at accepted
    · cases accepted
    rename_i token bearer
    cases verified : verify T token now with
    | error err =>
      rw [verified] at accepted
      cases accepted
    | ok claims =>
      rw [verified] at accepted
      cases accepted
      exact ⟨token,now,bearer,verified⟩
  · split at asked
    · exact asked_start asked
    · rename_i body
      obtain ⟨_,checked,asked⟩ := Fold.bind_ok asked
      exact asked_events (bound_of_ok checked) body asked
    · rename_i body
      obtain ⟨_,checked,asked⟩ := Fold.bind_ok asked
      exact asked_finish (bound_of_ok checked) body asked

theorem row_of_ingest (mem : e ∈ (ingestEvents S db id batch).2.events) :
    e ∈ db.events ∨ ∃ item ∈ batch, e = sealedRow S id item.1 item.2 := by
  unfold ingestEvents at mem
  split at mem
  · exact .inl mem
  split at mem
  · exact .inl mem
  split at mem
  · exact .inl mem
  rename_i acc ok
  refine Fold.foldlM_invariant (I := fun acc => ∀ e ∈ acc.events, e ∈ db.events ∨
    ∃ item ∈ batch, e = sealedRow S id item.1 item.2) (fun _ => .inl) ?_ ok e mem
  intro acc item acc' inside before one e mem
  unfold ingestOne at one
  split at one
  · split at one
    · cases one
      exact before e mem
    · cases one
  cases one
  rcases mem_append.mp mem with old | new
  · exact before e old
  · exact .inr ⟨item,inside,mem_singleton.mp new⟩

theorem session_of_change (change : Change S db call db') (mem : s ∈ db'.sessions) :
    (∃ t ∈ db.sessions, s.start = t.start ∧
      (s.endedAt = t.endedAt ∧ s.complete = t.complete ∧ s.lastSeq = t.lastSeq ∨
        ∃ endedAt claimed, call = .finish t.id endedAt claimed s.lastSeq ∧
          s.endedAt = S.clock.format endedAt ∧ (s.complete → claimed))) ∨
    ∃ given now startedAt, call = .start given now ∧ s.start = { given with startedAt := startedAt } ∧
      s.endedAt = "" ∧ db'.events = db.events ∧ ∀ t ∈ db.sessions, t.id ≠ s.id := by
  cases change with
  | same => exact .inl ⟨s,mem,rfl,.inl ⟨rfl,rfl,rfl⟩⟩
  | started given now startedAt fresh =>
    rcases mem_append.mp mem with old | new
    · exact .inl ⟨s,old,rfl,.inl ⟨rfl,rfl,rfl⟩⟩
    · rw [mem_singleton.mp new]
      exact .inr ⟨given,now,startedAt,rfl,rfl,rfl,rfl,fresh⟩
  | ingested t batch rows memT opened made keys =>
    rcases mem_updateWhere.mp mem with ⟨old,memOld,_,rfl⟩ | ⟨memS,_⟩
    · exact .inl ⟨old,memOld,rfl,.inl ⟨rfl,rfl,rfl⟩⟩
    · exact .inl ⟨s,memS,rfl,.inl ⟨rfl,rfl,rfl⟩⟩
  | finished t endedAt claimed lastSeq memT opened high =>
    rcases mem_updateWhere.mp mem with ⟨old,memOld,hit,rfl⟩ | ⟨memS,_⟩
    · refine .inl ⟨old,memOld,rfl,.inr ⟨endedAt,claimed,?_,rfl,?_⟩⟩
      · rw [(openSession_iff.mp hit).1]
        rfl
      · intro complete
        simp only [Session.finish,Bool.and_eq_true] at complete
        exact complete.1.1
    · exact .inl ⟨s,memS,rfl,.inl ⟨rfl,rfl,rfl⟩⟩

theorem bound_change (sound : Sound S calls db) (change : Change S db call db')
    (bound : Bound db id c) : Bound db' id c := by
  obtain ⟨s,mem,isID,matched⟩ := bound
  have steady := steady_change S change
  obtain ⟨t,there,same⟩ := steady.kept s mem
  rcases steady.same t there with ⟨old,memOld,isOld,start⟩ | new
  · rw [unique_row sound.ids memOld mem (isOld.trans same)] at start
    exact ⟨t,there,same.trans isID,start ▸ matched⟩
  · exact absurd same.symm (new s mem)

theorem row_of_change (change : Change S db call db') (result : db' = call.apply S failed db)
    (mem : e ∈ db'.events) : e ∈ db.events ∨ ∃ id batch, call = .ingest id batch ∧
      ∃ item ∈ batch, e = sealedRow S id item.1 item.2 := by
  cases change with
  | same | started | finished => exact .inl mem
  | ingested t batch =>
    rw [result] at mem
    cases failed with
    | true => exact .inl mem
    | false =>
      rcases row_of_ingest mem with old | new
      · exact .inl old
      · exact .inr ⟨t.id,batch,rfl,new⟩

variable (S T) in
structure Held (minted : Claims → Prop) (requests : List Request) (w : Server) : Prop where
  sound : ∃ calls, Sound S calls w.db
  owned : ∀ s ∈ w.db.sessions, ∃ c, minted c ∧ OwnedBy S T requests w.db s c
  asked : ∀ r call, (r,call) ∈ w.waiting → r ∈ requests ∧ ∃ c, r.carries T c ∧ Asked S T w.db r c call

theorem OwnedBy.mono (owned : OwnedBy S T requests db s c) (more : List Request) :
    OwnedBy S T (requests ++ more) db s c := by
  refine ⟨owned.claims,?_,?_⟩
  · intro e mem
    obtain ⟨r,among,sent⟩ := owned.events e mem
    exact ⟨r,mem_append_left _ among,sent⟩
  · intro ended
    obtain ⟨r,among,sent⟩ := owned.finish ended
    exact ⟨r,mem_append_left _ among,sent⟩

theorem Asked.mono (asked : Asked S T db r c call) (kept : ∀ id, Bound db id c → Bound db' id c) :
    Asked S T db' r c call := by
  cases call with
  | start given now => exact asked
  | ingest id batch | finish id endedAt claimed lastSeq => exact ⟨kept id asked.1,asked.2⟩

section
variable {minted : Claims → Prop} {w w' : Server} {place : Nat}
  (unforgeable : ∀ token now c, verify T token now = .ok c → minted c)
  (unique : ∀ a b, minted a → minted b → a.jti = b.jti → a = b)
include unforgeable unique

/-- Two tokens that match one session are one token. -/
theorem same_claims (sound : Sound S calls db) (mem : s ∈ db.sessions)
    (matched : sessionMatchesClaims s.start own) (made : minted own) (carried : r.carries T c)
    (bound : Bound db s.id c) : c = own := by
  obtain ⟨t,memT,isID,bound⟩ := bound
  obtain ⟨token,now,_,accepted⟩ := carried
  rw [unique_row sound.ids memT mem isID] at bound
  simp only [sessionMatchesClaims,Bool.and_eq_true,beq_iff_eq] at matched bound
  exact unique _ _ (unforgeable token now c accepted) made (bound.2.symm.trans matched.2)

theorem held_write (held : Held S T minted requests w) (waits : w.waiting[place]? = some (r,call)) :
    Held S T minted requests ⟨call.apply S failed w.db,w.waiting.eraseIdx place⟩ := by
  obtain ⟨calls,sound⟩ := held.sound
  obtain ⟨among,c,carried,asked⟩ := held.asked r call (mem_of_getElem? waits)
  have step : Step S w.db (call,failed) (call.apply S failed w.db) := rfl
  have change := change_step S sound.keys step
  refine ⟨⟨_,sound_step S sound step⟩,?_,?_⟩
  · intro s mem
    rcases session_of_change change mem with ⟨t,memT,isT,ending⟩ |
      ⟨given,now,startedAt,rfl,isGiven,opened,events,fresh⟩
    · obtain ⟨own,made,owned⟩ := held.owned t memT
      have isID : s.id = t.id := congrArg SessionStart.sessionID isT
      have mine := same_claims unforgeable unique sound memT owned.claims made carried
      refine ⟨own,made,by rw [isT]; exact owned.claims,?_,?_⟩
      · intro e stored
        obtain ⟨inside,isSession⟩ := mem_eventsOf.mp stored
        rw [isID] at isSession ⊢
        rcases row_of_change change rfl inside with old | ⟨id,batch,rfl,item,inBatch,rfl⟩
        · exact owned.events e (mem_eventsOf.mpr ⟨old,isSession⟩)
        · obtain rfl : id = t.id := isSession
          rw [← mine asked.1]
          exact ⟨r,among,carried,item.1,item.2,asked.2 item inBatch,rfl⟩
      · intro ended
        rcases ending with ⟨sameEnd,sameFlag,sameLast⟩ | ⟨endedAt,claimed,rfl,isEnd,flag⟩
        · rw [sameEnd] at ended
          rw [sameEnd,sameFlag,sameLast]
          exact owned.finish ended
        · rw [← mine asked.1]
          exact ⟨r,among,carried,endedAt,claimed,asked.2,isEnd,flag⟩
    · obtain ⟨token,now,_,accepted⟩ := carried
      refine ⟨c,unforgeable token now c accepted,by rw [isGiven]; exact asked,?_,?_⟩
      · intro e stored
        obtain ⟨inside,isSession⟩ := mem_eventsOf.mp stored
        rw [events] at inside
        obtain ⟨t,memT,isT⟩ := sound.known e inside
        exact absurd (isT.trans isSession) (fresh t memT)
      · intro ended
        exact absurd opened ended
  · intro r₂ call₂ waiting
    obtain ⟨known,c₂,carried₂,asked₂⟩ := held.asked r₂ call₂ (mem_of_mem_eraseIdx waiting)
    exact ⟨known,c₂,carried₂,asked₂.mono fun id => bound_change sound change⟩

theorem untouched_write (held : Held S T minted requests w) (waits : w.waiting[place]? = some (r,call))
    (mem : s ∈ w.db.sessions) (owned : OwnedBy S T requests w.db s c) (made : minted c)
    (apart : ¬ r.carries T c) : s ∈ (call.apply S failed w.db).sessions ∧
      eventsOf (call.apply S failed w.db) s.id = eventsOf w.db s.id := by
  obtain ⟨calls,sound⟩ := held.sound
  obtain ⟨among,other,carried,asked⟩ := held.asked r call (mem_of_getElem? waits)
  have foreign : ¬ Bound w.db s.id other := by
    intro bound
    rw [same_claims unforgeable unique sound mem owned.claims made carried bound] at carried
    exact apart carried
  have step : Step S w.db (call,failed) (call.apply S failed w.db) := rfl
  refine apart_change S (change_step S sound.keys step) mem ?_
  rintro t memT opened (⟨batch,rfl⟩ | ⟨_,_,_,rfl⟩) same
  · exact foreign (same ▸ asked.1)
  · exact foreign (same ▸ asked.1)

theorem held_step (held : Held S T minted requests w) (taken : ServerStep S T w r w') :
    Held S T minted (requests ++ [r]) w' := by
  have more : ∀ {w}, Held S T minted requests w → Held S T minted (requests ++ [r]) w := by
    intro w held
    refine ⟨held.sound,?_,?_⟩
    · intro s mem
      obtain ⟨c,made,owned⟩ := held.owned s mem
      exact ⟨c,made,owned.mono _⟩
    · intro r call waits
      obtain ⟨among,asked⟩ := held.asked r call waits
      exact ⟨mem_append_left _ among,asked⟩
  cases taken with
  | accepted now stamps ok =>
    refine ⟨held.sound,(more held).owned,?_⟩
    intro r₂ call₂ waits
    rcases mem_cons.mp waits with new | old
    · cases new
      exact ⟨mem_append_right _ mem_cons_self,asked_of_handle ok⟩
    · exact (more held).asked r₂ call₂ old
  | ended => exact more held
  | written place failed waits => exact more (held_write unforgeable unique held waits)

/-- What is stored of a session came with the one token it has the claims of. -/
theorem token_reaches_its_session_only (run : Run (ServerStep S T) ⟨emptyDB,[]⟩ requests w) :
    ∀ s ∈ w.db.sessions, ∃ c, minted c ∧ OwnedBy S T requests w.db s c ∧
      ∀ r w', ServerStep S T w r w' → ¬ r.carries T c →
        s ∈ w'.db.sessions ∧ eventsOf w'.db s.id = eventsOf w.db s.id := by
  have held : Held S T minted requests w := by
    induction run with
    | start => exact ⟨⟨[],sound_run S (.start _)⟩,by simp [emptyDB],by simp⟩
    | next _ taken ih => exact held_step unforgeable unique ih taken
  intro s mem
  obtain ⟨c,made,owned⟩ := held.owned s mem
  refine ⟨c,made,owned,?_⟩
  intro r w' taken apart
  cases taken with
  | accepted | ended => exact ⟨mem,rfl⟩
  | written place failed waits =>
    exact untouched_write unforgeable unique held waits mem owned made apart

end

def sampleClaims : Claims :=
  ⟨"6ba7b810-9dad-11d1-80b4-00c04fd430c8","user","g","scope","host","terminal_io","host",0,900,3600,
    "000102030405060708090a0b0c0d0e0f","k"⟩

/-- The key has signed one token. -/
def sampleTokens : Tokens :=
  ⟨"k",fun _ => [1],fun _ => some [1],fun _ => some [65],fun _ => some sampleClaims,fun _ => true⟩

def sampleRequest (body : Body) : Request := ⟨some "pit1.eyJ9.AQ",sampleClaims.sessionID,body⟩

def sampleOpening : Body :=
  .start (some ⟨sampleClaims.sessionID,"user","","g","scope","host","terminal_io",""⟩)

def sampleOutput : Body := .events (some [⟨1,sampleClaims.sessionID,1,0,"o","QQ==",0,0,0⟩])

theorem authenticated_sample : authenticated sampleTokens (sampleRequest body) 0 = .ok sampleClaims := by
  have verified : verify sampleTokens "pit1.eyJ9.AQ" 0 = .ok sampleClaims := by decide +kernel
  rfl

theorem minted_of_sample (ok : verify sampleTokens token now = .ok c) : c = sampleClaims := by
  unfold verify at ok
  repeat' split at ok
  all_goals cases ok
  rename_i given _ _ _ _
  exact (Option.some.inj given).symm

/-- The lifetime in nanoseconds wraps around to one that is short enough. -/
def lifetimeWraps (iat exp : Int) : Prop :=
  604800 < exp-iat ∧ wrapInt64 (seconds (exp-iat)) ≤ seconds 604800

def Claims.bounded (c : Claims) : Prop :=
  0 < c.expires-c.issuedAt ∧ c.expires-c.issuedAt ≤ 604800 ∧ c.issuedAt < c.startBy ∧ c.startBy ≤ c.expires

def timedClaims (iat sby exp : Int) : Claims :=
  { sampleClaims with issuedAt := iat, startBy := sby, expires := exp }

theorem wrap_lifetime (n : Int) : wrapInt64 (seconds (wrapInt64 n)) = wrapInt64 (seconds n) := by
  unfold wrapInt64 seconds second
  omega

theorem times_of_valid (valid : validateClaims T c = true) : c.issuedAt < c.expires ∧
    wrapInt64 (seconds (c.expires-c.issuedAt)) ≤ seconds 604800 ∧ c.issuedAt < c.startBy ∧
    c.startBy ≤ c.expires := by
  unfold validateClaims at valid
  rw [wrap_lifetime] at valid
  simp only [Bool.and_eq_true,decide_eq_true_eq] at valid
  exact ⟨valid.1.1.1.2,valid.1.1.2,valid.1.2,valid.2⟩

theorem valid_of_times (after : iat < exp) (short : wrapInt64 (seconds (exp-iat)) ≤ seconds 604800)
    (opens : iat < sby) (closes : sby ≤ exp) :
    validateClaims sampleTokens (timedClaims iat sby exp) = true := by
  have named : validateClaims sampleTokens sampleClaims = true := by decide +kernel
  unfold validateClaims at named ⊢
  rw [wrap_lifetime]
  simp only [Bool.and_eq_true,decide_eq_true_eq] at named ⊢
  exact ⟨⟨⟨⟨named.1.1.1.1,after⟩,short⟩,opens⟩,closes⟩

theorem valid_of_verify (ok : verify T token now = .ok c) :
    validateClaims T c = true ∧ now-clockSkew ≤ unixTime c.expires := by
  unfold verify at ok
  repeat' split at ok
  all_goals cases ok
  rename_i valid _ current
  exact ⟨not_not.mp valid,not_lt.mp current⟩

theorem unixTime_le (n : Int64) : unixTime n.toInt ≤ seconds n.toInt := by
  have low := n.le_toInt
  unfold unixTime seconds second wrapInt64
  omega

/-- A lifetime is bounded unless the product with a second wraps around. -/
theorem token_lifetime_bounded_iff (iat sby exp : Int64) :
    (∀ T c, c.issuedAt = iat.toInt → c.startBy = sby.toInt → c.expires = exp.toInt →
      (validateClaims T c = true → c.bounded) ∧
      ∀ token now, verify T token now = .ok c → now ≤ seconds (c.issuedAt+604800)+clockSkew) ↔
    ¬ (lifetimeWraps iat.toInt exp.toInt ∧ iat.toInt < sby.toInt ∧ sby.toInt ≤ exp.toInt) := by
  constructor
  · intro bound ⟨⟨long,short⟩,opens,closes⟩
    have valid := valid_of_times (by omega) short opens closes
    exact absurd ((bound sampleTokens _ rfl rfl rfl).1 valid).2.1 (not_le.mpr long)
  · intro unwrapped T c issued starts ends
    have lifetime (valid : validateClaims T c = true) : c.bounded := by
      obtain ⟨after,short,opens,closes⟩ := times_of_valid valid
      refine ⟨by omega,?_,opens,closes⟩
      by_contra long
      rw [issued,starts,ends] at *
      exact unwrapped ⟨⟨not_le.mp long,short⟩,opens,closes⟩
    refine ⟨lifetime,?_⟩
    intro token now ok
    obtain ⟨valid,current⟩ := valid_of_verify ok
    have short := (lifetime valid).2.1
    have early := unixTime_le exp
    rw [ends] at current short
    unfold seconds second at *
    omega

theorem lifetime_fits (fits : exp-iat ≤ 9223372036) : ¬ lifetimeWraps iat exp := by
  rintro ⟨long,short⟩
  have least : 0 ≤ seconds (exp-iat) := by
    unfold seconds second
    omega
  have most : seconds (exp-iat) ≤ Go.maxInt64 := by
    unfold seconds second Go.maxInt64
    omega
  rw [Go.wrapInt64_of_fits least most] at short
  unfold seconds second at short
  omega

/-- A token is good for 292 years: a lifetime of 9223372037 seconds is negative in nanoseconds. -/
theorem overlong_token_is_accepted :
    let c := { sampleClaims with expires := 9223372037 }
    let T := { sampleTokens with claims := fun _ => some c }
    validateClaims T c = true ∧ ¬ c.expires-c.issuedAt ≤ 604800 ∧
      verify T "pit1.eyJ9.AQ" (seconds c.expires) = .ok c ∧
      seconds (c.issuedAt+604800)+clockSkew < seconds c.expires := by
  decide +kernel

theorem token_reaches_its_session_only_of_one_event :
    let requests := [sampleOpening,sampleOpening,sampleOutput,sampleOutput].map sampleRequest
    ∃ w, Run (ServerStep sampleSetup sampleTokens) ⟨emptyDB,[]⟩ requests w ∧
      w.db.events.map EventRow.seq = [1] ∧ ∀ s ∈ w.db.sessions, ∃ c, c = sampleClaims ∧
        OwnedBy sampleSetup sampleTokens requests w.db s c ∧
        ∀ r w', ServerStep sampleSetup sampleTokens w r w' → ¬ r.carries sampleTokens c →
          s ∈ w'.db.sessions ∧ eventsOf w'.db s.id = eventsOf w.db s.id := by
  let stamps : Nat → Stamp := fun _ => ⟨[],0⟩
  have one : Run (ServerStep sampleSetup sampleTokens) _ [sampleRequest sampleOpening] _ :=
    Run.next (Run.start ⟨emptyDB,[]⟩) (.accepted 0 stamps (by rw [handle,authenticated_sample]; rfl))
  have two := Run.next one (.written 0 false rfl)
  have three : Run (ServerStep sampleSetup sampleTokens) _ (_ ++ [sampleRequest sampleOutput]) _ :=
    Run.next two (.accepted 0 stamps (by rw [handle,authenticated_sample]; rfl))
  have run := Run.next three (.written 0 false rfl)
  exact ⟨_,run,by decide +kernel,token_reaches_its_session_only (fun _ _ _ => minted_of_sample)
    (fun _ _ isA isB _ => isA.trans isB.symm) run⟩

end
end Pilot.Sessions

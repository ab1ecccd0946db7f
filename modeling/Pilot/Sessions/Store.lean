import Pilot.Library.Go
import Pilot.Library.Table
import Pilot.Library.Transition
import Pilot.Sessions.Gaps

/-!
The session store of `internal/sessionstore/store.go`: an index of recorded
sessions and their sealed events. Every write method is one immediate
transaction, so it is one function of the tables here; an error leaves them
as they were. The cipher, SHA-256 and the texts of instants are parameters.
-/
namespace Pilot.Sessions
open Pilot.Table Pilot.Transition

export Go (Bytes second wrapInt64)

/-- AES-GCM under the store's key: what was sealed can be opened again. -/
structure Encryptor where
  keyID : String
  seals : (nonce : Bytes) → (aad : String) → (plaintext : Bytes) → Bytes
  opens : (nonce : Bytes) → (aad : String) → (ciphertext : Bytes) → Option Bytes
  opens_seals : ∀ nonce aad plaintext, opens nonce aad (seals nonce aad plaintext) = some plaintext

/-- RFC3339Nano, whose texts are never empty. -/
structure NanoClock where
  format : Int → String
  parse : String → Option Int
  format_ne : ∀ t, format t ≠ ""

structure Setup where
  enc : Encryptor
  sha256 : String → String
  clock : NanoClock

def zeroTime : Int := -62135596800 * 1000000000

structure SessionStart where
  (sessionID user directoryID gatewayID scope target recordingMode : String)
  startedAt : Int
  (recordingPolicySource ingestJTI : String)
  deriving DecidableEq, Repr

structure Session where
  start : SessionStart
  (keyID endedAt : String)
  complete : Bool
  (bytes eventCount : Nat)
  lastSeq : UInt64
  deriving DecidableEq, Repr

structure IngestEvent where
  seq : UInt64
  stream : String
  offsetNanos : Int
  data : Bytes
  (rows cols redactedBytes : Int)
  deriving DecidableEq, Repr

structure EventRow where
  sessionID : String
  seq : UInt64
  stream : String
  (offsetNanos rows cols redactedBytes : Int)
  (nonce ciphertext : Bytes)
  (payloadSha256 createdAt : String)
  deriving DecidableEq, Repr

structure DB where
  sessions : List Session
  events : List EventRow
  deriving DecidableEq, Repr

def Session.id (s : Session) : String := s.start.sessionID

def EventRow.key (e : EventRow) : String × UInt64 := (e.sessionID,e.seq)

def ofSession (sessionID : String) (s : Session) : Bool := s.id == sessionID

def atSeq (sessionID : String) (seq : UInt64) (e : EventRow) : Bool := e.key == (sessionID,seq)

def inSession (sessionID : String) (e : EventRow) : Bool := e.sessionID == sessionID

def errUnknownSession : String := "sessionstore: unknown session"
def errSessionConflict : String := "sessionstore: session already started with different metadata"
def errEventConflict : String := "sessionstore: event payload conflict for existing sequence"
def errSessionFinished : String := "sessionstore: session already finished"
def errLastSeqTooLow : String := "sessionstore: finish last_seq below a stored event seq"

/-- The columns a repeated start has to agree on. -/
def SessionStart.sameMetadata (a b : SessionStart) : Bool :=
  a.user == b.user && a.target == b.target && a.scope == b.scope && a.gatewayID == b.gatewayID &&
    a.directoryID == b.directoryID && a.recordingMode == b.recordingMode &&
    a.recordingPolicySource == b.recordingPolicySource && a.ingestJTI == b.ingestJTI

variable (S : Setup)

def startSession (db : DB) (start : SessionStart) (now : Int) : Except String Unit × DB :=
  if start.sessionID = "" then (.error "sessionstore: session_id is required",db)
  else
    match db.sessions.find? (ofSession start.sessionID) with
    | some existing =>
      if existing.endedAt ≠ "" then (.error errSessionFinished,db)
      else if existing.start.sameMetadata start then (.ok (),db)
      else (.error errSessionConflict,db)
    | none =>
      let startedAt := if start.startedAt = zeroTime then now else start.startedAt
      (.ok (),{ db with sessions := db.sessions ++
        [⟨{ start with startedAt := startedAt },S.enc.keyID,"",false,0,0,0⟩] })

def hexText (bytes : Bytes) : String :=
  String.ofList (bytes.flatMap (fun b =>
    [Nat.digitChar (b.toNat / 16),Nat.digitChar (b.toNat % 16)]))

def payloadText (ev : IngestEvent) : String :=
  s!"{ev.stream}|{ev.offsetNanos}|{ev.rows}|{ev.cols}|{ev.redactedBytes}|{hexText ev.data}"

def payloadHash (ev : IngestEvent) : String := S.sha256 (payloadText ev)

def aad (sessionID : String) (seq : UInt64) (stream : String) : String :=
  s!"{sessionID.utf8ByteSize}:{sessionID}|{seq}|{stream.utf8ByteSize}:{stream}"

structure Stamp where
  nonce : Bytes
  now : Int
  deriving DecidableEq, Repr

def sealedRow (sessionID : String) (ev : IngestEvent) (stamp : Stamp) : EventRow :=
  ⟨sessionID,ev.seq,ev.stream,ev.offsetNanos,ev.rows,ev.cols,ev.redactedBytes,stamp.nonce,
    S.enc.seals stamp.nonce (aad sessionID ev.seq ev.stream) ev.data,payloadHash S ev,
    S.clock.format stamp.now⟩

structure Ingest where
  events : List EventRow
  (accepted duplicate addedBytes addedCount : Nat)

def ingestOne (sessionID : String) (acc : Ingest) (item : IngestEvent × Stamp) :
    Except String Ingest :=
  match acc.events.find? (atSeq sessionID item.1.seq) with
  | some row =>
    if row.payloadSha256 = payloadHash S item.1 then
      .ok { acc with duplicate := acc.duplicate + 1 }
    else .error s!"{errEventConflict}: session={sessionID} seq={item.1.seq}"
  | none =>
    .ok ⟨acc.events ++ [sealedRow S sessionID item.1 item.2],acc.accepted + 1,acc.duplicate,
      acc.addedBytes + item.1.data.length,acc.addedCount + 1⟩

structure IngestOutcome where
  (accepted duplicate : Nat)
  deriving DecidableEq, Repr

def Session.addEvents (addedBytes addedCount : Nat) (s : Session) : Session :=
  { s with bytes := s.bytes + addedBytes, eventCount := s.eventCount + addedCount }

def ingestEvents (db : DB) (sessionID : String) (batch : List (IngestEvent × Stamp)) :
    Except String IngestOutcome × DB :=
  match db.sessions.find? (ofSession sessionID) with
  | none => (.error errUnknownSession,db)
  | some summary =>
    if summary.endedAt ≠ "" then (.error errSessionFinished,db)
    else
      match batch.foldlM (ingestOne S sessionID) ⟨db.events,0,0,0,0⟩ with
      | .error err => (.error err,db)
      | .ok acc =>
        (.ok ⟨acc.accepted,acc.duplicate⟩,
          { sessions :=
              if 0 < acc.addedCount then
                updateWhere (ofSession sessionID) (Session.addEvents acc.addedBytes acc.addedCount)
                  db.sessions
              else db.sessions
            events := acc.events })

structure FinishResult where
  (repeated complete : Bool)
  gapRanges : Nat
  deriving DecidableEq, Repr

def eventSeqs (db : DB) (sessionID : String) : List UInt64 :=
  (db.events.filter (inSession sessionID)).map EventRow.seq

def openSession (sessionID : String) (s : Session) : Bool := s.id == sessionID && s.endedAt == ""

def Session.finish (endedAt : String) (complete : Bool) (lastSeq : UInt64) (s : Session) : Session :=
  { s with endedAt := endedAt, complete := complete, lastSeq := lastSeq }

def finishSession (db : DB) (sessionID : String) (endedAt : Int) (claimed : Bool)
    (lastSeq : UInt64) : Except String FinishResult × DB :=
  if endedAt = zeroTime then (.error "sessionstore: ended_at is required",db)
  else
    match db.sessions.find? (ofSession sessionID) with
    | none => (.error errUnknownSession,db)
    | some summary =>
      if summary.endedAt ≠ "" then
        if (S.clock.parse summary.endedAt).getD zeroTime = endedAt ∧ summary.lastSeq = lastSeq then
          (.ok ⟨true,summary.complete,0⟩,db)
        else (.error errSessionFinished,db)
      else
        let seqs := eventSeqs db sessionID
        if lastSeq < maxSeq seqs then
          (.error s!"{errLastSeqTooLow}: last_seq={lastSeq}, stored max seq={maxSeq seqs}",db)
        else
          let gaps := gapsUpTo seqs lastSeq
          let complete := claimed && maxSeq seqs == lastSeq && gaps.isEmpty
          if db.sessions.countP (openSession sessionID) ≠ 1 then (.error errSessionFinished,db)
          else
            let finish := Session.finish (S.clock.format endedAt) complete lastSeq
            (.ok ⟨false,complete,gaps.length⟩,
              { db with sessions := updateWhere (openSession sessionID) finish db.sessions })

inductive Call where
  | start (given : SessionStart) (now : Int)
  | ingest (sessionID : String) (batch : List (IngestEvent × Stamp))
  | finish (sessionID : String) (endedAt : Int) (claimed : Bool) (lastSeq : UInt64)

/-- What a call does to the tables; a statement that fails rolls it back. A seq
    above the signed range, which the driver does not bind, is such a failure. -/
def Call.apply (call : Call) (failed : Bool) (db : DB) : DB :=
  if failed then db
  else
    match call with
    | .start given now => (startSession S db given now).2
    | .ingest sessionID batch => (ingestEvents S db sessionID batch).2
    | .finish sessionID endedAt claimed lastSeq =>
      (finishSession S db sessionID endedAt claimed lastSeq).2

/-- The calls of any number of clients, one transaction after the other. -/
def Step (db : DB) (label : Call × Bool) (db' : DB) : Prop := db' = label.1.apply S label.2 db

def emptyDB : DB := ⟨[],[]⟩

end Pilot.Sessions

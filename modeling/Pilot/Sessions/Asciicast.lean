import Pilot.Library.Utf8
import Pilot.Sessions.Store

/-!
The asciicast export of `internal/sessionrecording/asciicast.go`. The data of an
event is decoded behind what the last event of its stream has left undecided.
So the text of a stream depends on its bytes alone, and not on the events they
were cut into.
-/
namespace Pilot.Sessions
open Pilot.Utf8 List

structure ExportEvent where
  seq : UInt64
  stream : String
  offsetNanos : Int
  data : Bytes
  (rows cols redactedBytes : Int)
  deriving DecidableEq

structure ExportGap where
  (fromSeq toSeq : UInt64)
  deriving DecidableEq

structure ExportSession where
  sessionID : String
  startedAt : Int
  complete : Bool
  gaps : List ExportGap
  events : List ExportEvent

inductive TextCode where
  | o
  | i
  deriving DecidableEq

inductive Code where
  | text (code : TextCode)
  | m
  | r
  deriving DecidableEq

structure Line where
  time : Int
  code : Code
  data : List Char
  deriving DecidableEq

structure Header where
  (width height timestamp : Int)
  title : String

structure AsciicastWriter where
  lines : List Line
  pending : TextCode → Bytes

namespace AsciicastWriter

def line (x : AsciicastWriter) (time : Int) (code : Code) (data : List Char) : AsciicastWriter :=
  { x with lines := x.lines ++ [⟨time,code,data⟩] }

def text (x : AsciicastWriter) (time : Int) (code : TextCode) (data : Bytes) : AsciicastWriter :=
  let (decoded,rest) := decode (x.pending code ++ data)
  let y := { x with pending := Function.update x.pending code rest }
  if decoded = [] then y else y.line time (.text code) decoded

def flush (time : Int) (x : AsciicastWriter) (code : TextCode) : AsciicastWriter :=
  if x.pending code = [] then x
  else { x.line time (.text code) [runeError] with pending := Function.update x.pending code [] }

def flushPending (x : AsciicastWriter) (time : Int) : AsciicastWriter := [.o,.i].foldl (flush time) x

def gap (x : AsciicastWriter) (time : Int) (g : ExportGap) : AsciicastWriter :=
  (x.flushPending time).line time .m s!"pilot: gap seq {g.fromSeq}-{g.toSeq}".toList

def event (x : AsciicastWriter) (ev : ExportEvent) : AsciicastWriter :=
  if ev.stream = "tty_output" then x.text ev.offsetNanos .o ev.data
  else if ev.stream = "tty_input" then
    if 0 < ev.redactedBytes then
      x.line ev.offsetNanos .m s!"pilot: input redacted ({ev.redactedBytes} bytes)".toList
    else x.text ev.offsetNanos .i ev.data
  else if ev.stream = "resize" then x.line ev.offsetNanos .r s!"{ev.cols}x{ev.rows}".toList
  else x

/-- The gaps before the event, and the event. -/
def step (acc : AsciicastWriter × List ExportGap) (ev : ExportEvent) : AsciicastWriter × List ExportGap :=
  let due := acc.2.takeWhile (fun g => decide (g.toSeq < ev.seq))
  ((due.foldl (fun x g => x.gap ev.offsetNanos g) acc.1).event ev,acc.2.drop due.length)

end AsciicastWriter

def size (events : List ExportEvent) : Int × Int :=
  match events.find? (fun ev => decide (ev.stream = "resize" ∧ 0 < ev.rows ∧ 0 < ev.cols)) with
  | some ev => (ev.cols,ev.rows)
  | none => (80,24)

def lastTime (events : List ExportEvent) : Int := (events.getLast?.map ExportEvent.offsetNanos).getD 0

def writeAsciicastV2 (s : ExportSession) : Header × List Line :=
  let (width,height) := size s.events
  let header : Header := ⟨width,height,s.startedAt,"pilot session " ++ s.sessionID⟩
  let x : AsciicastWriter := ⟨[],fun _ => []⟩
  let x := if s.complete then x else x.line 0 .m "pilot: RECORDING INCOMPLETE".toList
  let (x,gaps) := s.events.foldl AsciicastWriter.step (x,s.gaps)
  let x := gaps.foldl (fun x g => x.gap (lastTime s.events) g) x
  (header,(x.flushPending (lastTime s.events)).lines)

/-- The text that an export has of a stream. -/
def emitted (lines : List Line) (code : TextCode) : List Char :=
  (lines.filter (fun l => l.code == .text code)).flatMap Line.data

/-- The bytes that an event adds to a stream. -/
def ExportEvent.recorded (ev : ExportEvent) : TextCode → Bytes
  | .o => if ev.stream = "tty_output" then ev.data else []
  | .i => if ev.stream = "tty_input" ∧ ¬ 0 < ev.redactedBytes then ev.data else []

def recorded (events : List ExportEvent) (code : TextCode) : Bytes :=
  events.flatMap (fun ev => ev.recorded code)

namespace AsciicastWriter
variable {x : AsciicastWriter} {code : TextCode} {bytes : Bytes}

/-- The text of the stream so far, and the bytes that wait, are those of its bytes. -/
def Follows (x : AsciicastWriter) (code : TextCode) (bytes : Bytes) : Prop :=
  decode bytes = (emitted x.lines code,x.pending code)

theorem emitted_line (time : Int) (c : Code) (data : List Char) :
    emitted (x.line time c data).lines code = emitted x.lines code ++ if c = .text code then data else [] := by
  unfold emitted line
  rw [filter_append,flatMap_append,filter_singleton]
  by_cases here : c = .text code
  · simp [here]
  · simp [beq_eq_false_iff_ne.2 here,here]

section
variable (follows : Follows x code bytes)
include follows

theorem Follows.line (other : c ≠ .text code) (time : Int) (data : List Char) :
    Follows (x.line time c data) code bytes := by
  unfold Follows at follows ⊢
  rw [follows,emitted_line,if_neg other,append_nil]
  rfl

theorem Follows.text (time : Int) (c : TextCode) (data : Bytes) :
    Follows (x.text time c data) code (bytes ++ if c = code then data else []) := by
  have lines : emitted (x.text time c data).lines code =
      emitted x.lines code ++ if c = code then (decode (x.pending c ++ data)).1 else [] := by
    unfold AsciicastWriter.text
    dsimp only
    split
    · rename_i none_
      simp [none_]
    · rw [emitted_line]
      simp
  have pending : (x.text time c data).pending code =
      if c = code then (decode (x.pending c ++ data)).2 else x.pending code := by
    unfold AsciicastWriter.text
    dsimp only
    split <;> (unfold Function.update; simp [AsciicastWriter.line,eq_comm])
  unfold Follows at follows ⊢
  rw [lines,pending]
  by_cases here : c = code
  · subst here
    rw [if_pos rfl,if_pos rfl,if_pos rfl,decode_append,follows]
  · rw [if_neg here,if_neg here,if_neg here,append_nil,append_nil,follows]

theorem Follows.event (ev : ExportEvent) : Follows (x.event ev) code (bytes ++ ev.recorded code) := by
  have marks {c : Code} (other : ∀ code,c ≠ .text code) (data : List Char) (none_ : ev.recorded code = []) :
      Follows (x.line ev.offsetNanos c data) code (bytes ++ ev.recorded code) := by
    rw [none_,append_nil]
    exact follows.line (other code) _ _
  unfold AsciicastWriter.event
  split
  · rename_i output
    have here : ev.recorded code = if TextCode.o = code then ev.data else [] := by
      cases code <;> simp [ExportEvent.recorded,output]
    rw [here]
    exact follows.text _ _ _
  rename_i output
  split
  · rename_i input
    split
    · rename_i redacted
      exact marks (by simp) _ (by cases code <;> simp [ExportEvent.recorded,input,redacted])
    rename_i clear
    have here : ev.recorded code = if TextCode.i = code then ev.data else [] := by
      cases code <;> simp [ExportEvent.recorded,input,not_lt.1 clear]
    rw [here]
    exact follows.text _ _ _
  · rename_i input
    have none_ : ev.recorded code = [] := by
      cases code <;> simp [ExportEvent.recorded,output,input]
    split
    · exact marks (by simp) _ none_
    · rw [none_,append_nil]
      exact follows

theorem Follows.foldl (events : List ExportEvent) :
    ∃ y,events.foldl step (x,[]) = (y,[]) ∧ Follows y code (bytes ++ recorded events code) := by
  induction events generalizing x bytes with
  | nil => exact ⟨x,rfl,by simpa [recorded] using follows⟩
  | cons ev events ih =>
    obtain ⟨y,runs,followed⟩ := ih (follows.event ev)
    exact ⟨y,by simpa [step] using runs,by simpa [recorded,append_assoc] using followed⟩

end

theorem emitted_flushPending (time : Int) : emitted (x.flushPending time).lines code =
    emitted x.lines code ++ if x.pending code = [] then [] else [runeError] := by
  have one (y : AsciicastWriter) (c : TextCode) : emitted (y.flush time c).lines code =
      emitted y.lines code ++ if c = code ∧ y.pending c ≠ [] then [runeError] else [] := by
    unfold flush
    split
    · rename_i none_
      simp [none_]
    · rename_i waits
      rw [emitted_line]
      simp [waits]
  have other (c d : TextCode) (apart : c ≠ d) : (x.flush time c).pending d = x.pending d := by
    unfold flush
    split
    · rfl
    · exact Function.update_of_ne (Ne.symm apart) _ _
  unfold flushPending
  rw [foldl_cons,foldl_cons,foldl_nil,one,one,other .o .i nofun]
  cases code <;> by_cases waits : x.pending .o = [] <;> by_cases waits' : x.pending .i = [] <;> simp [waits,waits']

end AsciicastWriter

/-- The text of a byte string that ends: what waits at its end is one error. -/
def decodeAll (bytes : Bytes) : List Char :=
  (decode bytes).1 ++ if (decode bytes).2 = [] then [] else [runeError]

theorem emitted_writeAsciicastV2 (none_ : s.gaps = []) (code : TextCode) :
    emitted (writeAsciicastV2 s).2 code = decodeAll (recorded s.events code) := by
  have starts : AsciicastWriter.Follows (if s.complete then ⟨[],fun _ => []⟩ else
      AsciicastWriter.line ⟨[],fun _ => []⟩ 0 .m "pilot: RECORDING INCOMPLETE".toList) code [] := by
    have empty : AsciicastWriter.Follows ⟨[],fun _ => []⟩ code [] := by
      unfold AsciicastWriter.Follows
      rw [decode_none (by rfl)]
      rfl
    split
    · exact empty
    · exact empty.line (c := .m) nofun _ _
  obtain ⟨y,runs,follows⟩ := starts.foldl s.events
  unfold writeAsciicastV2 decodeAll
  dsimp only
  rw [none_,runs,foldl_nil,AsciicastWriter.emitted_flushPending]
  rw [nil_append] at follows
  rw [show decode _ = _ from follows]

/-- The text of a stream depends on its bytes, however they are cut into events, and it is the text
that was encoded in them if there is one. -/
theorem asciicast_text_of_bytes (s : ExportSession) (code : TextCode) (gapless : s.gaps = []) :
    (∀ s' : ExportSession,s'.gaps = [] → recorded s'.events code = recorded s.events code →
      emitted (writeAsciicastV2 s').2 code = emitted (writeAsciicastV2 s).2 code) ∧
    ∀ text,recorded s.events code = encode text → emitted (writeAsciicastV2 s).2 code = text := by
  constructor
  · intro s' gapless' same
    rw [emitted_writeAsciicastV2 gapless',emitted_writeAsciicastV2 gapless,same]
  intro text valid
  rw [emitted_writeAsciicastV2 gapless,valid]
  unfold decodeAll
  rw [decode_encode]
  exact append_nil text

/-- The two bytes of `é`, with a keystroke between them. -/
def splitSession : ExportSession where
  sessionID := "s1"
  startedAt := 0
  complete := true
  gaps := []
  events := [⟨1,"tty_output",0,[0xC3],0,0,0⟩,⟨2,"tty_input",1,[0x61],0,0,0⟩,⟨3,"tty_output",2,[0xA9],0,0,0⟩]

theorem split_character_is_joined :
    splitSession.gaps = [] ∧ recorded splitSession.events .o = encode ['é'] ∧
      emitted (writeAsciicastV2 splitSession).2 .o = ['é'] := by
  have bytes : recorded splitSession.events .o = encode ['é'] := by decide
  exact ⟨rfl,bytes,(asciicast_text_of_bytes splitSession .o rfl).2 _ bytes⟩

end Pilot.Sessions

import Pilot.Roster.Governance
import Pilot.Yaml.Path

/-!
Roster files as the inventory package reads them: a text that is not an
encrypted vault, parsed and decoded into a map.
-/
namespace Pilot.Roster
open Yaml

def errRosterEncrypted : String :=
  "inventory: roster file is ansible-vault encrypted, cannot inspect without a vault password"

def isVaultEncrypted (text : String) : Bool :=
  "$ANSIBLE_VAULT".toList.isPrefixOf (text.toList.dropWhile isSpace)

section
variable (Y : Library)

def wrapError {α : Type} (message : String) : Except String α → Except String α
  | .ok a => .ok a
  | .error err => .error (message ++ err)

def readRosterAsMap (path text : String) : Except String Fields :=
  if isVaultEncrypted text then .error errRosterEncrypted
  else wrapError s!"parse roster {path}: " do
    match ← Y.parse text with
    | none => return []
    | some top => decodeMap Y top

def unmarshalRoster (text : String) : Except String Fields := do
  match ← Y.parse text with
  | none => return []
  | some top => decodeMap Y top

end

/-- A file without aliases and its decoded roster. -/
structure RosterDocument (Y : Library) (text : String) (top : Node) (root : Fields) : Prop where
  unencrypted : isVaultEncrypted text = false
  parsed : Y.parse text = .ok (some top)
  decoded : decodeMap Y top = .ok root

structure Rereads (Y : Library) (n : Node) : Prop where
  unencrypted : isVaultEncrypted (Y.render n) = false
  parsed : Y.parse (Y.render n) = .ok (some n)

section
variable {Y : Library} {text : String} {top : Node} {root : Fields}

theorem wrapError_ok {α : Type} {x : Except String α} {a : α} :
    wrapError message x = .ok a ↔ x = .ok a := by
  cases x <;> simp [wrapError]

theorem RosterDocument.read (document : RosterDocument Y text top root) (path : String) :
    readRosterAsMap Y path text = .ok root := by
  rw [readRosterAsMap,document.unencrypted,document.parsed]
  simp [wrapError,bind,Except.bind,document.decoded]

theorem Rereads.document (rereads : Rereads Y top) (decoded : decodeMap Y top = .ok root) :
    RosterDocument Y (Y.render top) top root :=
  ⟨rereads.unencrypted,rereads.parsed,decoded⟩

theorem RosterDocument.unmarshal (document : RosterDocument Y text top root) :
    unmarshalRoster Y text = .ok root := by
  rw [unmarshalRoster,document.parsed]
  exact document.decoded

end

theorem rereads_of_lookup (text : String) (here : Y = fileLibrary files)
    (unencrypted : isVaultEncrypted text = false) (stored : files.lookup text = some n)
    (rendered : Y.render n = text) : Rereads Y n :=
  ⟨rendered ▸ unencrypted,rendered ▸ parse_of_lookup here stored⟩

end Pilot.Roster

import Mathlib.Data.List.Dedup
import Mathlib.Data.Rat.Floor
import Pilot.Library.Go

/-!
Decoded roster documents and the lenient accessors of
`internal/inventory/roster_validate.go`: a field of the wrong type reads as
an absent one. A Go map is its list of entries, looked up by the first entry
of a key, and a nil map is the empty one.
-/
namespace Pilot.Roster
open List

export Go (minInt64 maxInt64 wrapInt64 wrapInt64_of_fits isDigit digitsValue atoi isSpace isBlank trimSpace
  sortStrings mem_sortStrings)

inductive Float64 where
  | nan
  | inf (negative : Bool)
  | finite (q : ℚ)
  deriving DecidableEq

/-- What a YAML decoder stores in an `any`. Timestamps and mappings with keys
    that are not strings are kept by their Go type only. -/
inductive Value where
  | null
  | bool (b : Bool)
  | int (n : Int)
  | uint64 (n : Nat)
  | float64 (x : Float64)
  | string (s : String)
  | list (items : List Value)
  | map (entries : List (String × Value))
  | other (goType : String)

structure RosterViolation where
  (rule detail : String)
  deriving DecidableEq, Repr

abbrev Fields := List (String × Value)

def field (m : Fields) (key : String) : Option Value :=
  (m.find? (fun e => e.1 == key)).map Prod.snd

def asMap : Option Value → Fields
  | some (.map entries) => entries
  | _ => []

def asList : Option Value → List Value
  | some (.list items) => items
  | _ => []

def asString : Option Value → String
  | some (.string s) => s
  | _ => ""

def mapField (m : Fields) (key : String) : Fields := asMap (field m key)

def listField (m : Fields) (key : String) : List Value := asList (field m key)

def stringField (m : Fields) (key : String) : String := asString (field m key)

theorem mapField_of_missing (missing : field m key = none) : mapField m key = [] := by
  rw [mapField,missing]
  rfl

theorem listField_of_missing (missing : field m key = none) : listField m key = [] := by
  rw [listField,missing]
  rfl

def stringOf : Value → Option String
  | .string s => some s
  | _ => none

def stringListField (m : Fields) (key : String) : List String :=
  (listField m key).filterMap stringOf

def boolFieldDefault (m : Fields) (key : String) (default : Bool) : Bool :=
  match field m key with
  | some (.bool b) => b
  | _ => default

def stateOrDefault (m : Fields) (default : String) : String :=
  if stringField m "state" = "" then default else stringField m "state"

def labelOf (m : Fields) : String :=
  if stringField m "name" = "" then "unnamed" else stringField m "name"

def unknownKeys (m : Fields) (allowed : List String) : List String :=
  sortStrings ((m.map Prod.fst).filter (fun k => !allowed.contains k))

/-- The items of a list that are mappings; any other item reads as an empty one. -/
def maps (items : List Value) : List Fields := items.map (fun item => asMap (some item))

def namesOf (items : List Value) : List String :=
  (maps items).map (fun m => stringField m "name")

def namesWithCategoryFunc (items : List Value) (keep : String → Bool) : List String :=
  ((maps items).filter (fun m => keep (stringField m "category"))).map
    (fun m => stringField m "name")

def namesWithCategory (items : List Value) (category : String) : List String :=
  namesWithCategoryFunc items (fun c => c == category)

def findDuplicates (names : List String) : List String :=
  sortStrings (names.dedup.filter (fun n => decide (1 < names.count n)))

theorem findDuplicates_nil : findDuplicates names = [] ↔ names.Nodup := by
  have empty : findDuplicates names = [] ↔
      names.dedup.filter (fun n => decide (1 < names.count n)) = [] := by
    rw [← length_eq_zero_iff,findDuplicates,sortStrings,length_insertionSort,length_eq_zero_iff]
  rw [empty,filter_eq_nil_iff,nodup_iff_count_le_one]
  constructor
  · intro few n
    by_cases mem : n ∈ names
    · simpa using few n (mem_dedup.mpr mem)
    · rw [count_eq_zero_of_not_mem mem]
      exact Nat.zero_le 1
  · intro few n _
    simpa using few n

theorem eq_of_same_name (distinct : (namesOf items).Nodup) (memA : a ∈ maps items)
    (memB : b ∈ maps items) (same : stringField a "name" = stringField b "name") : a = b :=
  inj_on_of_nodup_map distinct memA memB same

/-- Go's conversion of a float to an int. Values out of range convert as on
    amd64, to the smallest int. -/
def truncate : Float64 → Int
  | .finite q =>
    let n := if 0 ≤ q then ⌊q⌋ else ⌈q⌉
    if minInt64 ≤ n ∧ n ≤ maxInt64 then n else minInt64
  | _ => minInt64

def toInt : Value → Option Int
  | .int n => some n
  | .float64 x => some (truncate x)
  | _ => none

/-- `wholeNumber` of the identity engine: a float counts when it is integral
    and exactly representable. -/
def wholeNumber : Value → Option Int
  | .int n => some n
  | .uint64 n => if (n : Int) > maxInt64 then none else some n
  | .float64 (.finite q) => if q.isInt ∧ |q| ≤ 2 ^ 53 then some ⌊q⌋ else none
  | _ => none

end Pilot.Roster

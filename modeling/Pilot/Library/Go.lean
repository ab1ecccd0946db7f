import Mathlib.Algebra.Order.Ring.Int
import Mathlib.Data.List.Sort
import Mathlib.Data.String.Basic
import Pilot.Library.Utf8

/-!
Go's bytes, 64-bit integers and durations, and the functions of `strings`,
`strconv`, `sort` and `unicode` that work on them.
-/
namespace Pilot.Go
open List

abbrev Bytes := List UInt8

def bytesOf (s : String) : Bytes := Utf8.encode s.toList

def minInt64 : Int := -(2 ^ 63)
def maxInt64 : Int := 2 ^ 63 - 1

/-- A result in 64 bits. -/
def wrapInt64 (n : Int) : Int := (n + 2 ^ 63) % 2 ^ 64 - 2 ^ 63

theorem wrapInt64_of_fits (positive : 0 ≤ x) (fits : x ≤ maxInt64) : wrapInt64 x = x := by
  unfold wrapInt64 maxInt64 at *
  omega

/-- Durations are nanoseconds. -/
def second : Int := 1000000000

def isDigit (c : Char) : Bool := '0' ≤ c && c ≤ '9'

def digitsValue (cs : List Char) : Int :=
  cs.foldl (fun n c => 10 * n + (c.toNat - '0'.toNat : Nat)) 0

def atoi (cs : List Char) : Option Int :=
  let negative := cs.head? == some '-'
  let digits := if negative || cs.head? == some '+' then cs.drop 1 else cs
  let n := if negative then -digitsValue digits else digitsValue digits
  if digits.isEmpty || !digits.all isDigit || n < minInt64 || n > maxInt64 then none else some n

/-- `unicode.IsSpace`. -/
def isSpace (c : Char) : Bool :=
  [0x9,0xa,0xb,0xc,0xd,0x20,0x85,0xa0,0x1680,0x2028,0x2029,0x202f,0x205f,0x3000].contains c.toNat
    || (0x2000 ≤ c.toNat && c.toNat ≤ 0x200a)

def isBlank (s : String) : Bool := s.toList.all isSpace

def trimSpace (s : String) : List Char :=
  ((s.toList.dropWhile isSpace).reverse.dropWhile isSpace).reverse

def sortStrings (names : List String) : List String := names.insertionSort (· ≤ ·)

@[simp]
theorem mem_sortStrings : n ∈ sortStrings names ↔ n ∈ names :=
  mem_insertionSort _

end Pilot.Go

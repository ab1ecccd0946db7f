import Mathlib.Tactic.NormNum
import Mathlib.Tactic.Positivity
import Pilot.Library.Go

/-!
The delays of `internal/outbound/retry.go` and the bounds that `config.go`
puts on a delivery policy. Durations and instants are nanoseconds, products
of durations wrap around, and dates and the printing of a duration are the
library's.
-/
namespace Pilot.Outbound
open Go

def maxBackoffAbsolute : Int := 24 * 3600 * second
def maxBackoffShift : Int := 40

structure DeliveryConfig where
  (timeout maxAttempts initialBackoff maxBackoff : Int)

def validateDelivery (shown : Int → String) (d : DeliveryConfig) : Except String Unit :=
  let bounded (field value low high : String) :=
    .error s!"delivery.{field} {value} out of bounds [{low},{high}]"
  if d.timeout < second / 10 ∨ d.timeout > 30 * second then
    bounded "timeout" (shown d.timeout) (shown (second / 10)) (shown (30 * second))
  else if d.maxAttempts < 1 ∨ d.maxAttempts > 100 then
    bounded "max_attempts" (toString d.maxAttempts) "1" "100"
  else if d.initialBackoff < second ∨ d.initialBackoff > maxBackoffAbsolute then
    bounded "initial_backoff" (shown d.initialBackoff) (shown second) (shown maxBackoffAbsolute)
  else if d.maxBackoff < d.initialBackoff ∨ d.maxBackoff > maxBackoffAbsolute then
    bounded "max_backoff" (shown d.maxBackoff) ("initial_backoff=" ++ shown d.initialBackoff)
      (shown maxBackoffAbsolute)
  else .ok ()

def computeBackoff (attemptNumber initial max : Int) : Int :=
  let shift := (if attemptNumber < 1 then 1 else attemptNumber) - 1
  if shift > maxBackoffShift then max
  else
    let base := wrapInt64 (initial * 2 ^ shift.toNat)
    if base ≤ 0 ∨ base > max then max else base

theorem bounds_of_valid (valid : validateDelivery shown d = .ok ()) :
    second ≤ d.initialBackoff ∧ d.initialBackoff ≤ d.maxBackoff ∧ d.maxBackoff ≤ maxBackoffAbsolute := by
  unfold validateDelivery at valid
  split_ifs at valid
  omega

/-- The delay is the exact one unless the product of the initial backoff and
    the power of two is past the cap and wraps around to a duration below it. -/
theorem computeBackoff_exact_iff (shown : Int → String) (d : DeliveryConfig)
    (valid : validateDelivery shown d = .ok ()) (n : Int) (attempt : 1 ≤ n) :
    let exact := d.initialBackoff * 2 ^ (n - 1).toNat
    computeBackoff n d.initialBackoff d.maxBackoff = min d.maxBackoff exact ↔
      ¬(n ≤ 41 ∧ d.maxBackoff < exact ∧ 0 < wrapInt64 exact ∧ wrapInt64 exact < d.maxBackoff) := by
  obtain ⟨least,ordered,most⟩ := bounds_of_valid valid
  intro exact
  have shift : (if n < 1 then 1 else n) - 1 = n - 1 := by omega
  unfold computeBackoff
  rw [shift]
  by_cases far : n - 1 > maxBackoffShift
  · have large : 2 ^ 41 ≤ (2 : Int) ^ (n - 1).toNat :=
      pow_le_pow_right₀ (by decide) (by unfold maxBackoffShift at far; omega)
    have past : d.maxBackoff ≤ exact := by
      have := Int.mul_le_mul least large (by decide) (by unfold second at least; omega)
      unfold maxBackoffAbsolute second at *
      omega
    simp only [far,↓reduceIte,min_eq_left past,true_iff]
    unfold maxBackoffShift at far
    omega
  · have positive : 0 < exact := Int.mul_pos (by unfold second at least; omega) (by positivity)
    rw [if_neg far]
    change (if wrapInt64 exact ≤ 0 ∨ wrapInt64 exact > d.maxBackoff then _ else wrapInt64 exact) = _ ↔ _
    unfold maxBackoffShift at far
    rcases le_or_gt exact d.maxBackoff with below | past
    · have same := wrapInt64_of_fits positive.le (below.trans (most.trans (by decide)))
      rw [same,if_neg (by omega),min_eq_right below]
      omega
    · rw [min_eq_left past.le]
      split_ifs <;> omega

def sampleDelivery : DeliveryConfig := ⟨5 * second,100,2 ^ 44 + 1,maxBackoffAbsolute⟩

/-- After attempt 41 an admitted policy waits for less than its initial backoff. -/
theorem backoff_wraps :
    validateDelivery toString sampleDelivery = .ok () ∧
      computeBackoff 41 sampleDelivery.initialBackoff sampleDelivery.maxBackoff = 2 ^ 40 ∧
      (2 : Int) ^ 40 < sampleDelivery.initialBackoff := by
  decide +kernel

theorem backoff_doubles :
    computeBackoff 2 sampleDelivery.initialBackoff sampleDelivery.maxBackoff =
      min sampleDelivery.maxBackoff (sampleDelivery.initialBackoff * 2 ^ (2 - 1 : Int).toNat) :=
  (computeBackoff_exact_iff toString sampleDelivery (by decide +kernel) 2 (by decide)).mpr
    (by decide +kernel)

/-- The value of a signed string of decimal digits, of any size. -/
def decimal (cs : List Char) : Option Int :=
  let negative := cs.head? == some '-'
  let digits := if negative || cs.head? == some '+' then cs.drop 1 else cs
  if digits.isEmpty || !digits.all isDigit then none
  else some (if negative then -digitsValue digits else digitsValue digits)

theorem atoi_eq_some : atoi cs = some n ↔ decimal cs = some n ∧ minInt64 ≤ n ∧ n ≤ maxInt64 := by
  unfold atoi decimal
  grind

section
variable (parseTime : List Char → Option Int)

def parseRetryAfter (header : String) (now maxBackoff : Int) : Option Int :=
  let header := trimSpace header
  if header = [] then none
  else match atoi header with
    | some secs =>
      if secs < 0 then none
      else
        let d := wrapInt64 (secs * second)
        some (if d > maxBackoff then maxBackoff else d)
    | none => match parseTime header with
      | none => none
      | some t =>
        -- the difference of two times saturates
        let d := max minInt64 (min maxInt64 (t - now))
        if d ≤ 0 then none else some (if d > maxBackoff then maxBackoff else d)

variable {parseTime} {header : String} {now maxBackoff : Int}

/-- A reported delay is bounded, and seconds are reported exactly. -/
def Bounded (parseTime : List Char → Option Int) (header : String) (now maxBackoff : Int) : Prop :=
  (∀ delay, parseRetryAfter parseTime header now maxBackoff = some delay →
    0 ≤ delay ∧ delay ≤ maxBackoff) ∧
  ∀ secs, 0 ≤ secs → decimal (trimSpace header) = some secs →
    parseRetryAfter parseTime header now maxBackoff = some (min (secs * second) maxBackoff)

theorem parse_of_decimal (sign : 0 ≤ secs) (value : decimal (trimSpace header) = some secs)
    (dates : ∀ cs, (decimal cs).isSome → parseTime cs = none) :
    parseRetryAfter parseTime header now maxBackoff =
      if secs ≤ maxInt64 then some (min (wrapInt64 (secs * second)) maxBackoff) else none := by
  have some_ : trimSpace header ≠ [] := by
    intro empty
    rw [empty] at value
    cases value
  unfold parseRetryAfter
  rw [if_neg some_,dates _ (by rw [value]; rfl)]
  cases read : atoi (trimSpace header) with
  | some n =>
    obtain ⟨same,-,fits⟩ := atoi_eq_some.mp read
    obtain rfl := Option.some.inj (value.symm.trans same)
    rw [if_pos fits]
    grind
  | none =>
    rw [if_neg]
    intro fits
    have := atoi_eq_some.mpr ⟨value,(by unfold minInt64; omega),fits⟩
    grind

theorem delay_bounded (positive : 0 < maxBackoff)
    (ok : parseRetryAfter parseTime header now maxBackoff = some delay) :
    delay ≤ maxBackoff ∧ (0 ≤ delay ∨ ∃ secs ≥ 0, decimal (trimSpace header) = some secs) := by
  unfold parseRetryAfter at ok
  cases read : atoi (trimSpace header) with
  | some n => grind [atoi_eq_some.mp read]
  | none => grind

/-- The delays are right unless a number of seconds is no int64, or its
    nanoseconds wrap around to less than the bound. -/
theorem retry_after_bounded_iff (parseTime : List Char → Option Int)
    (dates : ∀ cs, (decimal cs).isSome → parseTime cs = none) (header : String) (now maxBackoff : Int)
    (positive : 0 < maxBackoff) :
    Bounded parseTime header now maxBackoff ↔ ∀ secs, 0 ≤ secs → decimal (trimSpace header) = some secs →
        secs ≤ maxInt64 ∧ (secs * second ≤ maxInt64 ∨ maxBackoff ≤ wrapInt64 (secs * second)) := by
  constructor
  · rintro ⟨-,equal⟩ secs sign value
    have delay := equal secs sign value
    rw [parse_of_decimal sign value dates] at delay
    split_ifs at delay with fits
    have same := Option.some.inj delay
    unfold wrapInt64 maxInt64 at *
    omega
  · intro fits
    have equal : ∀ secs, 0 ≤ secs → decimal (trimSpace header) = some secs →
        parseRetryAfter parseTime header now maxBackoff = some (min (secs * second) maxBackoff) := by
      intro secs sign value
      obtain ⟨small,wide⟩ := fits secs sign value
      rw [parse_of_decimal sign value dates,if_pos small]
      congr 1
      unfold wrapInt64 maxInt64 second at *
      omega
    refine ⟨?_,equal⟩
    intro delay ok
    obtain ⟨most,least | ⟨secs,sign,value⟩⟩ := delay_bounded positive ok
    · exact ⟨least,most⟩
    · rw [equal secs sign value] at ok
      have := Option.some.inj ok
      unfold second at this
      omega

end

/-- The largest number of seconds that parses is reported as a delay of minus
    one second. -/
theorem retry_after_is_negative :
    parseRetryAfter (fun _ => none) "9223372036854775807" 0 maxBackoffAbsolute = some (-second) ∧
      ¬Bounded (fun _ => none) "9223372036854775807" 0 maxBackoffAbsolute := by
  have delay : parseRetryAfter (fun _ => none) "9223372036854775807" 0 maxBackoffAbsolute =
      some (-second) := by decide +kernel
  exact ⟨delay,fun bounded => absurd (bounded.1 _ delay).1 (by decide)⟩

theorem two_minutes_are_bounded : Bounded (fun _ => none) "120" 0 maxBackoffAbsolute := by
  apply (retry_after_bounded_iff _ (fun _ _ => rfl) "120" 0 _ (by decide)).mpr
  intro secs _ value
  have read : decimal (trimSpace "120") = some 120 := by decide +kernel
  obtain rfl := Option.some.inj (read.symm.trans value)
  decide

end Pilot.Outbound

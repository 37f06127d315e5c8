import Mathlib.Tactic.Ring
import Mathlib.Tactic.Linarith
import QuantFactory.Dashboard.ChartBars

/-!
# The bucket of a time

The whole second of a time is read from a double and cut towards zero.  On whole seconds
that is exact.  Elsewhere it may be the next second: before 1970 it is, unless the double
already lies there, and from 1970 on it is when the double lies there.
-/

set_option autoImplicit false

namespace QuantFactory.Dashboard

def epochBucket (timestamp width : Int) : Int :=
  timestamp - timestamp % (width * microsPerSecond)

/-- Half a unit of the double's last place reaches from the time to its next second. -/
def ReachesNextSecond (micros : Nat) : Prop :=
  (microsPerSecond - micros % microsPerSecond) *
    2 ^ (53 - Nat.log2 (micros / microsPerSecond)) ≤ microsPerSecond

instance (micros : Nat) : Decidable (ReachesNextSecond micros) :=
  inferInstanceAs (Decidable (_ ≤ _))

/-- The time is inside a second, and the code takes it for the next one. -/
def ReadAsNextSecond (timestamp : Int) : Prop :=
  timestamp % microsPerSecond ≠ 0 ∧ (0 ≤ timestamp ↔ ReachesNextSecond timestamp.natAbs)

instance (timestamp : Int) : Decidable (ReadAsNextSecond timestamp) :=
  inferInstanceAs (Decidable (_ ∧ _))

def ReadAsNextBucket (timestamp width : Int) : Prop :=
  ReadAsNextSecond timestamp ∧ width ∣ timestamp / microsPerSecond + 1

/-! ## Rounding to the double -/

section Rounding
variable {a b n : Nat}

theorem roundHalfEven_mul (positive : 0 < b) : roundHalfEven (n * b) b = n := by
  rw [roundHalfEven, Nat.mul_mod_left, if_pos (by omega), Nat.mul_div_cancel _ positive]

theorem div_le_roundHalfEven : a / b ≤ roundHalfEven a b := by
  rw [roundHalfEven]
  split
  · exact le_refl _
  · split
    · omega
    · split <;> omega

theorem roundHalfEven_le : roundHalfEven a b ≤ a / b + 1 := by
  rw [roundHalfEven]
  split
  · omega
  · split
    · exact le_refl _
    · split <;> omega

theorem roundHalfEven_eq_iff (even : n % 2 = 0) (below : a < n * b) :
    roundHalfEven a b = n ↔ 2 * (n * b - a) ≤ b := by
  have positive : 0 < b := by
    rcases Nat.eq_zero_or_pos b with rfl | positive
    · omega
    · exact positive
  have whole : b * (a / b) + a % b = a := Nat.div_add_mod a b
  have rest : a % b < b := Nat.mod_lt a positive
  have quotient : a / b < n := (Nat.div_lt_iff_lt_mul positive).mpr below
  by_cases next : a / b + 1 = n
  · have gap : n * b - a = b - a % b := by
      have product : n * b = b * (a / b) + b := by rw [← next]; ring
      omega
    rw [gap, roundHalfEven]
    split
    · omega
    · split
      · omega
      · split <;> omega
  · have far : b * (a / b) + 2 * b ≤ n * b := by
      have two : a / b + 2 ≤ n := by omega
      have scaled := Nat.mul_le_mul_right b two
      linarith
    have most := roundHalfEven_le (a := a) (b := b)
    omega

/-- Cut back to whole units, the rounding at an even scale keeps the unit or gives the
next one. -/
theorem roundHalfEven_div_eq (whole : Nat) {fraction unit scale : Nat} (inside : fraction < unit)
    (even : scale % 2 = 0) (positive : 0 < scale) :
    roundHalfEven ((unit * whole + fraction) * scale) unit / scale =
      if 2 * ((unit - fraction) * scale) ≤ unit then whole + 1 else whole := by
  have room : (unit * whole + fraction) * scale + (unit - fraction) * scale =
      (whole + 1) * scale * unit := by
    have filled : unit * whole + fraction + (unit - fraction) = unit * (whole + 1) := by
      rw [Nat.mul_succ]
      omega
    rw [← Nat.add_mul, filled]
    ring
  have gap : 0 < (unit - fraction) * scale := Nat.mul_pos (by omega) positive
  have below : (unit * whole + fraction) * scale < (whole + 1) * scale * unit := by omega
  have reaches := roundHalfEven_eq_iff (by rw [Nat.mul_mod, even, Nat.mul_zero]) below
  have remaining : (whole + 1) * scale * unit - (unit * whole + fraction) * scale =
      (unit - fraction) * scale := by omega
  rw [remaining] at reaches
  by_cases near : 2 * ((unit - fraction) * scale) ≤ unit
  · rw [if_pos near, reaches.mpr near]
    exact Nat.mul_div_cancel _ positive
  · rw [if_neg near]
    have least : whole * scale ≤ (unit * whole + fraction) * scale / unit := by
      rw [Nat.le_div_iff_mul_le (by omega)]
      have scaled := Nat.mul_le_mul_right scale (Nat.le_add_right (unit * whole) fraction)
      linarith
    have most : (unit * whole + fraction) * scale / unit < (whole + 1) * scale :=
      (Nat.div_lt_iff_lt_mul (by omega)).mpr below
    have lower := least.trans div_le_roundHalfEven
    have upper := roundHalfEven_le (a := (unit * whole + fraction) * scale) (b := unit)
    have short := mt reaches.mp near
    exact Nat.div_eq_of_lt_le lower (by omega)

end Rounding

/-! ## The whole second -/

theorem truncatedSeconds_mul (seconds : Nat) :
    truncatedSeconds (seconds * microsPerSecond) = seconds := by
  have whole : seconds * microsPerSecond / microsPerSecond = seconds :=
    Nat.mul_div_cancel seconds (by decide)
  rw [truncatedSeconds]
  dsimp only
  rw [whole]
  split
  · exact Eq.symm ‹_›
  · have moved : seconds * microsPerSecond * 2 ^ (52 - Nat.log2 seconds) =
        seconds * 2 ^ (52 - Nat.log2 seconds) * microsPerSecond := by ring
    rw [moved, roundHalfEven_mul (by decide)]
    exact Nat.mul_div_cancel _ (by positivity)

theorem not_reachesNextSecond_of_lt {micros : Nat} (below : micros < microsPerSecond) :
    ¬ReachesNextSecond micros := by
  intro reached
  rw [ReachesNextSecond, Nat.div_eq_of_lt below, Nat.mod_eq_of_lt below] at reached
  have least : 1 * 2 ^ (53 - Nat.log2 0) ≤ (microsPerSecond - micros) * 2 ^ (53 - Nat.log2 0) :=
    Nat.mul_le_mul_right _ (by omega)
  have large : microsPerSecond < 1 * 2 ^ (53 - Nat.log2 0) := by decide
  omega

theorem truncatedSeconds_eq {micros : Nat} (small : micros / microsPerSecond < 2 ^ 52) :
    truncatedSeconds micros = if ReachesNextSecond micros then micros / microsPerSecond + 1
      else micros / microsPerSecond := by
  have unit : 0 < microsPerSecond := by decide
  by_cases zero : micros / microsPerSecond = 0
  · have below : micros < microsPerSecond := by
      rcases Nat.div_eq_zero_iff.mp zero with none | below
      · omega
      · exact below
    rw [if_neg (not_reachesNextSecond_of_lt below), truncatedSeconds]
    dsimp only
    rw [if_pos zero, zero]
  · have log_lt : Nat.log2 (micros / microsPerSecond) < 52 := (Nat.log2_lt zero).mpr small
    obtain ⟨bits, scale⟩ : ∃ bits, 52 - Nat.log2 (micros / microsPerSecond) = bits + 1 :=
      ⟨51 - Nat.log2 (micros / microsPerSecond), by omega⟩
    have doubled : 53 - Nat.log2 (micros / microsPerSecond) = bits + 2 := by omega
    have even : 2 ^ (bits + 1) % 2 = 0 := by rw [pow_succ, Nat.mul_mod_left]
    have rounded := roundHalfEven_div_eq (micros / microsPerSecond) (Nat.mod_lt micros unit) even
      (by positivity)
    rw [Nat.div_add_mod] at rounded
    have same : 2 * ((microsPerSecond - micros % microsPerSecond) * 2 ^ (bits + 1)) ≤
        microsPerSecond ↔ ReachesNextSecond micros := by
      rw [ReachesNextSecond, doubled, pow_succ 2 (bits + 1)]
      constructor
      · intro most
        linarith
      · intro most
        linarith
    rw [truncatedSeconds]
    dsimp only
    rw [if_neg zero, scale, rounded]
    exact if_congr same rfl rfl

theorem epochSeconds_of_whole {timestamp : Int} (whole : timestamp % microsPerSecond = 0) :
    epochSeconds timestamp = timestamp / microsPerSecond := by
  obtain ⟨seconds, rfl⟩ := Int.dvd_of_emod_eq_zero whole
  have unit : (microsPerSecond : Int) ≠ 0 := by decide
  have magnitude : (microsPerSecond * seconds).natAbs = seconds.natAbs * microsPerSecond := by
    rw [Int.natAbs_mul, Int.natAbs_natCast, Nat.mul_comm]
  rw [Int.mul_ediv_cancel_left _ unit, epochSeconds, magnitude, truncatedSeconds_mul]
  have sign : 0 ≤ microsPerSecond * seconds ↔ 0 ≤ seconds := by
    unfold microsPerSecond
    omega
  simp only [sign]
  split <;> omega

theorem epochSeconds_eq {timestamp : Int}
    (small : timestamp.natAbs / microsPerSecond < 2 ^ 52) :
    epochSeconds timestamp =
      timestamp / microsPerSecond + if ReadAsNextSecond timestamp then 1 else 0 := by
  by_cases whole : timestamp % microsPerSecond = 0
  · rw [epochSeconds_of_whole whole, if_neg fun next => next.1 whole, Int.add_zero]
  · rw [epochSeconds, truncatedSeconds_eq small]
    by_cases reached : ReachesNextSecond timestamp.natAbs
    · rw [if_pos reached]
      by_cases sign : 0 ≤ timestamp
      · rw [if_pos sign, if_pos ⟨whole, iff_of_true sign reached⟩]
        unfold microsPerSecond at whole ⊢
        omega
      · rw [if_neg sign, if_neg fun next => sign (next.2.mpr reached)]
        unfold microsPerSecond at whole ⊢
        omega
    · rw [if_neg reached]
      by_cases sign : 0 ≤ timestamp
      · rw [if_pos sign, if_neg fun next => reached (next.2.mp sign)]
        unfold microsPerSecond at whole ⊢
        omega
      · rw [if_neg sign, if_pos ⟨whole, iff_of_false sign reached⟩]
        unfold microsPerSecond at whole ⊢
        omega

/-- From 1970 on and for over five hundred years the whole second is the time's own. -/
theorem not_readAsNextSecond {timestamp : Int} (later : 0 ≤ timestamp)
    (earlier : timestamp < 2 ^ 34 * microsPerSecond) : ¬ReadAsNextSecond timestamp := by
  rintro ⟨-, next⟩
  have reached := next.mp later
  rw [ReachesNextSecond] at reached
  have seconds : timestamp.natAbs / microsPerSecond < 2 ^ 34 := by
    unfold microsPerSecond at earlier ⊢
    omega
  have bits : Nat.log2 (timestamp.natAbs / microsPerSecond) ≤ 33 := by
    by_cases zero : timestamp.natAbs / microsPerSecond = 0
    · rw [zero]
      decide
    · have log_lt := (Nat.log2_lt zero).mpr seconds
      omega
  have power : 2 ^ 20 ≤ 2 ^ (53 - Nat.log2 (timestamp.natAbs / microsPerSecond)) :=
    Nat.pow_le_pow_right (by omega) (by omega)
  have rest := Nat.mod_lt timestamp.natAbs (show 0 < microsPerSecond by decide)
  have least := Nat.mul_le_mul (show 1 ≤ microsPerSecond - timestamp.natAbs % microsPerSecond by
    omega) power
  have unit : microsPerSecond < 1 * 2 ^ 20 := by decide
  omega

/-! ## The bucket -/

section Bucket
variable {timestamp width : Int}

theorem epochBucket_eq : epochBucket timestamp width =
    (timestamp / microsPerSecond - timestamp / microsPerSecond % width) * microsPerSecond := by
  have unit : (0 : Int) < microsPerSecond := by decide
  have nested : timestamp / microsPerSecond / width = timestamp / (width * microsPerSecond) := by
    rw [Int.ediv_ediv_of_nonneg unit.le, mul_comm]
  have outer := Int.mul_ediv_add_emod timestamp (width * microsPerSecond)
  have inner := Int.mul_ediv_add_emod (timestamp / microsPerSecond) width
  rw [nested] at inner
  have start : timestamp / microsPerSecond - timestamp / microsPerSecond % width =
      width * (timestamp / (width * microsPerSecond)) := by omega
  rw [epochBucket, start]
  linarith [mul_right_comm width (timestamp / (width * microsPerSecond)) (microsPerSecond : Int)]

theorem epochBucket_le (positive : 0 < width) : epochBucket timestamp width ≤ timestamp := by
  have unit : (0 : Int) < microsPerSecond := by decide
  have rest := Int.emod_nonneg timestamp (mul_pos positive unit).ne'
  rw [epochBucket]
  omega

theorem lt_epochBucket_add (positive : 0 < width) :
    timestamp < epochBucket timestamp width + width * microsPerSecond := by
  have unit : (0 : Int) < microsPerSecond := by decide
  have rest := Int.emod_lt_of_pos timestamp (mul_pos positive unit)
  rw [epochBucket]
  omega

theorem dvd_epochBucket : width * microsPerSecond ∣ epochBucket timestamp width :=
  Int.dvd_self_sub_emod

/-- The bucket is the one multiple of the width that the time lies behind by less. -/
theorem epochBucket_eq_iff (positive : 0 < width) {bucket : Int} :
    epochBucket timestamp width = bucket ↔ width * microsPerSecond ∣ bucket ∧
      bucket ≤ timestamp ∧ timestamp < bucket + width * microsPerSecond := by
  have unit : (0 : Int) < microsPerSecond := by decide
  constructor
  · rintro rfl
    exact ⟨dvd_epochBucket, epochBucket_le positive, lt_epochBucket_add positive⟩
  · rintro ⟨⟨count, rfl⟩, lower, upper⟩
    have rest : timestamp % (width * microsPerSecond) =
        timestamp - width * microsPerSecond * count := by
      rw [← Int.sub_mul_emod_self_left timestamp (width * microsPerSecond) count]
      exact Int.emod_eq_of_lt (by omega) (by omega)
    rw [epochBucket, rest]
    omega

theorem epochBucket_of_dvd (aligned : width * microsPerSecond ∣ timestamp) :
    epochBucket timestamp width = timestamp := by
  rw [epochBucket, Int.emod_eq_zero_of_dvd aligned, Int.sub_zero]

theorem epochBucket_mono (positive : 0 < width) {later : Int} (le : timestamp ≤ later) :
    epochBucket timestamp width ≤ epochBucket later width := by
  have unit : (0 : Int) < microsPerSecond := by decide
  have quotient := Int.ediv_le_ediv (mul_pos positive unit) le
  have scaled := Int.mul_le_mul_of_nonneg_left quotient (mul_pos positive unit).le
  have first := Int.mul_ediv_add_emod timestamp (width * microsPerSecond)
  have second := Int.mul_ediv_add_emod later (width * microsPerSecond)
  rw [epochBucket, epochBucket]
  omega

theorem epochBucket_epochBucket {wider : Int} (positive : 0 < wider) (divides : width ∣ wider)
    (narrow : 0 < width) :
    epochBucket (epochBucket timestamp width) wider = epochBucket timestamp wider := by
  have unit : (0 : Int) < microsPerSecond := by decide
  rw [epochBucket_eq_iff positive]
  have behind : epochBucket timestamp wider ≤ timestamp := epochBucket_le positive
  have ahead : timestamp < epochBucket timestamp wider + wider * microsPerSecond :=
    lt_epochBucket_add positive
  refine ⟨dvd_epochBucket, ?_, (epochBucket_le narrow).trans_lt ahead⟩
  -- both starts are multiples of the narrow width
  have both : width * microsPerSecond ∣
      epochBucket timestamp width - epochBucket timestamp wider :=
    Int.dvd_sub dvd_epochBucket
      ((mul_dvd_mul_right divides (microsPerSecond : Int)).trans dvd_epochBucket)
  obtain ⟨count, difference⟩ := both
  have within : timestamp < epochBucket timestamp width + width * microsPerSecond :=
    lt_epochBucket_add narrow
  have above : -1 < count := by
    by_contra negative
    have product : width * microsPerSecond * count ≤ width * microsPerSecond * (-1) :=
      Int.mul_le_mul_of_nonneg_left (by omega) (mul_pos narrow unit).le
    omega
  have product : 0 ≤ width * microsPerSecond * count :=
    mul_nonneg (mul_pos narrow unit).le (by omega)
  omega

theorem bucketStart_eq (own : epochSeconds timestamp = timestamp / microsPerSecond) :
    bucketStart timestamp width = epochBucket timestamp width := by
  rw [bucketStart, own, epochBucket_eq]

theorem bucketStart_of_whole (whole : timestamp % microsPerSecond = 0) :
    bucketStart timestamp width = epochBucket timestamp width :=
  bucketStart_eq (epochSeconds_of_whole whole)

variable (small : timestamp.natAbs / microsPerSecond < 2 ^ 52) (positive : 0 < width)

include small positive

/-- A time that is read as the first second of the next bucket is put there. -/
theorem bucketStart_of_next (next : ReadAsNextBucket timestamp width) :
    bucketStart timestamp width = epochBucket timestamp width + width * microsPerSecond := by
  obtain ⟨second, boundary⟩ := next
  rw [bucketStart, epochSeconds_eq small, if_pos second, epochBucket_eq,
    Int.emod_eq_zero_of_dvd boundary]
  have last : timestamp / microsPerSecond % width = width - 1 := by
    obtain ⟨count, equal⟩ := boundary
    have before : timestamp / microsPerSecond = width - 1 + width * (count - 1) := by
      rw [mul_sub]
      omega
    rw [before, Int.add_mul_emod_self_left]
    exact Int.emod_eq_of_lt (by omega) (by omega)
  rw [last]
  ring

theorem bucketStart_of_not_next (own : ¬ReadAsNextBucket timestamp width) :
    bucketStart timestamp width = epochBucket timestamp width := by
  by_cases second : ReadAsNextSecond timestamp
  · have inner : ¬width ∣ timestamp / microsPerSecond + 1 := fun divides => own ⟨second, divides⟩
    have inside := Int.emod_lt_of_pos (timestamp / microsPerSecond) positive
    have lower := Int.emod_nonneg (timestamp / microsPerSecond) positive.ne'
    have whole := Int.mul_ediv_add_emod (timestamp / microsPerSecond) width
    have short : timestamp / microsPerSecond % width + 1 < width := by
      by_contra reached
      apply inner
      refine ⟨timestamp / microsPerSecond / width + 1, ?_⟩
      rw [mul_add]
      omega
    have next : (timestamp / microsPerSecond + 1) % width =
        timestamp / microsPerSecond % width + 1 := by
      rw [Int.add_emod, Int.emod_eq_of_lt (by omega) (by omega : (1 : Int) < width)]
      exact Int.emod_eq_of_lt (by omega) short
    rw [bucketStart, epochSeconds_eq small, if_pos second, epochBucket_eq, next]
    congr 1
    omega
  · apply bucketStart_eq
    rw [epochSeconds_eq small, if_neg second, Int.add_zero]

end Bucket

end QuantFactory.Dashboard

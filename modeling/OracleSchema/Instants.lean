import OracleSchema.Execution

/-!
Instants in UTC as `datetime` has them, made from seconds and printed in ISO format.
`fromtimestamp_eq_ok` says which seconds are an instant, `represents_iff` which bounds
that means, and different instants have different texts (`isoformat_injective`).
-/
namespace OracleSchema.Instants
open OracleSchema.Casing OracleSchema.Strings OracleSchema.Errors OracleSchema.Execution OracleSchema.Floats

/-! ### Seconds -/

/-- The microseconds that a float of seconds comes to. Its fraction is multiplied as a float,
    and then rounded. -/
def microseconds (seconds : Rat) : Int :=
  let whole := seconds.num.tdiv seconds.den
  whole * 1000000 + roundHalfEven (binary64.nearest ((seconds - whole) * 1000000))

/-- Whole seconds are whole microseconds. -/
theorem microseconds_intCast (n : Int) : microseconds n = n * 1000000 := by
  have zero := roundHalfEven_intCast 0
  simp only [Int.cast_zero] at zero
  simp [microseconds, nearest_zero, zero]

/-! ### The calendar -/

/-- The lengths of the months of a year. -/
def monthLengths (leap : Bool) : List Nat := [31, if leap then 29 else 28, 31, 30, 31, 30, 31, 31, 30, 31, 30, 31]

/-- The month and the day of the month, for a day of the year counted from zero. -/
def monthDay : Nat → List Nat → Nat → Nat × Nat
  | month, [], day => (month, day + 1)
  | month, length :: rest, day => if day < length then (month, day + 1) else monthDay (month + 1) rest (day - length)

def isLeap (year : Int) : Bool := year % 4 = 0 ∧ (year % 100 ≠ 0 ∨ year % 400 = 0)

/-- The year of a day and the day of the year, both by the cycles of 400, 100, 4 years and one. -/
def yearDay (days : Int) : Int × Nat :=
  let n := days + 719162
  let n400 := n / 146097
  let n100 := n % 146097 / 36524
  let n4 := n % 146097 % 36524 / 1461
  let n1 := n % 146097 % 36524 % 1461 / 365
  let year := n400 * 400 + n100 * 100 + n4 * 4 + n1 + 1
  -- The last day of a leap year is the 366th.
  if n1 = 4 ∨ n100 = 4 then (year - 1, 365) else (year, (n % 146097 % 36524 % 1461 % 365).toNat)

def dayNumber (microseconds : Int) : Int := microseconds / 86400000000

/-- An aware `datetime` in UTC: microseconds since the start of 1970, in a year that it can have. -/
structure Datetime where
  microseconds : Int
  dated : 1 ≤ (yearDay (dayNumber microseconds)).1 ∧ (yearDay (dayNumber microseconds)).1 ≤ 9999

/-- `datetime.fromtimestamp(timestamp, tz=UTC)`. -/
def fromtimestamp : PyReal → Except PyExc Datetime
  | .finite value =>
    let instant := microseconds value
    let seconds := instant / 1000000
    let year := (yearDay (dayNumber instant)).1
    if ¬ (-2 ^ 63 ≤ seconds ∧ seconds < 2 ^ 63) then
      .error (.ofText .OverflowError (lit "timestamp out of range for platform time_t"))
    -- `gmtime` counts the years in a C int.
    else if ¬ (-2 ^ 31 ≤ year - 1900 ∧ year - 1900 < 2 ^ 31) then
      .error (.ofText .OSError (lit "[Errno 75] Value too large for defined data type"))
    else if dated : 1 ≤ year ∧ year ≤ 9999 then .ok ⟨instant, dated⟩
    else .error (.ofText .ValueError (lit "year " ++ intText year ++ lit " is out of range"))
  | .nan => .error (.ofText .ValueError (lit "Invalid value NaN (not a number)"))
  | _ => .error (.ofText .OverflowError (lit "timestamp out of range for platform time_t"))

/-- Decimal digits, with zeros in front up to a width. -/
def padded : Nat → Nat → PyStr
  | 0, _ => []
  | width + 1, n => padded width (n / 10) ++ [Fin.ofNat _ (48 + n % 10)]

/-- "YYYY-MM-DD". -/
def dateText (days : Int) : PyStr :=
  let year := (yearDay days).1
  let date := monthDay 1 (monthLengths (isLeap year)) (yearDay days).2
  padded 4 year.toNat ++ lit "-" ++ padded 2 date.1 ++ lit "-" ++ padded 2 date.2

/-- "HH:MM:SS", and "HH:MM:SS.ffffff" where there are microseconds. -/
def timeText (time : Nat) : PyStr :=
  let second := time / 1000000
  let fraction := time % 1000000
  padded 2 (second / 3600) ++ lit ":" ++ padded 2 (second / 60 % 60) ++ lit ":" ++ padded 2 (second % 60) ++
    if fraction = 0 then [] else lit "." ++ padded 6 fraction

/-- `datetime.isoformat`. -/
def Datetime.isoformat (instant : Datetime) : PyStr :=
  dateText (dayNumber instant.microseconds) ++ lit "T" ++ timeText (instant.microseconds % 86400000000).toNat ++ lit "+00:00"

/-! ### Days and dates -/

/-- A year is one of a cycle of 400, in a century, in a cycle of four; its day 366 is there in
    leap years only. -/
structure Cycles (days : Int) (a b c d : Int) : Prop where
  centuries : 0 ≤ b ∧ b ≤ 3
  fours : 0 ≤ c ∧ c ≤ 24
  years : 0 ≤ d ∧ d ≤ 3
  year : (yearDay days).1 = 400 * a + 100 * b + 4 * c + d + 1
  total : days + 719162 = 146097 * a + 36524 * b + 1461 * c + 365 * d + (yearDay days).2
  yday : (yearDay days).2 < 365 ∨ (yearDay days).2 = 365 ∧ d = 3 ∧ (c = 24 → b = 3)

/-- A day by its cycles: each quotient, with what is left for the ones after it. -/
theorem yearDay_digits (days : Int) : ∃ a b c d e : Int, days + 719162 = 146097 * a + (36524 * b + (1461 * c + (365 * d + e))) ∧
    0 ≤ b ∧ 0 ≤ c ∧ 0 ≤ d ∧ 0 ≤ e ∧ e < 365 ∧ 365 * d + e < 1461 ∧ 1461 * c + (365 * d + e) < 36524 ∧
    36524 * b + (1461 * c + (365 * d + e)) < 146097 ∧
    yearDay days = if d = 4 ∨ b = 4 then (a * 400 + b * 100 + c * 4 + d + 1 - 1, 365)
      else (a * 400 + b * 100 + c * 4 + d + 1, e.toNat) := by
  have cut : ∀ m k : Int, 0 < k → k * (m / k) + m % k = m ∧ 0 ≤ m % k ∧ m % k < k := fun m k positive =>
    ⟨Int.mul_ediv_add_emod m k, Int.emod_nonneg m positive.ne', Int.emod_lt_of_pos m positive⟩
  have quotient : ∀ m k : Int, 0 ≤ m → 0 < k → 0 ≤ m / k := fun m k nonneg positive => Int.ediv_nonneg nonneg positive.le
  generalize number : days + 719162 = n
  obtain ⟨byCycle, cycleRest, cycleBound⟩ := cut n 146097 (by decide)
  obtain ⟨byCentury, centuryRest, centuryBound⟩ := cut (n % 146097) 36524 (by decide)
  obtain ⟨byFour, fourRest, fourBound⟩ := cut (n % 146097 % 36524) 1461 (by decide)
  obtain ⟨byYear, yearRest, yearBound⟩ := cut (n % 146097 % 36524 % 1461) 365 (by decide)
  refine ⟨n / 146097, n % 146097 / 36524, n % 146097 % 36524 / 1461, n % 146097 % 36524 % 1461 / 365,
    n % 146097 % 36524 % 1461 % 365, ?_, quotient _ _ cycleRest (by decide), quotient _ _ centuryRest (by decide),
    quotient _ _ fourRest (by decide), yearRest, yearBound, ?_, ?_, ?_, ?_⟩
  · rw [byYear, byFour, byCentury, byCycle]
  · rwa [byYear]
  · rwa [byYear, byFour]
  · rwa [byYear, byFour, byCentury]
  · simp only [yearDay, number]

theorem cycles (days : Int) : ∃ a b c d, Cycles days a b c d := by
  obtain ⟨a, b, c, d, e, number, b0, c0, d0, e0, e1, inFour, inCentury, inCycle, year⟩ := yearDay_digits days
  by_cases last : d = 4 ∨ b = 4
  · rw [if_pos last] at year
    by_cases century : b = 4
    · refine ⟨a, 3, 24, 3, by decide, by decide, by decide, ?_, ?_, .inr ?_⟩
      · rw [year]
        simp only
        omega
      · rw [year]
        simp only
        omega
      · rw [year]
        simp
    · obtain rfl : d = 4 := last.resolve_right century
      refine ⟨a, b, c, 3, by omega, by omega, by decide, ?_, ?_, .inr ?_⟩
      · rw [year]
        simp only
        omega
      · rw [year]
        simp only
        omega
      · rw [year]
        exact ⟨rfl, rfl, fun full => by omega⟩
  · rw [if_neg last] at year
    refine ⟨a, b, c, d, by omega, by omega, by omega, ?_, ?_, .inl ?_⟩
    · rw [year]
      simp only
      omega
    · rw [year]
      simp only
      omega
    · rw [year]
      simp only
      omega

/-- The days before the start of a year, from the year 1 on. -/
def daysBefore (year : Int) : Int := 365 * (year - 1) + (year - 1) / 4 - (year - 1) / 100 + (year - 1) / 400

theorem yearDay_number (days : Int) : days + 719162 = daysBefore (yearDay days).1 + (yearDay days).2 := by
  obtain ⟨a, b, c, d, cycle⟩ := cycles days
  obtain ⟨centuries, fours, years, year, total, _⟩ := cycle
  have byFour : ((yearDay days).1 - 1) / 4 = 100 * a + 25 * b + c := by omega
  have byHundred : ((yearDay days).1 - 1) / 100 = 4 * a + b := by omega
  have byCycle : ((yearDay days).1 - 1) / 400 = a := by omega
  rw [daysBefore, byFour, byHundred, byCycle]
  omega

theorem yday_lt (days : Int) : (yearDay days).2 < (monthLengths (isLeap (yearDay days).1)).sum := by
  obtain ⟨a, b, c, d, cycle⟩ := cycles days
  have months : ∀ leap, 365 ≤ (monthLengths leap).sum := by decide
  rcases cycle.yday with short | ⟨last, three, full⟩
  · exact short.trans_le (months _)
  · have year : (yearDay days).1 = 400 * a + 100 * b + 4 * (c + 1) := by
      rw [cycle.year, three]
      ring
    have leap : isLeap (yearDay days).1 = true := by
      simp only [isLeap, decide_eq_true_eq]
      refine ⟨by omega, ?_⟩
      by_cases century : c = 24
      · right
        rw [full century, century] at year
        omega
      · left
        have fours := cycle.fours
        omega
    rw [leap, last]
    decide

theorem year_bounds (days : Int) :
    (1 ≤ (yearDay days).1 ↔ -719162 ≤ days) ∧ ((yearDay days).1 ≤ 9999 ↔ days < 2932897) := by
  obtain ⟨a, b, c, d, cycle⟩ := cycles days
  obtain ⟨centuries, fours, years, year, total, yday⟩ := cycle
  -- The year and the day within the cycle of 400 years; the last year of it starts on day 145731.
  obtain ⟨y, yearInCycle⟩ : ∃ y, y = 100 * b + 4 * c + d := ⟨_, rfl⟩
  obtain ⟨z, dayInCycle⟩ : ∃ z, z = 36524 * b + 1461 * c + 365 * d + (yearDay days).2 := ⟨_, rfl⟩
  have range : 0 ≤ y ∧ y ≤ 399 := by omega
  have inside : 0 ≤ z ∧ z < 146097 := by omega
  have lastYear : y = 399 ↔ 145731 ≤ z := by omega
  have year : (yearDay days).1 = 400 * a + y + 1 := by omega
  have total : days + 719162 = 146097 * a + z := by omega
  clear yday yearInCycle dayInCycle centuries fours years
  rw [year]
  constructor
  · omega
  · omega

/-! ### The text -/

theorem monthDay_spec (start : Nat) {lengths : List Nat} (short : ∀ length ∈ lengths, length ≤ 31) {day : Nat}
    (inside : day < lengths.sum) :
    ∃ k d, monthDay start lengths day = (start + k, d + 1) ∧ k < lengths.length ∧ d < 31 ∧
      day = (lengths.take k).sum + d := by
  induction lengths generalizing start day with
  | nil => cases inside
  | cons length rest ih =>
    rw [monthDay]
    split_ifs with here
    · exact ⟨0, day, rfl, Nat.succ_pos _, here.trans_le (short length List.mem_cons_self), by simp⟩
    · rw [List.sum_cons] at inside
      obtain ⟨k, d, found, within, small, number⟩ :=
        ih (start + 1) (fun other member => short other (List.mem_cons_of_mem _ member)) (show day - length < rest.sum by omega)
      refine ⟨k + 1, d, ?_, Nat.succ_lt_succ within, small, ?_⟩
      · rw [found]
        simp only [Prod.mk.injEq, and_true]
        omega
      · rw [List.take_succ_cons, List.sum_cons]
        omega

/-- The date of a day, within the bounds of its digits. -/
theorem monthDay_bounds (days : Int) :
    (monthDay 1 (monthLengths (isLeap (yearDay days).1)) (yearDay days).2).1 < 100 ∧
      (monthDay 1 (monthLengths (isLeap (yearDay days).1)) (yearDay days).2).2 < 100 := by
  have short : ∀ leap, ∀ length ∈ monthLengths leap, length ≤ 31 := by decide
  have twelve : ∀ leap, (monthLengths leap).length = 12 := by decide
  obtain ⟨k, d, found, within, small, _⟩ := monthDay_spec 1 (short _) (yday_lt days)
  rw [twelve] at within
  rw [found]
  constructor
  · simp only
    omega
  · simp only
    omega

/-- The date determines the day. -/
theorem day_unique {days days' : Int} (years : (yearDay days).1 = (yearDay days').1)
    (dates : monthDay 1 (monthLengths (isLeap (yearDay days).1)) (yearDay days).2 =
      monthDay 1 (monthLengths (isLeap (yearDay days').1)) (yearDay days').2) : days = days' := by
  have short : ∀ leap, ∀ length ∈ monthLengths leap, length ≤ 31 := by decide
  have number := yearDay_number days
  have number' := yearDay_number days'
  obtain ⟨k, d, found, _, _, here⟩ := monthDay_spec 1 (short _) (yday_lt days)
  obtain ⟨k', d', found', _, _, here'⟩ := monthDay_spec 1 (short _) (yday_lt days')
  rw [found, found', Prod.mk.injEq] at dates
  obtain rfl : k = k' := by omega
  obtain rfl : d = d' := by omega
  rw [years] at here number
  omega

@[simp] theorem length_padded (width n : Nat) : (padded width n).length = width := by
  induction width generalizing n with
  | zero => rfl
  | succ width ih => simp [padded, ih]

theorem padded_inj {width n m : Nat} (small : n < 10 ^ width) (small' : m < 10 ^ width) :
    padded width n = padded width m ↔ n = m := by
  refine ⟨fun same => ?_, congrArg _⟩
  induction width generalizing n m with
  | zero => omega
  | succ width ih =>
    rw [Nat.pow_succ] at small small'
    obtain ⟨front, last⟩ := List.append_inj same (by simp)
    have quotients := ih (by omega) (by omega) front
    have digits := congrArg Fin.val (List.singleton_inj.mp last)
    simp only [Fin.val_ofNat] at digits
    omega

theorem length_dateText (days : Int) : (dateText days).length = 10 := by
  simp [dateText, lit]

theorem dateText_inj {days days' : Int} (dated : 1 ≤ (yearDay days).1 ∧ (yearDay days).1 ≤ 9999)
    (dated' : 1 ≤ (yearDay days').1 ∧ (yearDay days').1 ≤ 9999) (same : dateText days = dateText days') : days = days' := by
  simp only [dateText] at same
  obtain ⟨front, day⟩ := List.append_inj same (by simp [lit])
  obtain ⟨front, month⟩ := List.append_inj (List.append_inj front (by simp [lit])).1 (by simp [lit])
  obtain ⟨year, _⟩ := List.append_inj front (by simp)
  have years := (padded_inj (by omega) (by omega)).mp year
  have months := (padded_inj (monthDay_bounds days).1 (monthDay_bounds days').1).mp month
  have numbers := (padded_inj (monthDay_bounds days).2 (monthDay_bounds days').2).mp day
  exact day_unique (by omega) (Prod.ext months numbers)

theorem timeText_inj {time time' : Nat} (inDay : time < 86400000000) (inDay' : time' < 86400000000)
    (same : timeText time = timeText time') : time = time' := by
  simp only [timeText] at same
  obtain ⟨front, fraction⟩ := List.append_inj same (by simp [lit])
  obtain ⟨front, second⟩ := List.append_inj front (by simp [lit])
  obtain ⟨front, minute⟩ := List.append_inj (List.append_inj front (by simp [lit])).1 (by simp [lit])
  obtain ⟨hour, _⟩ := List.append_inj front (by simp)
  have hours := (padded_inj (by omega) (by omega)).mp hour
  have minutes := (padded_inj (by omega) (by omega)).mp minute
  have seconds := (padded_inj (by omega) (by omega)).mp second
  have fractions : time % 1000000 = time' % 1000000 := by
    split_ifs at fraction with whole whole' whole'
    · omega
    · simp [lit] at fraction
    · simp [lit] at fraction
    · exact (padded_inj (by omega) (by omega)).mp (List.append_cancel_left fraction)
  omega

/-- Different instants are printed differently. -/
theorem isoformat_injective : Function.Injective Datetime.isoformat := by
  intro instant instant' same
  obtain ⟨date, time⟩ := List.append_inj (List.append_cancel_right same) (by simp [length_dateText, lit])
  have days := dateText_inj instant.dated instant'.dated (List.append_cancel_right date)
  have times := timeText_inj (by omega) (by omega) time
  unfold dayNumber at days
  cases instant
  cases instant'
  simp only at days times
  simp only [Datetime.mk.injEq]
  omega

/-! ### What a `datetime` can represent -/

/-- From the first microsecond of the year 1 to before that of the year 10000. -/
def Representable (microseconds : Int) : Prop := -62135596800000000 ≤ microseconds ∧ microseconds < 253402300800000000

instance (microseconds : Int) : Decidable (Representable microseconds) := inferInstanceAs (Decidable (_ ∧ _))

theorem dated_iff (n : Int) : 1 ≤ (yearDay (dayNumber n)).1 ∧ (yearDay (dayNumber n)).1 ≤ 9999 ↔ Representable n := by
  obtain ⟨early, late⟩ := year_bounds (dayNumber n)
  rw [early, late, Representable, dayNumber]
  omega

/-- The instant of a timestamp is that of its microseconds. -/
theorem fromtimestamp_eq_ok {timestamp : PyReal} {instant : Datetime} :
    fromtimestamp timestamp = .ok instant ↔
      ∃ value, timestamp = .finite value ∧ instant.microseconds = microseconds value := by
  cases timestamp with
  | finite value =>
    simp only [fromtimestamp, PyReal.finite.injEq, exists_eq_left']
    constructor
    · intro made
      split_ifs at made
      rw [← Except.ok.inj made]
    · intro same
      have inYears := instant.dated
      have inside := (dated_iff _).mp inYears
      rw [same] at inYears inside
      unfold Representable at inside
      rw [if_neg (by omega), if_neg (by omega), dif_pos inYears]
      cases instant
      simp only at same
      simp only [same]
  | _ => simp [fromtimestamp]

/-- A timestamp has an instant exactly if its microseconds lie in the years of a `datetime`. -/
theorem represents_iff {timestamp : PyReal} : (∃ instant, fromtimestamp timestamp = .ok instant) ↔
    ∃ value, timestamp = .finite value ∧ Representable (microseconds value) := by
  constructor
  · rintro ⟨instant, made⟩
    obtain ⟨value, rfl, same⟩ := fromtimestamp_eq_ok.mp made
    exact ⟨value, rfl, same ▸ (dated_iff _).mp instant.dated⟩
  · rintro ⟨value, rfl, inside⟩
    exact ⟨⟨microseconds value, (dated_iff _).mpr inside⟩, fromtimestamp_eq_ok.mpr ⟨value, rfl, rfl⟩⟩

example : (fromtimestamp (.finite (951868799 + 1 / 2))).map Datetime.isoformat =
    .ok (lit "2000-02-29T23:59:59.500000+00:00") := by
  decide +kernel

end OracleSchema.Instants

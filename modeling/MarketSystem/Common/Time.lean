import Mathlib.Tactic.Ring

/-!
# Candle boundaries on the local wall clock

`utils.GetKlineOpenTime` reads the calendar fields of `time.UnixMilli(ts)` in the process's time
zone, truncates the minute (or the hour) to the interval, and turns the fields back into an
instant with `time.Date` in the same zone.  A zone is what Go's `Location.lookup` returns for an
instant: an offset and the span of instants it is in force over.  `t.Year()`, `t.Month()` and
`t.Day()` only ever go back into `time.Date` together, which recovers the same day, so the date
is kept as a count of days since 1970-01-01.
-/

namespace MarketSystem

/-- The zone `Location.lookup` finds for an instant (in seconds): its offset east of UTC in
seconds and the instants `[start, stop)` it is in force over. -/
structure ZoneSpan where
  offset : Int
  start : Int
  stop : Int
  deriving DecidableEq, Repr

/-- A time zone, as `Location.lookup` presents it. -/
structure Location where
  lookup : Int → ZoneSpan

/-- Go's `alpha` and `omega`: the span of a zone that never changes. -/
def alpha : Int := -2 ^ 63

def omega : Int := 2 ^ 63 - 1

/-- `time.FixedZone`: one offset at every instant.  `time.UTC` is `fixed 0`. -/
def Location.fixed (offset : Int) : Location :=
  ⟨fun _ => ⟨offset, alpha, omega⟩⟩

/-- The local wall clock of an instant, in seconds since 1970-01-01 00:00 on that clock: what
the calendar fields of a `time.Time` are read from. -/
def Location.wallClock (loc : Location) (unix : Int) : Int :=
  unix + (loc.lookup unix).offset

/-- `time.Date` on a wall clock given in seconds: take the zone in force where the wall clock,
read as UTC, falls; if subtracting its offset leaves that zone, use the offset in force at the
result instead. -/
def Location.date (loc : Location) (wall : Int) : Int :=
  let zone := loc.lookup wall
  if zone.offset = 0 then wall
  else
    let utc := wall - zone.offset
    if utc < zone.start ∨ zone.stop ≤ utc then wall - (loc.lookup utc).offset else utc

/-- The calendar fields `GetKlineOpenTime` reads, with the date as a day count. -/
structure WallFields where
  day : Int
  hour : Int
  minute : Int

/-- `t.Day()` (as a day count), `t.Hour()` and `t.Minute()` of a wall clock. -/
def WallFields.ofWall (wall : Int) : WallFields :=
  ⟨wall / 86400, wall % 86400 / 3600, wall % 3600 / 60⟩

/-- `time.Date(year, month, day, hour, minute, 0, 0, loc).UnixMilli()`. -/
def Location.dateMilli (loc : Location) (f : WallFields) : Int :=
  loc.date (f.day * 86400 + f.hour * 3600 + f.minute * 60) * 1000

/-- `utils.GetKlineOpenTime`; `time.UnixMilli` floors the milliseconds to seconds. -/
def getKlineOpenTime (loc : Location) (timestamp : Int) (interval : String) : Int :=
  let t := WallFields.ofWall (loc.wallClock (timestamp / 1000))
  match interval with
  | "1m" => loc.dateMilli ⟨t.day, t.hour, t.minute⟩
  | "5m" => loc.dateMilli ⟨t.day, t.hour, t.minute / 5 * 5⟩
  | "15m" => loc.dateMilli ⟨t.day, t.hour, t.minute / 15 * 15⟩
  | "30m" => loc.dateMilli ⟨t.day, t.hour, t.minute / 30 * 30⟩
  | "1h" => loc.dateMilli ⟨t.day, t.hour, 0⟩
  | "4h" => loc.dateMilli ⟨t.day, t.hour / 4 * 4, 0⟩
  | "1d" => loc.dateMilli ⟨t.day, 0, 0⟩
  | _ => timestamp

/-- `utils.GetKlineCloseTime`: one period of absolute time after the open, less a millisecond. -/
def getKlineCloseTime (openTime : Int) (interval : String) : Int :=
  match interval with
  | "1m" => openTime + 60 * 1000 - 1
  | "5m" => openTime + 5 * 60 * 1000 - 1
  | "15m" => openTime + 15 * 60 * 1000 - 1
  | "30m" => openTime + 30 * 60 * 1000 - 1
  | "1h" => openTime + 3600 * 1000 - 1
  | "4h" => openTime + 4 * 3600 * 1000 - 1
  | "1d" => openTime + 24 * 3600 * 1000 - 1
  | _ => openTime

/-- The period, in seconds, of each interval `GetKlineOpenTime` knows. -/
def klinePeriod : String → Option Int
  | "1m" => some 60
  | "5m" => some 300
  | "15m" => some 900
  | "30m" => some 1800
  | "1h" => some 3600
  | "4h" => some 14400
  | "1d" => some 86400
  | _ => none

/-- Truncating the calendar fields floors the wall clock to a multiple of the period: every
period divides an hour or a day, and days start at multiples of 86400. -/
theorem getKlineOpenTime_eq (loc : Location) (timestamp : Int) (interval : String) :
    getKlineOpenTime loc timestamp interval =
      match klinePeriod interval with
      | some period =>
          let wall := loc.wallClock (timestamp / 1000)
          loc.date (wall - wall % period) * 1000
      | none => timestamp := by
  unfold getKlineOpenTime klinePeriod Location.dateMilli WallFields.ofWall
  split <;> simp only [] <;> congr 2 <;> omega

@[simp]
theorem Location.date_fixed (offset wall : Int) : (Location.fixed offset).date wall = wall - offset := by
  by_cases zero : offset = 0 <;> simp [Location.date, Location.fixed, zero]

@[simp]
theorem Location.wallClock_fixed (offset unix : Int) :
    (Location.fixed offset).wallClock unix = unix + offset :=
  rfl

theorem klinePeriod_pos {interval : String} {period : Int} (known : klinePeriod interval = some period) :
    0 < period := by
  unfold klinePeriod at known
  split at known <;> cases known <;> decide

/-- Flooring to a multiple of a positive period is monotone. -/
theorem sub_emod_le_sub_emod {period a b : Int} (pos : 0 < period) (ordered : a ≤ b) :
    a - a % period ≤ b - b % period := by
  rw [Int.emod_def, Int.emod_def, sub_sub_cancel, sub_sub_cancel]
  exact Int.mul_le_mul_of_nonneg_left (Int.ediv_le_ediv pos ordered) pos.le

/-- A zone one hour east of UTC until the instant 90000 (1970-01-02 01:00 UTC) and on UTC from
then on: the wall clock falls back from 02:00 to 01:00 there, so the local 1970-01-02 lasts
25 hours. -/
def fallBack : Location :=
  ⟨fun unix => if unix < 90000 then ⟨3600, alpha, 90000⟩ else ⟨0, 90000, omega⟩⟩

/-- In a zone with one offset, open times never decrease as the timestamp grows. -/
theorem getKlineOpenTime_fixed_monotone (offset : Int) (interval : String) ⦃early late : Int⦄
    (ordered : early ≤ late) :
    getKlineOpenTime (.fixed offset) early interval ≤ getKlineOpenTime (.fixed offset) late interval := by
  simp only [getKlineOpenTime_eq, Location.date_fixed, Location.wallClock_fixed]
  split
  · next period known =>
    have seconds : early / 1000 ≤ late / 1000 := Int.ediv_le_ediv (by decide) ordered
    have floored := sub_emod_le_sub_emod (klinePeriod_pos known) (add_le_add_right seconds offset)
    exact Int.mul_le_mul_of_nonneg_right (by omega) (by decide)
  · exact ordered

/-- Across a change of offset open times can decrease: the second before `fallBack` falls back,
01:59:59 on the wall clock, opens the minute 01:59 read on the clock after the change, and the
second after it the minute 01:00. -/
example : getKlineOpenTime fallBack 89999000 "1m" = 93540000 ∧
    getKlineOpenTime fallBack 90000000 "1m" = 90000000 := by
  decide

/-- Every known interval's candle closes one period after it opens, less a millisecond. -/
theorem getKlineCloseTime_eq {interval : String} {period : Int}
    (known : klinePeriod interval = some period) (openTime : Int) :
    getKlineCloseTime openTime interval = openTime + period * 1000 - 1 := by
  unfold klinePeriod at known
  split at known <;> cases known <;> simp only [getKlineCloseTime] <;> omega

/-- Flooring to a multiple of a positive period is constant on each period. -/
theorem sub_emod_eq_of_mem {period a b : Int} (pos : 0 < period)
    (lower : a - a % period ≤ b) (upper : b < a - a % period + period) :
    b - b % period = a - a % period := by
  have floor : a - a % period = period * (a / period) := by rw [Int.emod_def]; ring
  rw [floor] at lower upper ⊢
  obtain ⟨quotient, -⟩ := (Int.ediv_emod_unique pos).mpr
    ⟨show b - period * (a / period) + period * (a / period) = b by ring, by omega, by omega⟩
  rw [Int.emod_def, quotient]
  ring

theorem daily_candle_misses_fall_back :
    getKlineOpenTime fallBack 172799000 "1d" = 82800000 ∧
      getKlineCloseTime 82800000 "1d" = 169199999 ∧ (169199999 : Int) < 172799000 := by
  decide

end MarketSystem

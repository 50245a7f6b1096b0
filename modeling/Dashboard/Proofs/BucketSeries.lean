import Dashboard.Proofs.Compilation
import Dashboard.Registry.Bundled
import Mathlib.Algebra.Order.Ring.Int
import Mathlib.Data.Int.Init
import Mathlib.Data.List.Nodup
import Mathlib.Order.Bounds.Basic

/-!
# The dates of a series

What the series of a bucket plan and the condition of its join mean for the times of rows. Times are
counted in microseconds since 1970-01-01 on a clock without an offset from UTC.

* A `TimeEngine` truncates times to units and generates series of dates, as a database does; of the
  units that always have the same length it is known how.
* `SeriesCall` and `TimeTerm` are the expressions of a plan, with their SQL and their values:
  `BucketPlan.series_eq` and `BucketPlan.source_eq` say that the statement consists of them.
* `count_dates_of_time`: a time between the bounds meets the condition with exactly one date of the
  series, except in the bucket of the upper bound: if the upper bound lies earlier in its bucket
  than the lower bound in its own, the series ends before that bucket and the time meets none.
-/

namespace Dashboard

/-! ### Times -/

/-- The length of a unit in microseconds, for the units that divide a day. -/
def TemporalUnit.fixedLength? : TemporalUnit → Option ℕ
  | day => some 86400000000
  | hour => some 3600000000
  | minute => some 60000000
  | _ => none

theorem TemporalUnit.fixedLength_pos {unit : TemporalUnit} {len : ℕ}
    (h : unit.fixedLength? = some len) : 0 < len := by
  cases unit <;> simp only [fixedLength?, reduceCtorEq, Option.some.injEq] at h <;> omega

/-- The time of a timestamp without an offset from UTC. -/
def Value.clockTime? : Value → Option ℤ
  | .time t => if t.offset = none then some (1000000 * t.moment.2.1 + t.moment.2.2) else none
  | _ => none

/-- The comparison of two times. -/
def DatetimeOperator.Compares : DatetimeOperator → ℤ → ℤ → Prop
  | gt, x, bound => bound < x
  | lt, x, bound => x < bound
  | ge, x, bound => bound ≤ x
  | le, x, bound => x ≤ bound

instance (op : DatetimeOperator) (x bound : ℤ) : Decidable (op.Compares x bound) :=
  match op with
  | .gt => inferInstanceAs (Decidable (bound < x))
  | .lt => inferInstanceAs (Decidable (x < bound))
  | .ge => inferInstanceAs (Decidable (bound ≤ x))
  | .le => inferInstanceAs (Decidable (x ≤ bound))

/-- A filter holds of a time. -/
def Draft.Filter.AdmitsTime (f : Draft.Filter) (x : ℤ) : Prop :=
  ∃ op : DatetimeOperator, Keyword.ofWord? f.operator = some op ∧
    ∃ bound, f.value.clockTime? = some bound ∧ op.Compares x bound

/-- What a database makes of units of time. Truncation to a unit of fixed length gives the last
multiple of it that is not after the time, and a series goes on in steps of the unit as long as the
end is not passed. -/
structure TimeEngine where
  trunc : TemporalUnit → ℤ → ℤ
  series : ℤ → ℤ → TemporalUnit → List ℤ
  trunc_isGreatest : ∀ {unit : TemporalUnit} {len : ℕ}, unit.fixedLength? = some len →
    ∀ x, IsGreatest {m : ℤ | (len : ℤ) ∣ m ∧ m ≤ x} (trunc unit x)
  getElem?_series : ∀ {unit : TemporalUnit} {len : ℕ}, unit.fixedLength? = some len →
    ∀ (start stop : ℤ) (i : ℕ), (series start stop unit)[i]? =
      if start + i * len ≤ stop then some (start + i * len) else none

/-! ### Expressions of a plan -/

/-- A generated series of dates: its first date, its end, and its step. -/
structure SeriesCall where
  start : Value
  stop : Value
  step : TemporalUnit

namespace SeriesCall

/-- The series as SQL. -/
def fragment (s : SeriesCall) : Fragment :=
  .concat [.raw "generate_series(", .bind s.start, .raw ", ", .bind s.stop,
    .raw (", '1 " ++ Keyword.word s.step ++ "'::interval)")]

/-- The dates of the series. -/
def dates (s : SeriesCall) (E : TimeEngine) : List ℤ :=
  match s.start.clockTime?, s.stop.clockTime? with
  | some start, some stop => E.series start stop s.step
  | _, _ => []

end SeriesCall

/-- An expression of time: a column, the date of the series, or either truncated to a unit. -/
inductive TimeTerm where
  | column (internal : String)
  | seriesDate
  | truncated (unit : TemporalUnit) (term : TimeTerm)

namespace TimeTerm

/-- An expression as SQL. -/
def fragment : TimeTerm → Fragment
  | column internal => .raw internal
  | seriesDate => seriesColumn
  | truncated unit term => dateTrunc unit term.fragment

/-- The value of an expression in a row whose column holds the time `x`, at a date. -/
def value (E : TimeEngine) (x date : ℤ) : TimeTerm → ℤ
  | column _ => x
  | seriesDate => date
  | truncated unit term => E.trunc unit (term.value E x date)

end TimeTerm

namespace BucketPlan

/-- The series of a plan. -/
def seriesCall (p : BucketPlan) : SeriesCall := ⟨p.lower.value, p.upper.value, p.unit⟩

/-- The two sides of the condition on which rows are joined to dates. -/
def joinTerms (p : BucketPlan) : TimeTerm × TimeTerm :=
  (.truncated p.unit (.column p.column.internal), .truncated p.unit .seriesDate)

/-- A row with the time `x` is joined to a date. -/
def Joins (p : BucketPlan) (E : TimeEngine) (x date : ℤ) : Prop :=
  p.joinTerms.1.value E x date = p.joinTerms.2.value E x date

instance (p : BucketPlan) (E : TimeEngine) (x : ℤ) : DecidablePred (p.Joins E x) :=
  fun _ => inferInstanceAs (Decidable (_ = _))

theorem series_eq (p : BucketPlan) :
    p.series = .concat [.raw "WITH date_series AS (SELECT ", p.seriesCall.fragment,
      .raw " AS \"date\") "] := by
  apply Fragment.ext
  · simp [series, SeriesCall.fragment, seriesCall, Fragment.raw, Fragment.bind, Fragment.empty,
      Fragment.joinStrings, String.append_assoc]
  · rfl

theorem source_eq (p : BucketPlan) (t : Table) :
    p.source t = .concat [.raw (" FROM date_series LEFT JOIN " ++ t.source ++ " ON "),
      p.joinTerms.1.fragment, .raw " = ", p.joinTerms.2.fragment] := rfl

end BucketPlan

/-! ### Truncation and series -/

/-- The last multiple of a length that is not after a time. -/
def floorTo (len : ℕ) (x : ℤ) : ℤ := len * (x / len)

/-- The times from a start in steps of a length, as long as the end is not passed. -/
def stepsTo (len : ℕ) (start stop : ℤ) : List ℤ :=
  (List.range ((stop - start) / len + 1).toNat).map fun i : ℕ => start + i * len

section

variable {len : ℕ} (hpos : 0 < len)
include hpos

theorem floorTo_isGreatest (x : ℤ) :
    IsGreatest {m : ℤ | (len : ℤ) ∣ m ∧ m ≤ x} (floorTo len x) := by
  have hlen : (0 : ℤ) < len := by exact_mod_cast hpos
  refine ⟨⟨Int.dvd_mul_right _ _, Int.mul_ediv_self_le hlen.ne'⟩, ?_⟩
  rintro m ⟨⟨k, rfl⟩, hm⟩
  have hk : k ≤ x / len := (Int.le_ediv_iff_mul_le hlen).2 (by rwa [Int.mul_comm])
  exact Int.mul_le_mul_of_nonneg_left hk hlen.le

theorem floorTo_eq_iff (x y : ℤ) : floorTo len x = floorTo len y ↔ x / len = y / len := by
  have hlen : (len : ℤ) ≠ 0 := by exact_mod_cast hpos.ne'
  exact Int.mul_eq_mul_left_iff hlen

theorem lt_length_stepsTo_iff (start stop : ℤ) (i : ℕ) :
    i < ((stop - start) / len + 1).toNat ↔ start + i * len ≤ stop := by
  have hlen : (0 : ℤ) < len := by exact_mod_cast hpos
  rw [Int.lt_toNat, Int.lt_add_one_iff, Int.le_ediv_iff_mul_le hlen]
  omega

theorem getElem?_stepsTo (start stop : ℤ) (i : ℕ) : (stepsTo len start stop)[i]? =
    if start + i * len ≤ stop then some (start + i * len) else none := by
  rw [stepsTo, List.getElem?_map]
  by_cases hi : i < ((stop - start) / len + 1).toNat
  · rw [if_pos ((lt_length_stepsTo_iff hpos start stop i).1 hi), List.getElem?_range hi,
      Option.map_some]
  · rw [if_neg (mt (lt_length_stepsTo_iff hpos start stop i).2 hi),
      List.getElem?_eq_none (by simpa using hi), Option.map_none]

/-- Of the times in steps, the one in the bucket of `x` is as many steps from the start as there are
buckets between them, if the end is not passed before. -/
theorem countP_stepsTo {start stop x : ℤ} (hx : start ≤ x) :
    (stepsTo len start stop).countP (fun date => decide (floorTo len x = floorTo len date)) =
      if start + (x / len - start / len) * len ≤ stop then 1 else 0 := by
  have hlen : (0 : ℤ) < len := by exact_mod_cast hpos
  obtain ⟨k, hk⟩ := Int.eq_ofNat_of_zero_le (Int.sub_nonneg_of_le (Int.ediv_le_ediv hlen hx))
  have hsame (i : ℕ) : floorTo len x = floorTo len (start + i * len) ↔ i = k := by
    rw [floorTo_eq_iff hpos, Int.add_mul_ediv_right _ _ hlen.ne']
    omega
  have hcount : (stepsTo len start stop).countP
      (fun date => decide (floorTo len x = floorTo len date)) =
        (List.range ((stop - start) / len + 1).toNat).count k := by
    rw [stepsTo, List.countP_map, List.count]
    refine List.countP_congr fun i _ => ?_
    simp [hsame i]
  rw [hcount, List.nodup_range.count, hk]
  simp only [List.mem_range, lt_length_stepsTo_iff hpos]

/-- The step from the start into the bucket of `x` does not pass the end, unless this is the bucket
of the end and the end lies earlier in it than the start in its own. -/
theorem step_le_iff {start stop x : ℤ} (hx : x ≤ stop) :
    start + (x / len - start / len) * len ≤ stop ↔
      ¬(x / len = stop / len ∧ stop % len < start % len) := by
  have hlen : (0 : ℤ) < len := by exact_mod_cast hpos
  have hstart := Int.mul_ediv_add_emod start len
  have hstop := Int.mul_ediv_add_emod stop len
  have hlow := Int.emod_nonneg stop hlen.ne'
  have hhigh := Int.emod_lt_of_pos start hlen
  have hmul : (x / len - start / len) * len = len * (x / len) - len * (start / len) := by
    rw [Int.sub_mul, Int.mul_comm, Int.mul_comm (start / len)]
  rw [hmul]
  rcases (Int.ediv_le_ediv hlen hx).lt_or_eq with hlt | heq
  · -- a whole bucket lies between
    have hbucket : len * (x / len + 1) ≤ len * (stop / len) :=
      Int.mul_le_mul_of_nonneg_left hlt hlen.le
    rw [Int.mul_add, Int.mul_one] at hbucket
    constructor
    · rintro - ⟨heq, -⟩
      omega
    · intro _
      omega
  · rw [heq]
    constructor
    · rintro h ⟨-, hlate⟩
      omega
    · intro h
      have hearly : ¬stop % len < start % len := fun hlate => h ⟨rfl, hlate⟩
      omega

end

namespace TimeEngine

variable (E : TimeEngine) {unit : TemporalUnit} {len : ℕ}

theorem trunc_eq (hlen : unit.fixedLength? = some len) (x : ℤ) :
    E.trunc unit x = floorTo len x :=
  (E.trunc_isGreatest hlen x).unique (floorTo_isGreatest (TemporalUnit.fixedLength_pos hlen) x)

/-- What is left of a time when it is truncated. -/
theorem sub_trunc (hlen : unit.fixedLength? = some len) (x : ℤ) :
    x - E.trunc unit x = x % len := by
  rw [E.trunc_eq hlen, floorTo, Int.emod_def]

theorem series_eq (hlen : unit.fixedLength? = some len) (start stop : ℤ) :
    E.series start stop unit = stepsTo len start stop := by
  apply List.ext_getElem?
  intro i
  rw [E.getElem?_series hlen, getElem?_stepsTo (TemporalUnit.fixedLength_pos hlen)]

/-- Truncation by division, and series written out. -/
def flooring : TimeEngine where
  trunc unit x := match unit.fixedLength? with
    | some len => floorTo len x
    | none => x
  series start stop unit := match unit.fixedLength? with
    | some len => stepsTo len start stop
    | none => []
  trunc_isGreatest := by
    intro unit len hlen x
    simp only [hlen]
    exact floorTo_isGreatest (TemporalUnit.fixedLength_pos hlen) x
  getElem?_series := by
    intro unit len hlen start stop i
    simp only [hlen]
    exact getElem?_stepsTo (TemporalUnit.fixedLength_pos hlen) start stop i

end TimeEngine

/-! ### Times between the bounds of a plan -/

namespace Draft

theorem operators_of_bounds? {d : Draft} {l u : Filter} (h : d.bounds? = some (l, u)) :
    l.operator ∈ lowerOperators ∧ u.operator ∈ upperOperators := by
  obtain ⟨l', hl, h⟩ := Option.bind_eq_some_iff.1 h
  obtain ⟨u', hu, h⟩ := Option.bind_eq_some_iff.1 h
  cases h
  exact ⟨by simpa using List.find?_some hl, by simpa using List.find?_some hu⟩

theorem le_of_admitsTime_lower {f : Filter} (hf : f.operator ∈ lowerOperators) {x a : ℤ}
    (ha : f.value.clockTime? = some a) (hx : f.AdmitsTime x) : a ≤ x := by
  obtain ⟨op, hop, b, hb, hcompares⟩ := hx
  cases ha.symm.trans hb
  have hword := Keyword.word_of_ofWord? hop
  rw [← hword] at hf
  cases op with
  | gt => exact hcompares.le
  | ge => exact hcompares
  | lt => exact absurd hf (by decide)
  | le => exact absurd hf (by decide)

theorem le_of_admitsTime_upper {f : Filter} (hf : f.operator ∈ upperOperators) {x b : ℤ}
    (hb : f.value.clockTime? = some b) (hx : f.AdmitsTime x) : x ≤ b := by
  obtain ⟨op, hop, b', hb', hcompares⟩ := hx
  cases hb.symm.trans hb'
  have hword := Keyword.word_of_ofWord? hop
  rw [← hword] at hf
  cases op with
  | lt => exact hcompares.le
  | le => exact hcompares
  | gt => exact absurd hf (by decide)
  | ge => exact absurd hf (by decide)

end Draft

/-- A time that both bounds of a plan admit is joined to exactly one date of the series, unless it
lies in the bucket of the upper bound and the upper bound lies earlier in its bucket than the lower
bound in its own. Then it is joined to none. -/
theorem count_dates_of_time {d : Draft} {t : Table} {p : BucketPlan}
    (hplan : d.plan t = .ok (some p)) {len : ℕ} (hlen : p.unit.fixedLength? = some len) {a b : ℤ}
    (ha : p.lower.value.clockTime? = some a) (hb : p.upper.value.clockTime? = some b)
    (E : TimeEngine) {x : ℤ} (hlower : p.lower.AdmitsTime x) (hupper : p.upper.AdmitsTime x) :
    (p.seriesCall.dates E).countP (fun date => decide (p.Joins E x date)) =
      if E.trunc p.unit x = E.trunc p.unit b ∧ b - E.trunc p.unit b < a - E.trunc p.unit a then 0
      else 1 := by
  obtain ⟨name, unit, -, hbounds, -⟩ := Draft.plan_eq_some.1 hplan
  obtain ⟨hlo, huo⟩ := Draft.operators_of_bounds? hbounds
  have hax := Draft.le_of_admitsTime_lower hlo ha hlower
  have hxb := Draft.le_of_admitsTime_upper huo hb hupper
  have hpos := TemporalUnit.fixedLength_pos hlen
  have hdates : p.seriesCall.dates E = stepsTo len a b := by
    rw [← E.series_eq hlen]
    simp only [SeriesCall.dates, BucketPlan.seriesCall, ha, hb]
  have hjoins (date : ℤ) : p.Joins E x date ↔ floorTo len x = floorTo len date := by
    rw [← E.trunc_eq hlen, ← E.trunc_eq hlen]
    exact Iff.rfl
  have hlast : (E.trunc p.unit x = E.trunc p.unit b ∧
      b - E.trunc p.unit b < a - E.trunc p.unit a) ↔ x / len = b / len ∧ b % len < a % len := by
    rw [E.sub_trunc hlen, E.sub_trunc hlen, E.trunc_eq hlen, E.trunc_eq hlen, floorTo_eq_iff hpos]
  rw [hdates]
  simp only [hjoins, countP_stepsTo hpos hax, step_le_iff hpos hxb, hlast, ite_not]

namespace Bundled

/-- The traces of a stretch of time, counted by day. -/
def tracedDays (start stop : Timestamp) : Query where
  table := "traces"
  select := [⟨"id", some .count⟩]
  filters := [.datetime "timestamp" .ge start, .datetime "timestamp" .lt stop]
  groups := [.datetime "timestamp" .day]
  orders := []
  limit := none

/-- The time of an hour in January 2024. -/
def januaryHour (day hour : ℕ) : Timestamp := ⟨⟨2024, 1, day⟩, hour, 0, 0, 0, none⟩

/-- The plan for the time from the noon of the first day to the morning of the third. -/
def noonPlan : BucketPlan where
  column := plain "timestamp" "t.\"timestamp\"" .datetime
  unit := .day
  lower := (Filter.datetime "timestamp" .ge (januaryHour 1 12)).toDraft
  upper := (Filter.datetime "timestamp" .lt (januaryHour 3 6)).toDraft

/-- Three in the morning of the second day. -/
def secondMorning : ℤ := 1704164400000000

/-- Three in the morning of the third day. -/
def thirdMorning : ℤ := 1704250800000000

end Bundled

open Bundled in
/-- In a series that starts at noon and is to end at six in the morning of the third day, a trace of
the second day has its date, and one of the third day at three in the morning has none. -/
theorem count_dates_of_time_noonPlan :
    (tracedDays (januaryHour 1 12) (januaryHour 3 6)).toDraft.plan traces = .ok (some noonPlan) ∧
    (Value.time (januaryHour 2 3)).clockTime? = some secondMorning ∧
    (Value.time (januaryHour 3 3)).clockTime? = some thirdMorning ∧
    noonPlan.lower.AdmitsTime secondMorning ∧ noonPlan.upper.AdmitsTime secondMorning ∧
    noonPlan.lower.AdmitsTime thirdMorning ∧ noonPlan.upper.AdmitsTime thirdMorning ∧
    (noonPlan.seriesCall.dates .flooring).countP
      (fun date => decide (noonPlan.Joins .flooring secondMorning date)) = 1 ∧
    (noonPlan.seriesCall.dates .flooring).countP
      (fun date => decide (noonPlan.Joins .flooring thirdMorning date)) = 0 := by
  have hplan : (tracedDays (januaryHour 1 12) (januaryHour 3 6)).toDraft.plan traces =
      .ok (some noonPlan) := rfl
  have hlen : noonPlan.unit.fixedLength? = some 86400000000 := rfl
  have ha : noonPlan.lower.value.clockTime? = some 1704110400000000 := by decide
  have hb : noonPlan.upper.value.clockTime? = some 1704261600000000 := by decide
  have hsecond : noonPlan.lower.AdmitsTime secondMorning ∧
      noonPlan.upper.AdmitsTime secondMorning :=
    ⟨⟨.ge, rfl, _, ha, by decide⟩, ⟨.lt, rfl, _, hb, by decide⟩⟩
  have hthird : noonPlan.lower.AdmitsTime thirdMorning ∧
      noonPlan.upper.AdmitsTime thirdMorning :=
    ⟨⟨.ge, rfl, _, ha, by decide⟩, ⟨.lt, rfl, _, hb, by decide⟩⟩
  refine ⟨hplan, by decide, by decide, hsecond.1, hsecond.2, hthird.1, hthird.2, ?_, ?_⟩
  · rw [count_dates_of_time hplan hlen ha hb .flooring hsecond.1 hsecond.2]
    decide
  · rw [count_dates_of_time hplan hlen ha hb .flooring hthird.1 hthird.2]
    decide

end Dashboard

import Dashboard.Proofs.BuildOutcome
import Dashboard.Registry.Bundled

/-!
# Bounds on several columns

The bounds of a bucket plan are looked for among all datetime filters of a query. Only when they
have been chosen are their columns compared with the one that the query groups by.

* `Query.Bounds` says that a query bounds a column in a direction, `Query.Leads` that it does so
  before it bounds any other column in that direction.
* `Query.find?_of_bounds`: if a query bounds a column, the first bound in that direction is on this
  column exactly if the column leads.
* `plan_of_bounds`: a query that bounds the column that it groups by has a plan exactly if this
  column leads in both directions. Otherwise the query is refused, although the range is there.
-/

namespace Dashboard
namespace Query

/-- A query has a bound on a column, in the direction that `bound` tells. -/
def Bounds (q : Query) (bound : Filter → Bool) (name : String) : Prop :=
  ∃ f ∈ q.filters, bound f = true ∧ f.column = name

/-- Every bound on another column comes after one on this column. -/
def Leads (q : Query) (bound : Filter → Bool) (name : String) : Prop :=
  ∀ front f back, q.filters = front ++ f :: back → bound f = true → f.column ≠ name →
    ∃ g ∈ front, bound g = true ∧ g.column = name

/-- Of two places in a list, one that is not in front of the other comes after it. -/
theorem mem_front_of_append {α : Type} {as bs front back : List α} {a b : α}
    (h : as ++ a :: bs = front ++ b :: back) (hb : b ∉ as) (hne : a ≠ b) : a ∈ front := by
  induction as generalizing front with
  | nil =>
    cases front with
    | nil => exact absurd (List.cons.inj h).1 hne
    | cons c front =>
      rw [(List.cons.inj h).1]
      exact List.mem_cons_self
  | cons c as ih =>
    obtain ⟨hc, hb⟩ := not_or.1 (List.mem_cons.not.1 hb)
    cases front with
    | nil => exact absurd (List.cons.inj h).1.symm hc
    | cons d front => exact List.mem_cons_of_mem _ (ih (List.cons.inj h).2 hb)

variable {q : Query} {bound : Filter → Bool} {name : String}

/-- A query that bounds a column has a first bound, which is on that column exactly if the column
leads. -/
theorem find?_of_bounds (h : q.Bounds bound name) :
    ∃ f, q.filters.find? bound = some f ∧ (f.column = name ↔ q.Leads bound name) := by
  obtain ⟨g, hg, hbound, hcolumn⟩ := h
  have hsome : (q.filters.find? bound).isSome = true := List.find?_isSome.2 ⟨g, hg, hbound⟩
  obtain ⟨f, hf⟩ := Option.isSome_iff_exists.1 hsome
  obtain ⟨hfbound, as, bs, hsplit, has⟩ := List.find?_eq_some_iff_append.1 hf
  have hnone : ∀ x ∈ as, bound x ≠ true := fun x hx => by simpa using has x hx
  refine ⟨f, hf, fun hname front x back hx hxbound hxname => ?_, fun hleads => ?_⟩
  · -- no bound comes before the first one, so this one stands behind it
    have hxas : x ∉ as := fun hmem => hnone x hmem hxbound
    have hne : f ≠ x := fun heq => hxname (heq ▸ hname)
    exact ⟨f, mem_front_of_append (hsplit ▸ hx) hxas hne, hfbound, hname⟩
  · by_contra hname
    obtain ⟨x, hx, hxbound, -⟩ := hleads as f bs hsplit hfbound hname
    exact hnone x hx hxbound

end Query

/-- Let a query group by one datetime column and bound this column from below and above. If the
column leads in both directions, the first bounds make its plan. If bounds on another column come
first in a direction, they are taken instead, and the query is refused for them. -/
theorem plan_of_bounds {q : Query} {t : Table} {name : String} {unit : TemporalUnit} {c : Column}
    (hgroup : q.timeGroups = [(name, unit)]) (hcolumn : t.column? name = some c)
    (hlower : q.Bounds Filter.isLower name) (hupper : q.Bounds Filter.isUpper name) :
    (q.Leads Filter.isLower name ∧ q.Leads Filter.isUpper name ∧
      ∃ l u, l ∈ q.filters ∧ u ∈ q.filters ∧ l.isLower = true ∧ u.isUpper = true ∧
        l.column = name ∧ u.column = name ∧
        q.toDraft.plan t = .ok (some ⟨c, unit, l.toDraft, u.toDraft⟩)) ∨
    (¬(q.Leads Filter.isLower name ∧ q.Leads Filter.isUpper name) ∧
      ∃ lower upper, (lower ≠ name ∨ upper ≠ name) ∧
        q.toDraft.plan t = .error (.mismatchedRange name lower upper)) := by
  obtain ⟨l, hl, hlleads⟩ := Query.find?_of_bounds hlower
  obtain ⟨u, hu, huleads⟩ := Query.find?_of_bounds hupper
  have hplan := Query.plan_toDraft_of_bounded (t := t) hgroup hl hu
  rw [← hlleads, ← huleads]
  by_cases hnames : l.column = name ∧ u.column = name
  · obtain ⟨hlname, huname⟩ := hnames
    rw [if_neg (by simp [hlname, huname]), Table.resolveColumn_eq_ok.2 hcolumn] at hplan
    exact .inl ⟨hlname, huname, l, u, List.mem_of_find?_eq_some hl, List.mem_of_find?_eq_some hu,
      List.find?_some hl, List.find?_some hu, hlname, huname, hplan⟩
  · have hstray : l.column ≠ name ∨ u.column ≠ name := not_and_or.1 hnames
    rw [if_pos hstray] at hplan
    exact .inr ⟨hnames, l.column, u.column, hstray, hplan⟩

namespace Bundled

/-- The observations that start on two days, counted by day. -/
def startedFilters : List Filter :=
  [.datetime "startTime" .ge (Events.dayStart 1), .datetime "startTime" .lt (Events.dayStart 3)]

/-- Those of them that do not end before the first of the days. -/
def endedFilter : Filter := .datetime "endTime" .ge (Events.dayStart 1)

/-- A number of observations for each day of their start. -/
def startedDays (filters : List Filter) : Query where
  table := "observations"
  select := [⟨"id", some .count⟩]
  filters
  groups := [.datetime "startTime" .day]
  orders := []
  limit := none

end Bundled

open Bundled in
/-- With the bound on the end behind the range, the query has a plan; with the same bound in front
it is refused. -/
theorem plan_of_bounds_endedFilter :
    ((startedDays (startedFilters ++ [endedFilter])).Leads Filter.isLower "startTime" ∧
      ∃ p, (startedDays (startedFilters ++ [endedFilter])).toDraft.plan observations =
        .ok (some p)) ∧
    (startedDays (endedFilter :: startedFilters)).timeGroups = [("startTime", .day)] ∧
    (startedDays (endedFilter :: startedFilters)).Bounds Filter.isLower "startTime" ∧
    (startedDays (endedFilter :: startedFilters)).Bounds Filter.isUpper "startTime" ∧
    ¬((startedDays (endedFilter :: startedFilters)).Leads Filter.isLower "startTime" ∧
      (startedDays (endedFilter :: startedFilters)).Leads Filter.isUpper "startTime") ∧
    (startedDays (endedFilter :: startedFilters)).toDraft.plan observations =
      .error (.mismatchedRange "startTime" "endTime" "startTime") := by
  have hbounds (filters : List Filter) (h : ∀ f ∈ startedFilters, f ∈ filters) :
      (startedDays filters).Bounds Filter.isLower "startTime" ∧
        (startedDays filters).Bounds Filter.isUpper "startTime" :=
    ⟨⟨_, h _ List.mem_cons_self, rfl, rfl⟩,
      ⟨_, h _ (List.mem_cons_of_mem _ List.mem_cons_self), rfl, rfl⟩⟩
  obtain ⟨hlower, hupper⟩ := hbounds (startedFilters ++ [endedFilter])
    fun f hf => List.mem_append_left _ hf
  obtain ⟨hlower', hupper'⟩ := hbounds (endedFilter :: startedFilters)
    fun f hf => List.mem_cons_of_mem _ hf
  have hrefused : (startedDays (endedFilter :: startedFilters)).toDraft.plan observations =
      .error (.mismatchedRange "startTime" "endTime" "startTime") := rfl
  constructor
  · rcases plan_of_bounds (t := observations) rfl rfl hlower hupper with
      ⟨hleads, -, l, u, -, -, -, -, -, -, hplan⟩ | ⟨-, lower, upper, -, hplan⟩
    · exact ⟨hleads, _, hplan⟩
    · cases hplan
  · rcases plan_of_bounds (t := observations) rfl rfl hlower' hupper' with
      ⟨-, -, l, u, -, -, -, -, -, -, hplan⟩ | ⟨hnot, -⟩
    · rw [hrefused] at hplan
      cases hplan
    · exact ⟨rfl, hlower', hupper', hnot, hrefused⟩

end Dashboard

import Dashboard.Proofs.NearestDouble
import Dashboard.Proofs.RequestRun

/-!
# Results in normal form

* `Value.IsPortable` holds of the cells that callers can handle, `Value.HasForm` says which of them
  stands for a cell: a number is a double, everything else is itself.
* `Rejects` gives the reason why a cell has no such form. Its type is unknown; or it is an integer
  with no double, or a signaling missing number. These are numbers, but the conversion fails.
* `normalizeValue_eq_ok` and `normalizeValue_eq_error`: a cell is converted to its form, or rejected
  for that reason. `normalizeRows_eq_ok` lifts the first to results.
* `rows_normal_or_rejected`: a result comes out row by row and column by column, with portable cells
  that a second run leaves alone, unless one of its cells is rejected; then the first of them, in
  reading order, gives the reason.
-/

namespace Dashboard

/-! ### Cells -/

/-- Nothing, a double, a text, a date or a timestamp. -/
def Value.IsPortable : Value → Prop
  | .null | .float _ | .text _ | .date _ | .time _ => True
  | _ => False

/-- A portable cell, an integer or a decimal. A truth value is none of these. -/
def Value.IsKnown (v : Value) : Prop :=
  v.IsPortable ∨ (∃ n, v = .int n) ∨ ∃ d, v = .decimal d

/-- The form of a cell. -/
inductive Value.HasForm : Value → Value → Prop
  | portable {v : Value} (h : v.IsPortable) : HasForm v v
  | int {n : ℤ} {x : Float} (h : Binary.nearestInt? n = some x) : HasForm (.int n) (.float x)
  | decimal {d : Decimal} {x : Float} (h : d.toFloat? = some x) : HasForm (.decimal d) (.float x)

/-- Why a cell of a column has no form. -/
inductive Rejects (column : String) : Value → CellError → Prop
  | unknownType {v : Value} (h : ¬v.IsKnown) : Rejects column v (.unknownType column v.typeName)
  | tooLarge {n : ℤ} (h : Binary.leastTooLarge ≤ n.natAbs) : Rejects column (.int n) .tooLarge
  | signaling : Rejects column (.decimal (.nan true)) .signaling

theorem Value.HasForm.isPortable {v w : Value} (h : v.HasForm w) : w.IsPortable := by
  cases h with
  | portable h => exact h
  | int => trivial
  | decimal => trivial

theorem Decimal.toFloat?_eq_none {d : Decimal} : d.toFloat? = none ↔ d = .nan true := by
  cases d with
  | finite => simp [toFloat?]
  | infinite => simp [toFloat?]
  | nan signaling => cases signaling <;> simp [toFloat?]

section

variable {column : String} {v : Value}

theorem normalizeValue_of_hasForm {w : Value} (h : v.HasForm w) :
    normalizeValue column v = .ok w := by
  cases h with
  | portable h =>
    cases v with
    | null | float | text | date | time => rfl
    | _ => cases h
  | int h => simp [normalizeValue, h, pure, Except.pure]
  | decimal h => simp [normalizeValue, h, pure, Except.pure]

theorem normalizeValue_of_rejects {e : CellError} (h : Rejects column v e) :
    normalizeValue column v = .error e := by
  cases h with
  | unknownType h =>
    cases v with
    | null | float | text | date | time => exact absurd (.inl trivial) h
    | int n => exact absurd (.inr (.inl ⟨n, rfl⟩)) h
    | decimal d => exact absurd (.inr (.inr ⟨d, rfl⟩)) h
    | _ => rfl
  | tooLarge h =>
    rw [normalizeValue, Binary.nearestInt?_eq_none.2 h]
    rfl
  | signaling => rfl

/-- Every cell has a form or is rejected. -/
theorem hasForm_or_rejects (column : String) (v : Value) :
    (∃ w, v.HasForm w) ∨ ∃ e, Rejects column v e := by
  by_cases hknown : v.IsKnown
  · rcases hknown with hportable | ⟨n, rfl⟩ | ⟨d, rfl⟩
    · exact .inl ⟨v, .portable hportable⟩
    · cases hn : Binary.nearestInt? n with
      | none => exact .inr ⟨_, .tooLarge (Binary.nearestInt?_eq_none.1 hn)⟩
      | some x => exact .inl ⟨_, .int hn⟩
    · cases hd : d.toFloat? with
      | none =>
        cases Decimal.toFloat?_eq_none.1 hd
        exact .inr ⟨_, .signaling⟩
      | some x => exact .inl ⟨_, .decimal hd⟩
  · exact .inr ⟨_, .unknownType hknown⟩

/-- A cell is converted to its form. -/
theorem normalizeValue_eq_ok {w : Value} : normalizeValue column v = .ok w ↔ v.HasForm w := by
  refine ⟨fun h => ?_, normalizeValue_of_hasForm⟩
  rcases hasForm_or_rejects column v with ⟨w', hw⟩ | ⟨e, he⟩
  · cases h.symm.trans (normalizeValue_of_hasForm hw)
    exact hw
  · cases h.symm.trans (normalizeValue_of_rejects he)

/-- A cell without a form is rejected. -/
theorem normalizeValue_eq_error {e : CellError} :
    normalizeValue column v = .error e ↔ Rejects column v e := by
  refine ⟨fun h => ?_, normalizeValue_of_rejects⟩
  rcases hasForm_or_rejects column v with ⟨w, hw⟩ | ⟨e', he⟩
  · cases h.symm.trans (normalizeValue_of_hasForm hw)
  · cases h.symm.trans (normalizeValue_of_rejects he)
    exact he

theorem exists_normalizeValue : (∃ w, normalizeValue column v = .ok w) ↔
    ∀ e, ¬Rejects column v e := by
  simp only [← normalizeValue_eq_error]
  cases normalizeValue column v <;> simp

end

/-! ### Results -/

/-- What related entries have in common, related lists have in common. -/
theorem map_eq_map_of_forall₂ {α β γ : Type} {R : α → β → Prop} {f : α → γ} {g : β → γ}
    {xs : List α} {ys : List β} (h : List.Forall₂ R xs ys) (hfg : ∀ x y, R x y → f x = g y) :
    xs.map f = ys.map g := by
  rw [← List.forall₂_eq_eq_eq, List.forall₂_map_left_iff, List.forall₂_map_right_iff]
  exact h.imp hfg

namespace Row

/-- The names of the columns of a row, in order. -/
def columns (row : Row) : List String := row.map Prod.fst

/-- Every cell of a row is portable. -/
def IsPortable (row : Row) : Prop := ∀ cell ∈ row, cell.2.IsPortable

/-- A cell has the form of another: it is of the same column, and holds the form of the value. -/
def CellHasForm (cell form : String × Value) : Prop := cell.1 = form.1 ∧ cell.2.HasForm form.2

/-- A row has the form of another, cell by cell. -/
def HasForm (row normal : Row) : Prop := List.Forall₂ CellHasForm row normal

variable {row normal : Row}

theorem HasForm.columns (h : row.HasForm normal) : row.columns = normal.columns :=
  map_eq_map_of_forall₂ h fun _ _ hcell => hcell.1

theorem HasForm.isPortable (h : row.HasForm normal) : normal.IsPortable := by
  intro cell hcell
  obtain ⟨_, -, hform⟩ := exists_rel_of_mem h hcell
  exact hform.2.isPortable

/-- A portable row is its own form. -/
theorem IsPortable.hasForm (h : row.IsPortable) : row.HasForm row :=
  List.forall₂_same.2 fun cell hcell => ⟨rfl, .portable (h cell hcell)⟩

end Row

theorem normalizeRow_eq_ok {row normal : Row} :
    normalizeRow row = .ok normal ↔ row.HasForm normal := by
  have hcell : ∀ cell form : String × Value,
      (do return (cell.1, ← normalizeValue cell.1 cell.2) : Except CellError _) = .ok form ↔
        Row.CellHasForm cell form := by
    rintro ⟨column, v⟩ ⟨column', w⟩
    rw [bind_eq_ok]
    constructor
    · rintro ⟨w', hw, h⟩
      cases pure_eq_ok.1 h
      exact ⟨rfl, normalizeValue_eq_ok.1 hw⟩
    · rintro ⟨rfl, h⟩
      exact ⟨w, normalizeValue_eq_ok.2 h, rfl⟩
  simp only [normalizeRow, mapM_eq_ok, hcell, Row.HasForm]

theorem exists_normalizeRow {row : Row} : (∃ normal, normalizeRow row = .ok normal) ↔
    ∀ cell ∈ row, ∀ e, ¬Rejects cell.1 cell.2 e := by
  have hrow : normalizeRow row = row.mapM fun c => Prod.mk c.1 <$> normalizeValue c.1 c.2 := rfl
  rw [hrow, exists_mapM_eq_ok]
  simp only [exists_map_eq_ok, exists_normalizeValue]

/-- A result is converted row by row. -/
theorem normalizeRows_eq_ok {rows normal : List Row} :
    normalizeRows rows = .ok normal ↔ List.Forall₂ Row.HasForm rows normal := by
  simp only [normalizeRows, mapM_eq_ok, normalizeRow_eq_ok]

/-- The first of the cells, in reading order, that is rejected, is rejected for this reason. -/
def FirstRejected (rows : List Row) (e : CellError) : Prop :=
  ∃ before column v after, rows.flatten = before ++ (column, v) :: after ∧
    (∀ cell ∈ before, ∀ e', ¬Rejects cell.1 cell.2 e') ∧ Rejects column v e

theorem rejectedFor_iff {rows : List Row} {e : CellError} :
    RejectedFor rows e ↔ FirstRejected rows e := by
  simp only [RejectedFor, FirstRejected, normalizeValue_eq_error, exists_normalizeValue]

/-- A result comes out with as many rows, the same columns in the same order, and portable cells, of
which those that are no numbers are unchanged; and then a second run changes nothing. This is so
exactly if none of its cells is rejected, be it for its type or because a number has no double.
Otherwise the first cell that is rejected, row by row, says why. -/
theorem rows_normal_or_rejected (rows : List Row) :
    (∀ normal, normalizeRows rows = .ok normal →
      List.Forall₂ Row.HasForm rows normal ∧ rows.map Row.columns = normal.map Row.columns ∧
      (∀ row ∈ normal, row.IsPortable) ∧ normalizeRows normal = .ok normal) ∧
    ((∃ normal, normalizeRows rows = .ok normal) ↔
      ∀ cell ∈ rows.flatten, ∀ e, ¬Rejects cell.1 cell.2 e) ∧
    ∀ e, normalizeRows rows = .error e ↔ FirstRejected rows e := by
  refine ⟨fun normal hrows => ?_, ?_, fun e => ?_⟩
  · have hform := normalizeRows_eq_ok.1 hrows
    have hportable : ∀ row ∈ normal, row.IsPortable := by
      intro row hrow
      obtain ⟨_, -, hform⟩ := exists_rel_of_mem hform hrow
      exact hform.isPortable
    refine ⟨hform, map_eq_map_of_forall₂ hform fun _ _ hrow => hrow.columns, hportable, ?_⟩
    exact normalizeRows_eq_ok.2 (List.forall₂_same.2 fun row hrow => (hportable row hrow).hasForm)
  · unfold normalizeRows
    simp only [exists_mapM_eq_ok, exists_normalizeRow, List.forall_mem_flatten]
  · rw [normalizeRows_eq_error, rejectedFor_iff]

/-- An integer of 401 digits fails the whole result, although its type is known: what comes after it
does not count, and what comes before it is lost. -/
theorem rows_normal_or_rejected_tooLarge :
    FirstRejected [[("a", .text "b")], [("a", .int (10 ^ 400 : ℕ))], [("a", .bool true)]]
      .tooLarge ∧
    normalizeRows [[("a", .text "b")], [("a", .int (10 ^ 400 : ℕ))], [("a", .bool true)]] =
      .error .tooLarge := by
  have hlarge : Binary.leastTooLarge ≤ 10 ^ 400 :=
    calc Binary.leastTooLarge ≤ 2 ^ 1024 := Nat.sub_le (2 ^ 1024) (2 ^ 970)
      _ ≤ 2 ^ (3 * 400) := pow_le_pow_right₀ one_le_two (by decide)
      _ = (2 ^ 3) ^ 400 := by rw [pow_mul]
      _ ≤ 10 ^ 400 := pow_le_pow_left₀ (by decide) (by decide) 400
  have hfirst : FirstRejected
      [[("a", .text "b")], [("a", .int (10 ^ 400 : ℕ))], [("a", .bool true)]] .tooLarge := by
    refine ⟨[("a", .text "b")], "a", .int (10 ^ 400 : ℕ), [("a", .bool true)], rfl, ?_,
      .tooLarge (by rwa [Int.natAbs_natCast])⟩
    intro cell hcell e he
    cases List.mem_singleton.1 hcell
    cases he with
    | unknownType h => exact h (.inl trivial)
  exact ⟨hfirst, ((rows_normal_or_rejected _).2.2 _).2 hfirst⟩

end Dashboard

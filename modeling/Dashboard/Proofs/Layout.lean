import Dashboard.Proofs.Compilation

/-!
# The layout of a statement

* A `Layout` holds the texts of the parts of a statement, with their placeholders numbered;
  `Layout.text` writes them one after the other.
* `Clauses.layout` is the layout of compiled clauses. The series binds its two bounds, each
  condition is numbered on from there, and the limit comes last.
* `Clauses.render_text_eq` and `Clauses.render_parameters_eq`: if nothing but the conditions, the
  series and the limit binds values, the rendered statement has this text, and its parameters are
  the bounds, the values of the conditions and the limit.
* `Draft.bindsInConditions_of_clauses`: this is so for all compiled drafts.
-/

namespace Dashboard

/-- The texts of the parts of a statement; `limit` is the number of its placeholder. -/
structure Layout where
  series : String
  items : List String
  source : String
  opening : String
  conditions : List String
  groups : List String
  orders : List String
  limit : Option ℕ

/-- The text of a clause; nothing if it has no terms. -/
def clauseText (opening separator : String) (terms : List String) : String :=
  if terms.isEmpty then "" else opening ++ separator.intercalate terms

/-- The text of the bound on the number of rows. -/
def limitText : Option ℕ → String
  | none => ""
  | some k => " LIMIT " ++ Fragment.placeholder k

/-- The text of a statement. -/
def Layout.text (l : Layout) : String :=
  l.series ++ "SELECT " ++ ", ".intercalate l.items ++ l.source ++
    clauseText l.opening " AND " l.conditions ++ clauseText " GROUP BY " ", " l.groups ++
    clauseText " ORDER BY " ", " l.orders ++ limitText l.limit ++ ";"

namespace Clauses

/-- The values of the bounds of the series. -/
def bounds (c : Clauses) : List Value := c.seriesFragment.values

/-- The values of the conditions, in order. -/
def conditionValues (c : Clauses) : List Value := c.conditions.flatMap Fragment.values

/-- The limit as a bound value, if there is one. -/
def limitValues : Value → List Value
  | .null => []
  | v => [v]

/-- The layout of a statement, numbered from its start to its end. -/
def layout (c : Clauses) : Layout where
  series := c.seriesFragment.textFrom 0
  items := c.allItems.map (Fragment.textFrom 0)
  source := c.sourceFragment.textFrom 0
  opening := c.conditionOpening
  conditions := Fragment.textsFrom c.bounds.length c.conditions
  groups := c.allGroups.map (Fragment.textFrom 0)
  orders := c.allOrders.map (Fragment.textFrom 0)
  limit := (limitValues c.limit).head?.map fun _ =>
    c.bounds.length + c.conditionValues.length + 1

/-- Apart from the series and the limit, values are bound in conditions only. -/
structure BindsInConditions (c : Clauses) : Prop where
  items : ∀ f ∈ c.items, f.values = []
  groups : ∀ f ∈ c.groups, f.values = []
  orders : ∀ f ∈ c.orders, f.values = []

/-! ### Text and parameters -/

theorem values_clause (opening sep : String) (fs : List Fragment) :
    (clause opening sep fs).values = fs.flatMap Fragment.values := by
  cases fs with
  | nil => rfl
  | cons f fs => simp [clause, Fragment.values_join]

theorem textFrom_clause (opening sep : String) (fs : List Fragment) (n : ℕ) :
    (clause opening sep fs).textFrom n = clauseText opening sep (Fragment.textsFrom n fs) := by
  cases fs with
  | nil => rfl
  | cons f fs =>
    simp [clause, clauseText, Fragment.textFrom_append, Fragment.textFrom_join, Fragment.textsFrom]

theorem values_limitFragment (v : Value) : (limitFragment v).values = limitValues v := by
  cases v <;> rfl

theorem textFrom_limitFragment (v : Value) (n : ℕ) :
    (limitFragment v).textFrom n = limitText ((limitValues v).head?.map fun _ => n + 1) := by
  cases v <;> simp [limitFragment, limitValues, limitText, Fragment.textFrom_append]

theorem values_sourceFragment (c : Clauses) : c.sourceFragment.values = [] := by
  unfold sourceFragment
  cases c.plan <;> rfl

section

variable {c : Clauses} (h : c.BindsInConditions)
include h

theorem BindsInConditions.allItems : ∀ f ∈ c.allItems, f.values = [] :=
  Draft.forall_mem_toList_append (fun _ _ => rfl) h.items

theorem BindsInConditions.allGroups : ∀ f ∈ c.allGroups, f.values = [] :=
  Draft.forall_mem_toList_append (fun _ _ => rfl) h.groups

theorem BindsInConditions.allOrders : ∀ f ∈ c.allOrders, f.values = [] :=
  Draft.forall_mem_toList_append (fun _ _ => rfl) h.orders

/-- The parameters are the bounds of the series, the values of the conditions and the limit. -/
theorem render_parameters_eq :
    c.fragment.render.parameters = c.bounds ++ c.conditionValues ++ limitValues c.limit := by
  simp [fragment, Fragment.values_join, values_clause,
    values_limitFragment, values_sourceFragment, bounds, conditionValues,
    List.flatMap_eq_nil_iff.2 h.allItems, List.flatMap_eq_nil_iff.2 h.allGroups,
    List.flatMap_eq_nil_iff.2 h.allOrders]

/-- The text is that of the layout. -/
theorem render_text_eq : c.fragment.render.text = c.layout.text := by
  have hsource := Fragment.textFrom_eq_of_values c.values_sourceFragment c.bounds.length 0
  simp only [bounds] at hsource
  simp [hsource, fragment, Fragment.textFrom_append, Fragment.textFrom_join, textFrom_clause,
    textFrom_limitFragment, Fragment.values_join, values_clause, values_sourceFragment,
    Fragment.textsFrom_eq_of_values h.allItems, Fragment.textsFrom_eq_of_values h.allGroups,
    Fragment.textsFrom_eq_of_values h.allOrders, List.flatMap_eq_nil_iff.2 h.allItems,
    List.flatMap_eq_nil_iff.2 h.allGroups, List.flatMap_eq_nil_iff.2 h.allOrders,
    Layout.text, layout, bounds, conditionValues, String.append_assoc]

end

end Clauses

/-- Compiled items, groupings and orders hold no value. -/
theorem Draft.bindsInConditions_of_clauses {d : Draft} {r : Registry} {plan : Option BucketPlan}
    {c : Clauses} (h : d.clauses r plan = .ok c) : c.BindsInConditions := by
  have hsteps := Draft.fromSteps_of_clauses h
  refine ⟨fun f hf => ?_, fun f hf => ?_, fun f hf => ?_⟩
  · obtain ⟨item, i, hi⟩ := hsteps.items f hf
    obtain ⟨col, e, -, he, rfl⟩ := Draft.selectFragment_eq_ok.1 hi
    simp [Draft.values_of_aggregated he]
  · obtain ⟨item, i, hi⟩ := hsteps.groups f hf
    obtain ⟨col, -, hg⟩ := Draft.groupFragment_eq_ok.1 hi
    -- with a plan, the series stands for the datetime column
    split at hg
    · cases hg
    · cases hg
      rfl
  · obtain ⟨item, i, hi⟩ := hsteps.orders f hf
    obtain ⟨col, e, dir, -, he, -, rfl⟩ := Draft.orderFragment_eq_ok.1 hi
    simp [Draft.values_of_aggregated he]

end Dashboard

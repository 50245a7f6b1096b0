import Dashboard.Proofs.DryRun
import Dashboard.Proofs.GateRules

/-!
# The placeholders of a compiled request

The text of a registry is arbitrary, so it may look like a placeholder itself.

* `Fragment.Sealed` says of a fragment that its own text stands clear of its placeholders: before
  and after each of them comes a space, a parenthesis, a comma or a semicolon. `Fragment.Clear` adds
  that it may follow a placeholder itself. `sealed_append`, `sealed_bind` and `Clear.append` put
  such fragments together, and `Draft.sealed_of_clauses` says that every compiled statement is one.
* `range_sublist_placeholders`: the gate finds all placeholders of a sealed fragment, in order.
* `compile_numbers_placeholders`: the gate leaves no room for another one, so the placeholders in
  the text of a compiled request are `:p1`, …, `:pn`, and its parameters are known one by one.
-/

namespace Dashboard

open Statement (parameterName)

namespace Fragment

/-! ### Text around placeholders -/

/-- The characters that may stand beside a placeholder. -/
def isDelimiter (c : Char) : Bool := [' ', '(', ')', ',', ';'].contains c

/-- A placeholder may follow the text. -/
def EndsClear (s : String) : Prop := s.toList.getLast?.any isDelimiter = true

/-- The text may follow a placeholder. -/
def StartsClear (s : String) : Prop := s.toList.head?.all isDelimiter = true

instance : DecidablePred EndsClear := fun _ => inferInstanceAs (Decidable (_ = true))

instance : DecidablePred StartsClear := fun _ => inferInstanceAs (Decidable (_ = true))

theorem endsClear_iff {s : String} :
    EndsClear s ↔ ∃ c, s.toList.getLast? = some c ∧ isDelimiter c = true :=
  Option.any_eq_true _ _

theorem startsClear_iff {s : String} :
    StartsClear s ↔ ∀ c, s.toList.head? = some c → isDelimiter c = true :=
  Option.all_eq_true _ _

/-- What stands beside a placeholder is no part of a word, of a placeholder or of a number. -/
theorem of_isDelimiter {c : Char} (h : isDelimiter c = true) :
    c ≠ ':' ∧ Text.isWord c = false ∧ (Text.decimalValue? c).isSome = false := by
  have hall : ([' ', '(', ')', ',', ';'].all fun c =>
      c != ':' && !Text.isWord c && !(Text.decimalValue? c).isSome) = true := by decide
  have hc := List.all_eq_true.1 hall c (List.contains_iff_mem.1 h)
  simpa [and_assoc] using hc

theorem endsClear_append (s : String) {t : String} (h : EndsClear t) : EndsClear (s ++ t) := by
  obtain ⟨c, hc, hdelimiter⟩ := endsClear_iff.1 h
  refine endsClear_iff.2 ⟨c, ?_, hdelimiter⟩
  rw [String.toList_append, List.getLast?_append, hc]
  rfl

theorem startsClear_append {s t : String} (hs : StartsClear s) (ht : s = "" → StartsClear t) :
    StartsClear (s ++ t) := by
  cases h : s.toList with
  | nil =>
    obtain rfl : s = "" := String.toList_eq_nil_iff.1 h
    simpa using ht rfl
  | cons c r =>
    rw [StartsClear, String.toList_append, h, List.cons_append, List.head?_cons]
    rwa [StartsClear, h, List.head?_cons] at hs

/-- A text that a placeholder follows is not empty. -/
theorem ne_empty_of_endsClear {s : String} (h : EndsClear s) : s ≠ "" := by
  rintro rfl
  exact absurd h (by decide)

/-- Each of the strings but the last may stand before a placeholder, each but the first after
one. -/
def SealedStrings : List String → Prop
  | s :: t :: rest => EndsClear s ∧ StartsClear t ∧ SealedStrings (t :: rest)
  | _ => True

/-- The first of two lists that are joined ends in a placeholder only if the other may follow. -/
theorem sealedStrings_join {s t : List String} (hs : SealedStrings s) (ht : SealedStrings t)
    (h : 1 < s.length → s.getLast? = some "" → ∀ a ∈ t.head?, StartsClear a) :
    SealedStrings (joinStrings s t) := by
  fun_induction joinStrings s t with
  | case1 t => exact ht
  | case2 a b t =>
    cases t with
    | nil => trivial
    | cons c t => exact ⟨endsClear_append a ht.1, ht.2⟩
  | case3 a => trivial
  | case4 a b s t ih =>
    obtain ⟨ha, hb, hs⟩ := hs
    have hrest := ih hs ht fun _ hlast => h (by simp) (by simpa using hlast)
    -- the string after the placeholder is `b`, or `b` with the first of `t` behind it
    cases s with
    | cons d s =>
      rw [joinStrings] at hrest ⊢
      exact ⟨ha, hb, hrest⟩
    | nil =>
      cases t with
      | nil => exact ⟨ha, hb, hrest⟩
      | cons d t =>
        refine ⟨ha, startsClear_append hb fun hempty => ?_, hrest⟩
        exact h (by simp) (by simp [hempty]) d (by simp)

/-! ### Sealed fragments -/

/-- Every placeholder of a fragment stands clear of its text. -/
def Sealed (f : Fragment) : Prop := SealedStrings f.strings

/-- The fragment may follow a placeholder. -/
def OpensClear (f : Fragment) : Prop := ∀ s ∈ f.strings.head?, StartsClear s

/-- The last thing in a fragment is a placeholder. -/
def EndsInPlaceholder (f : Fragment) : Prop := f.values ≠ [] ∧ f.strings.getLast? = some ""

/-- A sealed fragment that may follow a placeholder. -/
structure Clear (f : Fragment) : Prop where
  opens : f.OpensClear
  seals : f.Sealed

theorem sealed_of_values {f : Fragment} (h : f.values = []) : f.Sealed := by
  have hlength := f.length_strings
  rw [h] at hlength
  obtain ⟨s, hs⟩ := List.length_eq_one_iff.1 hlength
  rw [Sealed, hs]
  trivial

theorem sealed_append {f g : Fragment} (hf : f.Sealed) (hg : g.Sealed)
    (h : f.EndsInPlaceholder → g.OpensClear) : (f ++ g).Sealed := by
  refine sealedStrings_join hf hg fun hlength hlast => h ⟨?_, hlast⟩
  intro hvalues
  have := f.length_strings
  simp only [hvalues, List.length_nil] at this
  omega

/-- A fragment without placeholders may be put before any sealed one. -/
theorem sealed_append_of_values {f g : Fragment} (hf : f.values = []) (hg : g.Sealed) :
    (f ++ g).Sealed :=
  sealed_append (sealed_of_values hf) hg fun h => absurd hf h.1

theorem clear_empty : empty.Clear where
  opens := by simp [OpensClear, StartsClear, empty]
  seals := sealed_of_values rfl

theorem clear_raw {s : String} (hs : StartsClear s) : (raw s).Clear where
  opens := by simpa [OpensClear, raw] using hs
  seals := sealed_of_values rfl

/-- A fragment that starts with a text may follow a placeholder, whatever comes then. -/
theorem clear_raw_append {s : String} (hs : StartsClear s) (hne : s ≠ "") {g : Fragment}
    (hg : g.Sealed) : (raw s ++ g).Clear := by
  refine ⟨fun a ha => ?_, sealed_append_of_values rfl hg⟩
  cases h : g.strings with
  | nil => exact absurd h g.strings_ne_nil
  | cons b t =>
    obtain rfl : s ++ b = a := by simpa [raw, h, joinStrings] using ha
    exact startsClear_append hs fun hempty => absurd hempty hne

theorem Clear.append {f g : Fragment} (hf : f.Clear) (hg : g.Clear) : (f ++ g).Clear := by
  refine ⟨fun s hs => ?_, sealed_append hf.seals hg.seals fun _ => hg.opens⟩
  rw [strings_append] at hs
  match hfs : f.strings, hgs : g.strings with
  | [], _ => exact absurd hfs f.strings_ne_nil
  | _ :: _, [] => exact absurd hgs g.strings_ne_nil
  | [a], b :: t =>
    obtain rfl : a ++ b = s := by simpa [hfs, hgs, joinStrings] using hs
    exact startsClear_append (hf.opens a (by simp [hfs])) fun _ => hg.opens b (by simp [hgs])
  | a :: b :: t, _ :: _ =>
    obtain rfl : a = s := by simpa [hfs, hgs, joinStrings] using hs
    exact hf.opens a (by simp [hfs])

/-- A placeholder may be put between a text and a fragment that both stand clear of it. -/
theorem sealed_bind {s : String} (hs : EndsClear s) (v : Value) {g : Fragment} (hg : g.Clear) :
    (raw s ++ (bind v ++ g)).Sealed := by
  have hstrings : (raw s ++ (bind v ++ g)).strings = s :: g.strings := by
    cases h : g.strings with
    | nil => exact absurd h g.strings_ne_nil
    | cons t rest => simp [raw, bind, joinStrings, h]
  rw [Sealed, hstrings]
  cases h : g.strings with
  | nil => trivial
  | cons t rest =>
    have hrest : SealedStrings (t :: rest) := h ▸ hg.seals
    exact ⟨hs, hg.opens t (by simp [h]), hrest⟩

theorem sealed_join {sep : String} (hsep : StartsClear sep) (hne : sep ≠ "") {fs : List Fragment}
    (h : ∀ f ∈ fs, f.Sealed) : (join sep fs).Sealed := by
  induction fs with
  | nil => exact clear_empty.seals
  | cons f fs ih =>
    have hf := h f List.mem_cons_self
    have hfs := ih fun g hg => h g (List.mem_cons_of_mem _ hg)
    cases fs with
    | nil => exact sealed_append hf clear_empty.seals fun _ => clear_empty.opens
    | cons g fs =>
      have hjoin : join sep (f :: g :: fs) = f ++ (raw sep ++ join sep (g :: fs)) := rfl
      have hrest := clear_raw_append hsep hne hfs
      rw [hjoin]
      exact sealed_append hf hrest.seals fun _ => hrest.opens

/-! ### Finding the placeholders -/

/-- The text of strings of which the first may follow a placeholder may follow one. -/
theorem startsClear_textAfter {t : String} {rest : List String} (ht : StartsClear t)
    (h : SealedStrings (t :: rest)) (n : ℕ) : StartsClear (textAfter n (t :: rest)) := by
  cases rest with
  | nil => exact ht
  | cons u rest =>
    have hne := ne_empty_of_endsClear h.1
    have htext : textAfter n (t :: u :: rest) =
        t ++ (placeholder (n + 1) ++ textAfter (n + 1) (u :: rest)) := by
      simp only [textAfter, String.append_assoc]
    rw [htext]
    exact startsClear_append ht fun hempty => absurd hempty hne

theorem isDigit_of_mem_toString {k : ℕ} {c : Char} (h : c ∈ (toString k).toList) :
    c.isDigit = true := by
  have hdigits : (toString k).toList = Nat.toDigits 10 k := Nat.toList_repr
  rw [hdigits] at h
  exact Nat.isDigit_of_mem_toDigits (by decide) (by decide) h

theorem toString_toList_ne_nil (k : ℕ) : (toString k).toList ≠ [] := by
  have hdigits : (toString k).toList = Nat.toDigits 10 k := Nat.toList_repr
  rw [hdigits]
  exact Nat.toDigits_ne_nil

open Gate in
/-- The gate reads the placeholder of a number between two texts that stand clear of it. -/
theorem placeholdersFrom_placeholder {c : Char} (hbefore : isDelimiter c = true) (k : ℕ)
    {rest : String} (hrest : StartsClear rest) :
    placeholdersFrom (some c) (placeholder k ++ rest).toList =
      (toString k).toList :: placeholdersFrom (some ':')
        ('p' :: ((toString k).toList ++ rest.toList)) := by
  have htext : (placeholder k ++ rest).toList =
      ':' :: 'p' :: ((toString k).toList ++ rest.toList) := by
    simp [placeholder]
  have hdigits : placeholderDigits? ('p' :: ((toString k).toList ++ rest.toList)) =
      some (toString k).toList := by
    apply placeholderDigits_of_boundary (toString_toList_ne_nil k)
    · intro c hc
      exact decimalValue_isSome_of_isDigit (isDigit_of_mem_toString hc)
    · intro d hd
      obtain ⟨-, hword, hdecimal⟩ := of_isDelimiter (startsClear_iff.1 hrest d hd)
      exact ⟨hdecimal, hword⟩
  have hprecede : mayPrecedePlaceholder (some c) = true := by
    obtain ⟨hcolon, hword, -⟩ := of_isDelimiter hbefore
    simp [mayPrecedePlaceholder, hcolon, hword]
  rw [htext, placeholdersFrom, hdigits, if_pos ⟨rfl, hprecede⟩]
  rfl

open Gate in
/-- Between sealed strings the gate finds every placeholder, in order; it may find others in the
strings themselves. -/
theorem range_sublist_placeholdersFrom {strings : List String} (h : SealedStrings strings) (n : ℕ)
    (before : Option Char) :
    ((List.range' (n + 1) (strings.length - 1)).map fun k => (toString k).toList).Sublist
      (placeholdersFrom before (textAfter n strings).toList) := by
  induction strings generalizing n before with
  | nil => exact List.nil_sublist _
  | cons s strings ih =>
    cases strings with
    | nil => exact List.nil_sublist _
    | cons t rest =>
      obtain ⟨hs, ht, hrest⟩ := h
      have htext : (textAfter n (s :: t :: rest)).toList = s.toList ++
          (placeholder (n + 1) ++ textAfter (n + 1) (t :: rest)).toList := by
        simp only [textAfter, String.append_assoc, String.toList_append]
      obtain ⟨c, hc, hbefore⟩ := endsClear_iff.1 hs
      -- the placeholders behind `s`, and of these the ones behind the first
      have hfirst := placeholdersFrom_suffix s.toList
        (placeholder (n + 1) ++ textAfter (n + 1) (t :: rest)).toList before
      have hbehind := startsClear_textAfter ht hrest (n + 1)
      rw [hc, Option.some_or, placeholdersFrom_placeholder hbefore (n + 1) hbehind] at hfirst
      have hlater := placeholdersFrom_suffix ('p' :: (toString (n + 1)).toList)
        (textAfter (n + 1) (t :: rest)).toList (some ':')
      have hrange : List.range' (n + 1) ((s :: t :: rest).length - 1) =
          (n + 1) :: List.range' (n + 1 + 1) ((t :: rest).length - 1) := by
        simp only [List.length_cons, Nat.add_sub_cancel]
        rw [List.range'_succ]
      rw [htext, hrange, List.map_cons]
      have htail := (ih hrest (n + 1) _).trans hlater.sublist
      exact (htail.cons_cons _).trans hfirst.sublist

open Gate in
/-- The gate finds all placeholders of a sealed fragment, in order. -/
theorem range_sublist_placeholders {f : Fragment} (h : f.Sealed) :
    ((List.range' 1 f.values.length).map fun k => (toString k).toList).Sublist
      (placeholders f.render.text.toList) := by
  have hsub := range_sublist_placeholdersFrom h 0 none
  rw [f.length_strings, Nat.add_sub_cancel] at hsub
  exact hsub

end Fragment

/-! ### Compiled statements -/

/-- A cast may follow the placeholder of the value that it converts. -/
theorem Draft.clear_castFragment (cast : Option String) (form : FilterKind) :
    (castFragment cast form).Clear := by
  have htype (type : String) : Fragment.StartsClear (" ::\"" ++ type) :=
    Fragment.startsClear_append (by decide) fun h => absurd h (by decide)
  cases cast with
  | none => exact Fragment.clear_empty
  | some type =>
    have hlist : Fragment.StartsClear (" ::\"" ++ type ++ "\"[]") :=
      Fragment.startsClear_append (htype type) fun h => absurd h (by simp)
    have hone : Fragment.StartsClear (" ::\"" ++ type ++ "\"") :=
      Fragment.startsClear_append (htype type) fun h => absurd h (by simp)
    cases form with
    | string => exact Fragment.clear_raw hone
    | number => exact Fragment.clear_raw hone
    | datetime => exact Fragment.clear_empty
    | options => exact Fragment.clear_raw hlist

theorem Draft.sealed_condition (c : Column) (op : String) (form : FilterKind) (v : Value) :
    (condition c op form v).Sealed := by
  have hcast := clear_castFragment c.cast form
  unfold condition
  split
  · have hbefore : Fragment.EndsClear (" " ++ op ++ "(") :=
      Fragment.endsClear_append _ (by decide)
    have hclose : (Fragment.raw ")" ++ Fragment.empty).Clear :=
      Fragment.clear_raw_append (by decide) (by decide) Fragment.clear_empty.seals
    exact Fragment.sealed_append_of_values rfl
      (Fragment.sealed_bind hbefore v (hcast.append hclose))
  · have hbefore : Fragment.EndsClear (" " ++ op ++ " ") :=
      Fragment.endsClear_append _ (by decide)
    exact Fragment.sealed_append_of_values rfl
      (Fragment.sealed_bind hbefore v (hcast.append Fragment.clear_empty))

/-- The bounds of a series stand clear of its text, which goes on after them. -/
theorem BucketPlan.sealed_series (p : BucketPlan) :
    p.series.Sealed ∧ ¬p.series.EndsInPlaceholder := by
  have hstrings : p.series.strings = ["WITH date_series AS (SELECT generate_series(", ", ",
      ", '1 " ++ Keyword.word p.unit ++ "'::interval) AS \"date\") "] := by
    simp [series, Fragment.raw, Fragment.bind, Fragment.empty, Fragment.joinStrings]
  constructor
  · rw [Fragment.Sealed, hstrings]
    cases p.unit <;> exact ⟨by decide, by decide, by decide, by decide, trivial⟩
  · rintro ⟨-, hlast⟩
    rw [hstrings] at hlast
    simp at hlast

namespace Clauses

/-- A clause of sealed terms is sealed. It may follow a placeholder, since it is empty or starts
with its opening. -/
theorem clear_clause (opening sep : String) (hopening : Fragment.StartsClear opening)
    (hne : opening ≠ "") (hsep : Fragment.StartsClear sep) (hsepne : sep ≠ "")
    {terms : List Fragment} (h : ∀ f ∈ terms, f.Sealed) : (clause opening sep terms).Clear := by
  unfold clause
  split
  · exact Fragment.clear_empty
  · exact Fragment.clear_raw_append hopening hne (Fragment.sealed_join hsep hsepne h)

theorem clear_limitFragment (v : Value) : (limitFragment v).Clear := by
  unfold limitFragment
  split
  · exact Fragment.clear_empty
  · have hstarts : Fragment.StartsClear " LIMIT " := by decide
    exact ⟨fun s hs => Option.some.inj hs ▸ hstarts, by decide, by decide, trivial⟩

theorem sealed_seriesFragment (c : Clauses) :
    c.seriesFragment.Sealed ∧ ¬c.seriesFragment.EndsInPlaceholder := by
  unfold seriesFragment
  cases c.plan with
  | none => exact ⟨Fragment.clear_empty.seals, fun h => h.1 rfl⟩
  | some p => exact p.sealed_series

/-- All placeholders of a statement stand clear of the text around them. -/
theorem sealed_fragment {c : Clauses} (hvalues : c.BindsInConditions)
    (hconds : ∀ f ∈ c.conditions, f.Sealed) : c.fragment.Sealed := by
  have hterms {fs : List Fragment} (h : ∀ f ∈ fs, f.values = []) : ∀ f ∈ fs, f.Sealed :=
    fun f hf => Fragment.sealed_of_values (h f hf)
  have hopening : Fragment.StartsClear c.conditionOpening ∧ c.conditionOpening ≠ "" := by
    unfold conditionOpening
    split <;> exact ⟨by decide, by decide⟩
  have hconditions := clear_clause c.conditionOpening " AND " hopening.1 hopening.2 (by decide)
    (by decide) hconds
  have hgroups := clear_clause " GROUP BY " ", " (by decide) (by decide) (by decide) (by decide)
    (hterms hvalues.allGroups)
  have horders := clear_clause " ORDER BY " ", " (by decide) (by decide) (by decide) (by decide)
    (hterms hvalues.allOrders)
  have hend : (Fragment.raw ";" ++ Fragment.empty).Clear :=
    Fragment.clear_raw_append (by decide) (by decide) Fragment.clear_empty.seals
  -- after the source every part may follow a placeholder; before it only the series holds any
  have hclauses := hconditions.append (hgroups.append (horders.append
    ((clear_limitFragment c.limit).append hend)))
  have hitems : (Fragment.join ", " c.allItems).values = [] := by
    rw [Fragment.values_join]
    exact List.flatMap_eq_nil_iff.2 hvalues.allItems
  have hselect : (Fragment.raw "SELECT " ++ _).Sealed := Fragment.sealed_append_of_values rfl
    (Fragment.sealed_append_of_values hitems
      (Fragment.sealed_append_of_values c.values_sourceFragment hclauses.seals))
  exact Fragment.sealed_append c.sealed_seriesFragment.1 hselect
    fun h => absurd h c.sealed_seriesFragment.2

end Clauses

/-- The placeholders of every compiled draft stand clear of the text around them. -/
theorem Draft.sealed_of_clauses {d : Draft} {r : Registry} {plan : Option BucketPlan} {c : Clauses}
    (h : d.clauses r plan = .ok c) : c.fragment.Sealed := by
  refine Clauses.sealed_fragment (bindsInConditions_of_clauses h) fun f hf => ?_
  obtain ⟨item, i, hi⟩ := (fromSteps_of_clauses h).conditions f hf
  obtain ⟨col, op, v, -, -, -, rfl⟩ := filterFragment_eq_ok.1 hi
  exact sealed_condition col op item.form v

/-- A compiled statement starts with one of two words and ends in a semicolon, so there is no white
space around it. -/
theorem Clauses.strip_text {c : Clauses} (hvalues : c.BindsInConditions) :
    Text.strip c.fragment.render.text.toList = c.fragment.render.text.toList := by
  rw [render_text_eq hvalues]
  apply Text.strip_eq_self
  · have hfront : ∃ a, (c.layout.series ++ "SELECT ").toList.head? = some a ∧
        Text.isBlank a = false := by
      unfold layout seriesFragment
      cases c.plan with
      | none =>
        refine ⟨'S', ?_, by decide⟩
        simp
      | some p =>
        refine ⟨'W', ?_, by decide⟩
        simp [BucketPlan.series, Fragment.textFrom_append]
    obtain ⟨a, hfront, ha⟩ := hfront
    intro b hb
    simp only [Layout.text, String.append_assoc] at hb
    rw [← String.append_assoc, String.toList_append, List.head?_append, hfront] at hb
    cases hb
    exact ha
  · intro b hb
    rw [Layout.text, String.toList_append, List.getLast?_append] at hb
    cases hb
    decide

/-! ### Parameters -/

/-- The values that the series of a plan binds. -/
def BucketPlan.bounds (p : BucketPlan) : List Value := [p.lower.value, p.upper.value]

theorem Clauses.bounds_eq (c : Clauses) : c.bounds = c.plan.toList.flatMap BucketPlan.bounds := by
  unfold bounds seriesFragment
  cases c.plan with
  | none => rfl
  | some p => rfl

/-- The conditions of a query bind the values of its filters. -/
theorem Clauses.conditionValues_eq {q : Query} {r : Registry} {plan : Option BucketPlan}
    {c : Clauses} (h : q.toDraft.clauses r plan = .ok c) :
    c.conditionValues = q.filters.map Filter.value := by
  obtain ⟨-, -, -, hconds, -⟩ := Draft.clauses_eq_ok.1 h
  have hone := Draft.length_values_conditions hconds
  obtain ⟨hlen, hget⟩ := getElem?_of_mapM_zipIdx hconds
  apply List.ext_getElem?
  intro i
  rw [conditionValues, Fragment.getElem?_flatMap_values hone, List.getElem?_map]
  cases hi : q.filters[i]? with
  | none =>
    have hle := List.getElem?_eq_none_iff.1 hi
    have hnone : c.conditions[i]? = none :=
      List.getElem?_eq_none_iff.2 (by simpa [hlen, Query.toDraft] using hle)
    rw [hnone]
    rfl
  | some f =>
    obtain ⟨g, hg, hgf⟩ := hget i f.toDraft (by simp [Query.toDraft, hi])
    obtain ⟨col, -, rfl⟩ := Draft.filterFragment_toDraft.1 hgf
    rw [hg]
    simp

theorem Query.limitValues_toDraft (q : Query) :
    Clauses.limitValues q.toDraft.limit = q.limit.toList.map fun n => Value.int n := by
  unfold toDraft
  cases q.limit with
  | none => rfl
  | some n => rfl

/-- The parameters of a query of one tenant, one by one. -/
theorem Query.parameters_scoped {q : Query} {t : Table} {p : String} {r : Registry}
    {plan : Option BucketPlan} {c : Clauses} (h : (q.scoped t p).toDraft.clauses r plan = .ok c) :
    c.fragment.render.parameters =
      plan.toList.flatMap BucketPlan.bounds ++ q.filters.map Filter.value ++
        List.replicate t.tenantColumns.length (.text p) ++
        q.limit.toList.map fun n => Value.int n := by
  obtain ⟨-, rfl, -, -, -, -, hlimit⟩ := Draft.clauses_eq_ok.1 h
  have htenant : (t.tenantColumns.map fun col => Filter.string col .eq p).map Filter.value =
      List.replicate t.tenantColumns.length (.text p) := by
    rw [List.map_map]
    exact List.map_const'
  have hfilters : (q.scoped t p).filters.map Filter.value =
      q.filters.map Filter.value ++ List.replicate t.tenantColumns.length (.text p) := by
    rw [Query.scoped, List.map_append, htenant]
  rw [Clauses.render_parameters_eq (Draft.bindsInConditions_of_clauses h), Clauses.bounds_eq,
    Clauses.conditionValues_eq h, hfilters, hlimit, Query.limitValues_toDraft,
    ← List.append_assoc]
  rfl

/-! ### Requests -/

/-- The names of the placeholders that the gate finds in the text of a statement, in order. -/
def Statement.placeholderNames (s : Statement) : List String :=
  (Gate.placeholders s.text.toList).map fun digits => "p" ++ String.ofList digits

/-- The bindings of a statement have the names `p1`, …, `pn`, in the order of the parameters. -/
theorem Statement.names_bindings (s : Statement) :
    s.bindings.map Prod.fst = (List.range' 1 s.parameters.length).map parameterName ∧
      s.bindings.map Prod.snd = s.parameters := by
  constructor
  · apply List.ext_getElem
    · simp [bindings]
    · intro i h₁ h₂
      simp [bindings, parameterName, Nat.add_comm]
  · apply List.ext_getElem
    · simp [bindings]
    · intro i h₁ h₂
      simp [bindings]

/-- If the gate lets a sealed fragment through, its placeholders are all that it finds. -/
theorem Statement.placeholderNames_of_sealed {f : Fragment} (hf : f.Sealed)
    (hstrip : Text.strip f.render.text.toList = f.render.text.toList)
    (hgate : f.render.violations = .ok []) :
    f.render.placeholderNames = (List.range' 1 f.values.length).map parameterName := by
  obtain ⟨-, -, -, -, hperm, -⟩ := violations_eq_nil.1 hgate
  rw [hstrip] at hperm
  have hlength := hperm.length_eq
  have hall := (Fragment.range_sublist_placeholders hf).eq_of_length (by simpa using hlength.symm)
  rw [placeholderNames, ← hall, List.map_map]
  apply List.map_congr_left
  intro k _
  show "p" ++ String.ofList (toString k).toList = parameterName k
  rw [String.ofList_toList, parameterName]

/-- The placeholders in the text of a compiled request are `:p1`, …, `:pn`, each once and in this
order, whatever the text of the registry looks like. They stand for the bounds of the plan if there
is one, the values of the filters, the tenant once for each tenant column, and the limit if there
is one. -/
theorem compile_numbers_placeholders {q : Request} {r : Registry} {s : Statement}
    (h : q.compile r = .ok s) :
    ∃ query t p plan, Query.parse r q.description = .ok query ∧ r.table? query.table = some t ∧
      q.tenant = .text p ∧ (query.scoped t p).toDraft.plan t = .ok plan ∧
      s.placeholderNames = (List.range' 1 s.parameters.length).map parameterName ∧
      s.bindings.map Prod.fst = (List.range' 1 s.parameters.length).map parameterName ∧
      s.bindings.map Prod.snd = s.parameters ∧
      s.parameters = plan.toList.flatMap BucketPlan.bounds ++ query.filters.map Filter.value ++
        List.replicate t.tenantColumns.length (.text p) ++
        query.limit.toList.map fun n => Value.int n := by
  obtain ⟨query, hparse, hbuild, hgate⟩ := Request.compile_eq_ok.1 h
  obtain ⟨c, hc, rfl⟩ := Draft.build_eq_ok.1 hbuild
  obtain ⟨p, -, htenant, ht, hplan, hclauses⟩ := Query.buildClauses_eq_ok.1 hc
  have hstrip := Clauses.strip_text (Draft.bindsInConditions_of_clauses hclauses)
  have hsealed := Draft.sealed_of_clauses hclauses
  have hnames := Statement.placeholderNames_of_sealed hsealed hstrip hgate
  obtain ⟨hkeys, hvalues⟩ := c.fragment.render.names_bindings
  exact ⟨query, c.table, p, c.plan, hparse, ht, htenant, hplan, hnames, hkeys, hvalues,
    Query.parameters_scoped hclauses⟩

namespace Lookalike

/-- A registry file with a column whose expression looks like a placeholder. -/
def document : Document := .map [(.text "tables", .list [.map [
  (.text "name", .text "events"), (.text "source", .text "e"),
  (.text "tenant_columns", .list [.text "o"]),
  (.text "columns", .list [
    .map [(.text "name", .text "o"), (.text "internal", .text "e.o::p1")]])]])]

/-- The registry of the file. -/
def registry : Registry where
  version := .int 1
  tables := [{
    name := "events"
    source := "e"
    columns := [⟨"o", "e.o::p1", .string, none⟩]
    tenantColumns := ["o"] }]

/-- A description with a list of options and a limit. -/
def json : Json :=
  .object [("from", .text "events"), ("select", .list [.object [("column", .text "o")]]),
    ("filter", .list [.object [("type", .text "stringOptions"), ("column", .text "o"),
      ("operator", .text "any of"), ("value", .list [.text "b"])]]),
    ("limit", .int 5)]

/-- Its statement for the tenant `a`. -/
def statement : Statement where
  text := "SELECT e.o::p1 AS \"o\" FROM e WHERE e.o::p1 = ANY(:p1) AND e.o::p1 = :p2 LIMIT :p3;"
  parameters := [.list [.text "b"], .text "a", .int 5]

end Lookalike

open Lookalike in
/-- The three casts to `p1` are not taken for placeholders. -/
theorem compile_numbers_placeholders_lookalike :
    Registry.ofDocument document = .ok registry ∧
    (Request.mk json (.text "a")).compile registry = .ok statement ∧
    ∃ query t p plan, Query.parse registry json = .ok query ∧
      registry.table? query.table = some t ∧ Value.text "a" = .text p ∧
      (query.scoped t p).toDraft.plan t = .ok plan ∧
      statement.placeholderNames =
        (List.range' 1 statement.parameters.length).map parameterName ∧
      statement.bindings.map Prod.fst =
        (List.range' 1 statement.parameters.length).map parameterName ∧
      statement.bindings.map Prod.snd = statement.parameters ∧
      statement.parameters =
        plan.toList.flatMap BucketPlan.bounds ++ query.filters.map Filter.value ++
          List.replicate t.tenantColumns.length (.text p) ++
          query.limit.toList.map fun n => Value.int n := by
  have hgate : statement.violations = .ok [] := by decide +kernel
  have hs : (Request.mk json (.text "a")).compile registry = .ok statement :=
    Request.compile_eq_ok.2 ⟨_, rfl, rfl, hgate⟩
  exact ⟨rfl, hs, compile_numbers_placeholders hs⟩

end Dashboard

import Dashboard.Proofs.GateSeams
import Dashboard.Proofs.Placeholders
import Dashboard.Proofs.ShapeFaults
import Dashboard.Proofs.Vocabulary
import Dashboard.Registry.Bundled
import Mathlib.Data.Nat.Digits.Defs

/-!
# The gate and the compiler

The gate has nothing against what the compiler makes, as long as it has nothing against the single
texts of the registry.

* `Registry.Harmless` is this condition on a registry.
* `Fragment.Passes` says that the text of a fragment is harmless wherever the fragment stands, and
  that its placeholders are the only ones in it. `Leads` and `Follows` are the words of the compiler
  that may stand before, and after, any such fragment.
* `Draft.plain_of_clauses` goes through the steps of the compiler, `Clauses.Plain.passes_body`
  through the clauses of the statement, and `Statement.violations_of_passes` lets the gate look at
  it.
* `Statement.Immense` holds of statements with more values than the gate can read the numbers of.
* `gate_accepts_compiled`: a request is never refused by the gate.
-/

namespace Dashboard

/-! ### Registries -/

/-- The texts that a table brings into statements unquoted are harmless, each on its own. -/
structure Table.Harmless (t : Table) : Prop where
  source : Gate.Harmless t.source.toList []
  columns : ∀ c ∈ t.columns, Gate.Harmless c.internal.toList []

instance (t : Table) : Decidable t.Harmless :=
  decidable_of_iff (Gate.Harmless t.source.toList [] ∧
      ∀ c ∈ t.columns, Gate.Harmless c.internal.toList [])
    ⟨fun h => ⟨h.1, h.2⟩, fun h => ⟨h.source, h.columns⟩⟩

/-- The sources and the expressions of a registry are harmless, each on its own. -/
def Registry.Harmless (r : Registry) : Prop := ∀ t ∈ r.tables, t.Harmless

instance : DecidablePred Registry.Harmless := fun r =>
  inferInstanceAs (Decidable (∀ t ∈ r.tables, t.Harmless))

/-! ### Numbers of placeholders -/

/-- The digits of the placeholders from `n + 1` on. -/
def digitsFrom (n count : ℕ) : List (List Char) :=
  (List.range' (n + 1) count).map fun k => (toString k).toList

theorem digitsFrom_add (n k m : ℕ) :
    digitsFrom n (k + m) = digitsFrom n k ++ digitsFrom (n + k) m := by
  rw [digitsFrom, digitsFrom, digitsFrom, ← List.map_append, Nat.add_right_comm,
    List.range'_append_1]

theorem bounds_of_isDigit {c : Char} (h : c.isDigit = true) : 48 ≤ c.toNat ∧ c.toNat ≤ 57 := by
  simp only [Char.isDigit, Bool.and_eq_true, decide_eq_true_eq] at h
  exact h

theorem decimalValue_of_isDigit {c : Char} (h : c.isDigit = true) :
    Text.decimalValue? c = some (c.toNat - 48) := by
  obtain ⟨hlow, hhigh⟩ := bounds_of_isDigit h
  have hsmall : c.toNat < 0x80 := by omega
  have hrange : '0' ≤ c ∧ c ≤ '9' := ⟨hlow, hhigh⟩
  simp [Text.decimalValue?, hsmall, hrange]

theorem ofDigits_eq_ofDigitChars {s : List Char} (h : ∀ c ∈ s, c.isDigit = true) :
    ofDigits (s.filterMap Text.decimalValue?) = Nat.ofDigitChars 10 s 0 := by
  have hvalues : s.filterMap Text.decimalValue? = s.map fun c => c.toNat - 48 := by
    rw [← List.filterMap_eq_map]
    exact List.filterMap_congr fun c hc => decimalValue_of_isDigit (h c hc)
  rw [hvalues, ofDigits, List.foldl_map]
  rfl

open Gate in
/-- The gate reads a number from the digits that write it. -/
theorem placeholderNumber_toString (k : ℕ) : placeholderNumber (toString k).toList = k := by
  have hdigits : (toString k).toList = Nat.toDigits 10 k := Nat.toList_repr
  rw [placeholderNumber, ofDigits_eq_ofDigitChars fun c hc => Fragment.isDigit_of_mem_toString hc,
    hdigits, Nat.ofDigitChars_toDigits (by decide) (by decide)]

open Gate in
/-- A number below the bound has digits that the gate reads. -/
theorem readable_toString {k : ℕ} (h : k < 10 ^ mostDigits) : Readable (toString k).toList := by
  have hdigits : (toString k).toList = Nat.toDigits 10 k := Nat.toList_repr
  rw [Readable, hdigits]
  exact Nat.toDigits_length 10 k mostDigits (by decide) h

/-- A statement has so many values that their numbers have more digits than the gate reads. There
is no memory for so many. -/
def Statement.Immense (s : Statement) : Prop := 10 ^ mostDigits ≤ s.parameters.length

/-- As long as a statement is not immense, the numbers of all its values can be read. -/
theorem Statement.lt_of_not_immense {s : Statement} (h : ¬s.Immense) {k : ℕ}
    (hk : k ≤ s.parameters.length) : k < 10 ^ mostDigits :=
  hk.trans_lt (not_le.1 h)

namespace Gate

/-- A digit is no letter in any case. -/
theorem isUpper_foldLetter_of_isDigit {c : Char} (h : c.isDigit = true) :
    (foldLetter c).isUpper = false := by
  obtain ⟨-, hhigh⟩ := bounds_of_isDigit h
  have hletter : ¬('a' ≤ c ∧ c ≤ 'z') := fun hz => by
    have hlow : 97 ≤ c.toNat := hz.1
    omega
  have hfold : foldLetter c = c := by
    unfold foldLetter
    rw [if_neg hletter]
    split
    · exact absurd hhigh (by decide)
    · exact absurd hhigh (by decide)
    · exact absurd hhigh (by decide)
    · exact absurd hhigh (by decide)
    · rfl
  have hcapital : ¬65 ≤ c.toNat := by omega
  rw [hfold]
  exact decide_eq_false fun hupper => hcapital hupper.1

theorem placeholders_of_digits {ds : List Char} (hne : ds ≠ [])
    (hds : ∀ c ∈ ds, c.isDigit = true) : Gate.placeholders (':' :: 'p' :: ds) = [ds] := by
  have hvalues : ∀ c ∈ ds, (Text.decimalValue? c).isSome = true := fun c hc =>
    decimalValue_isSome_of_isDigit (hds c hc)
  have hend : ∀ c ∈ ([] : List Char).head?, (Text.decimalValue? c).isSome = false := by simp
  have hdigits := placeholderDigits?_digits hvalues hend
  have hrest : ':' ∉ 'p' :: ds := fun hc => by
    rcases List.mem_cons.1 hc with hc | hc
    · cases hc
    · exact absurd (hds _ hc) (by decide)
  rw [List.append_nil] at hdigits
  rw [Gate.placeholders, placeholdersFrom, hdigits, placeholdersFrom_of_notMem hrest]
  simp [mayPrecedePlaceholder, atBoundary, hne]

/-- A placeholder is harmless, and its digits are found. -/
theorem harmless_of_digits {ds : List Char} (hne : ds ≠ []) (hds : ∀ c ∈ ds, c.isDigit = true) :
    Harmless (':' :: 'p' :: ds) [ds] := by
  have hmem {c : Char} (hc : c ∈ ':' :: 'p' :: ds) : c = ':' ∨ c = 'p' ∨ c.isDigit = true := by
    simpa using (List.mem_cons.1 hc).imp id fun hc => (List.mem_cons.1 hc).imp id (hds c)
  have hnot {c : Char} (h : c ∉ [':', 'p']) (hdigit : c.isDigit = false) :
      c ∉ ':' :: 'p' :: ds := fun hc => by
    rcases hmem hc with rfl | rfl | hc
    · simp at h
    · simp at h
    · rw [hdigit] at hc
      cases hc
  have hquote := hnot (c := '"') (by decide) (by decide)
  have hblank : blankQuoted (':' :: 'p' :: ds) = ':' :: 'p' :: ds := by
    have h := blankFrom_none_append_of_notMem hquote []
    rwa [blankFrom, List.append_nil] at h
  refine ⟨?_, ?_, ?_, ?_, ?_⟩
  · rw [List.count_eq_zero.2 hquote]
    decide
  · rw [hblank]
    exact hnot (by decide) (by decide)
  · rw [hblank]
    exact hasComment_of_notMem (hnot (by decide) (by decide)) (hnot (by decide) (by decide))
  · rw [hblank]
    by_contra hfound
    obtain ⟨ws, hws, x, u, r, heq, hspells, -, -⟩ := exists_of_findForbidden? hfound
    obtain ⟨c, hc, hupper, hp⟩ := exists_initial_of_spells hws hspells
    have hcmem : c ∈ ':' :: 'p' :: ds := by simp [heq, hc]
    rcases hmem hcmem with rfl | rfl | hdigit
    · exact absurd hupper (by decide)
    · exact hp (by decide)
    · rw [isUpper_foldLetter_of_isDigit hdigit] at hupper
      cases hupper
  · exact placeholders_of_digits hne hds

theorem harmless_placeholder (k : ℕ) :
    Harmless (Fragment.placeholder k).toList [(toString k).toList] := by
  have htext : (Fragment.placeholder k).toList = ':' :: 'p' :: (toString k).toList := by
    simp [Fragment.placeholder]
  rw [htext]
  exact harmless_of_digits (Fragment.toString_toList_ne_nil k)
    fun c hc => Fragment.isDigit_of_mem_toString hc

end Gate

/-! ### Fragments that pass -/

namespace Fragment

/-- The text of a fragment is harmless wherever the fragment stands, and holds its placeholders and
no others. -/
def Passes (f : Fragment) : Prop :=
  ∀ n, Gate.Harmless (f.textFrom n).toList (digitsFrom n f.values.length)

/-- The fragment opens wherever it stands. -/
def Opens (f : Fragment) : Prop := ∀ n, Gate.Opens (f.textFrom n).toList

/-- A text that may stand before any fragment that passes. -/
structure Leads (s : String) : Prop where
  harmless : Gate.Harmless s.toList []
  closes : Gate.Closes (Gate.blankQuoted s.toList)

/-- A text that may stand behind any fragment that passes. -/
structure Follows (s : String) : Prop where
  harmless : Gate.Harmless s.toList []
  opens : Gate.Opens s.toList
  solid : s.toList.all Text.isBlank = false

/-- A text that may stand between any two fragments that pass. -/
structure Joint (s : String) : Prop where
  harmless : Gate.Harmless s.toList []
  closes : Gate.Closes (Gate.blankQuoted s.toList)
  opens : Gate.Opens s.toList
  solid : s.toList.all Text.isBlank = false

instance : DecidablePred Leads := fun s =>
  decidable_of_iff (Gate.Harmless s.toList [] ∧ Gate.Closes (Gate.blankQuoted s.toList))
    ⟨fun h => ⟨h.1, h.2⟩, fun h => ⟨h.harmless, h.closes⟩⟩

instance : DecidablePred Follows := fun s =>
  decidable_of_iff (Gate.Harmless s.toList [] ∧ Gate.Opens s.toList ∧
      s.toList.all Text.isBlank = false)
    ⟨fun h => ⟨h.1, h.2.1, h.2.2⟩, fun h => ⟨h.harmless, h.opens, h.solid⟩⟩

instance : DecidablePred Joint := fun s =>
  decidable_of_iff (Gate.Harmless s.toList [] ∧ Gate.Closes (Gate.blankQuoted s.toList) ∧
      Gate.Opens s.toList ∧ s.toList.all Text.isBlank = false)
    ⟨fun h => ⟨h.1, h.2.1, h.2.2.1, h.2.2.2⟩, fun h => ⟨h.harmless, h.closes, h.opens, h.solid⟩⟩

theorem Joint.leads {s : String} (h : Joint s) : Leads s := ⟨h.harmless, h.closes⟩

theorem Joint.follows {s : String} (h : Joint s) : Follows s := ⟨h.harmless, h.opens, h.solid⟩

/-- The words that the compiler puts between two fragments. -/
def joints : List String :=
  [", ", " AND ", " WHERE ", " AS ", " = ", " ON ", " FROM ", " FROM date_series LEFT JOIN ",
    " GROUP BY ", " ORDER BY ", " LIMIT "]

/-- The words that it starts with. -/
def openings : List String := ["", "SELECT ", "WITH date_series AS (SELECT generate_series("]

/-- The words that it ends in. -/
def endings : List String := [")", " ASC", " DESC", " ::", "[]"]

/-- All of these are evaluated at once, since they are compared with the same forbidden words. -/
theorem words_around :
    (∀ s ∈ joints, Joint s) ∧ (∀ s ∈ openings, Leads s) ∧ ∀ s ∈ endings, Follows s := by
  decide +kernel

theorem joint_of_mem {s : String} (h : s ∈ joints) : Joint s := words_around.1 s h

theorem leads_of_mem {s : String} (h : s ∈ openings) : Leads s := words_around.2.1 s h

theorem follows_of_mem {s : String} (h : s ∈ endings) : Follows s := words_around.2.2 s h

theorem passes_empty : empty.Passes := fun _ =>
  show Gate.Harmless "".toList [] from (leads_of_mem (by simp [openings])).harmless

theorem opens_empty : empty.Opens := fun _ => show Gate.Opens "".toList by decide

theorem passes_raw {s : String} (h : Gate.Harmless s.toList []) : (raw s).Passes := fun _ => h

theorem passes_bind (v : Value) : (bind v).Passes := fun n => by
  rw [textFrom_bind]
  exact Gate.harmless_placeholder (n + 1)

/-- A fragment that opens may stand behind any other. -/
theorem Passes.append {f g : Fragment} (hf : f.Passes) (hg : g.Passes) (h : g.Opens) :
    (f ++ g).Passes := fun n => by
  rw [textFrom_append, String.toList_append, values_append, List.length_append, digitsFrom_add]
  exact (hf n).append (hg _) (.inr (h _))

/-- What passes is a matter of texts and values alone. -/
theorem Passes.congr {f g : Fragment} (hf : f.Passes) (htext : ∀ n, f.textFrom n = g.textFrom n)
    (hvalues : f.values = g.values) : g.Passes := fun n => by
  rw [← htext, ← hvalues]
  exact hf n

theorem Opens.congr {f g : Fragment} (hf : f.Opens) (htext : ∀ n, f.textFrom n = g.textFrom n) :
    g.Opens := fun n => by
  rw [← htext]
  exact hf n

theorem Opens.append {f g : Fragment} (hf : f.Opens) (hg : g.Opens) : (f ++ g).Opens := fun n => by
  rw [textFrom_append, String.toList_append]
  exact Gate.opens_append (hf n) fun _ => hg _

namespace Leads

variable {s : String} (hs : Leads s)
include hs

theorem passes : (raw s).Passes := passes_raw hs.harmless

theorem append {g : Fragment} (hg : g.Passes) : (raw s ++ g).Passes := fun n => by
  rw [textFrom_append, String.toList_append]
  exact hs.harmless.append (hg n) (.inl hs.closes)

end Leads

namespace Follows

variable {s : String} (hs : Follows s)
include hs

theorem passes : (raw s).Passes := passes_raw hs.harmless

theorem append {t : String} (ht : Gate.Harmless t.toList []) (hopens : Gate.Opens t.toList) :
    Follows (s ++ t) where
  harmless := by
    rw [String.toList_append]
    exact hs.harmless.append ht (.inr hopens)
  opens := by
    rw [String.toList_append]
    exact Gate.opens_append hs.opens fun _ => hopens
  solid := by rw [String.toList_append, List.all_append, hs.solid, Bool.false_and]

theorem opens_raw : (raw s).Opens := fun _ => hs.opens

/-- A text that is not blank opens with anything behind it. -/
theorem opens_append (g : Fragment) : (raw s ++ g).Opens := fun n => by
  rw [textFrom_append, String.toList_append]
  refine Gate.opens_append hs.opens fun hblank => ?_
  rw [textFrom_raw, hs.solid] at hblank
  cases hblank

end Follows

theorem passes_join {sep : String} (hsep : Joint sep) {fs : List Fragment}
    (h : ∀ f ∈ fs, f.Passes) : (join sep fs).Passes := by
  induction fs with
  | nil => exact passes_empty
  | cons f fs ih =>
    have hf' := h f List.mem_cons_self
    have hfs := ih fun g hg => h g (List.mem_cons_of_mem _ hg)
    cases fs with
    | nil => exact hf'.append passes_empty opens_empty
    | cons g fs => exact hf'.append (hsep.leads.append hfs) (hsep.follows.opens_append _)

end Fragment

/-! ### Names between double quotes -/

/-- What follows the first character of a name: letters, digits and underscores, and at most one
line break behind them. -/
theorem isIdentifierTail_iff {s : List Char} : isIdentifierTail s = true ↔
    ∃ r, (∀ d ∈ r, isIdentifierPart d = true) ∧ (s = r ∨ s = r ++ ['\n']) := by
  fun_induction isIdentifierTail s with
  | case1 => exact ⟨fun _ => ⟨[], List.forall_mem_nil _, .inl rfl⟩, fun _ => rfl⟩
  | case2 => exact ⟨fun _ => ⟨[], List.forall_mem_nil _, .inr rfl⟩, fun _ => rfl⟩
  | case3 c s hbreak ih =>
    rw [Bool.and_eq_true, ih]
    constructor
    · rintro ⟨hc, r, hr, hs⟩
      exact ⟨c :: r, List.forall_mem_cons.2 ⟨hc, hr⟩, hs.imp (by simp) (by simp)⟩
    · rintro ⟨r, hr, hs⟩
      cases r with
      | nil =>
        -- a line break alone is the case before this one
        rcases hs with hs | hs
        · cases hs
        · obtain ⟨rfl, rfl⟩ := List.cons.inj hs
          exact absurd rfl (hbreak rfl)
      | cons d r =>
        obtain ⟨hd, hr⟩ := List.forall_mem_cons.1 hr
        have hcd : c = d := hs.elim (fun hs => (List.cons.inj hs).1) fun hs => (List.cons.inj hs).1
        exact ⟨hcd ▸ hd, r, hr, hs.imp (fun hs => (List.cons.inj hs).2)
          fun hs => (List.cons.inj hs).2⟩

theorem isIdentifierPart_of_mem_tail {s : List Char} (h : isIdentifierTail s = true) :
    ∀ c ∈ s, isIdentifierPart c = true ∨ c = '\n' := by
  obtain ⟨r, hr, rfl | rfl⟩ := isIdentifierTail_iff.1 h
  · exact fun c hc => .inl (hr c hc)
  · intro c hc
    rcases List.mem_append.1 hc with hc | hc
    · exact .inl (hr c hc)
    · exact .inr (List.mem_singleton.1 hc)

/-- A text without the characters that the gate looks for between double quotes. -/
def Unmarked (s : List Char) : Prop := '"' ∉ s ∧ ':' ∉ s

theorem Unmarked.append {s t : List Char} (hs : Unmarked s) (ht : Unmarked t) :
    Unmarked (s ++ t) := by
  simp only [Unmarked, List.mem_append, not_or]
  exact ⟨⟨hs.1, ht.1⟩, hs.2, ht.2⟩

theorem unmarked_of_isIdentifierTail {s : List Char} (h : isIdentifierTail s = true) :
    Unmarked s := by
  have hparts := isIdentifierPart_of_mem_tail h
  refine ⟨fun hc => ?_, fun hc => ?_⟩
  · exact absurd (hparts _ hc) (by decide)
  · exact absurd (hparts _ hc) (by decide)

/-- A name consists of some of the first 128 characters. -/
theorem toNat_lt_of_isIdentifierPart {c : Char} (h : isIdentifierPart c = true) :
    c.toNat < 128 := by
  simp only [isIdentifierPart, isIdentifierStart, Bool.or_eq_true, Bool.and_eq_true,
    decide_eq_true_eq, beq_iff_eq] at h
  rcases h with ((⟨-, h⟩ | ⟨-, h⟩) | rfl) | ⟨-, h⟩
  · exact Nat.lt_of_le_of_lt h (by decide)
  · exact Nat.lt_of_le_of_lt h (by decide)
  · decide
  · exact Nat.lt_of_le_of_lt h (by decide)

theorem isIdentifierPart_of_mem {s : List Char} (h : isIdentifier s = true) :
    ∀ c ∈ s, isIdentifierPart c = true ∨ c = '\n' := by
  cases s with
  | nil => cases h
  | cons c s =>
    rw [isIdentifier, Bool.and_eq_true] at h
    exact List.forall_mem_cons.2
      ⟨.inl (by simp [isIdentifierPart, h.1]), isIdentifierPart_of_mem_tail h.2⟩

/-- What holds of those of the first 128 characters that a name may start with holds of them all. -/
theorem forall_isIdentifierStart {P : Char → Prop}
    (hP : ∀ n < 128, isIdentifierStart (Char.ofNat n) = true → P (Char.ofNat n)) {c : Char}
    (h : isIdentifierStart c = true) : P c := by
  have hsmall : c.toNat < 128 := toNat_lt_of_isIdentifierPart (by simp [isIdentifierPart, h])
  have hc := hP c.toNat hsmall
  rw [Char.ofNat_toNat] at hc
  exact hc h

/-- The upper case of the first character of a name is no mark. -/
theorem unmarked_upper {c : Char} (h : isIdentifierStart c = true) :
    Unmarked (Text.upper [c]) :=
  forall_isIdentifierStart (P := fun c => '"' ∉ Text.upper [c] ∧ ':' ∉ Text.upper [c])
    (by decide) h

theorem unmarked_of_isIdentifier {s : List Char} (h : isIdentifier s = true) : Unmarked s := by
  have hparts := isIdentifierPart_of_mem h
  refine ⟨fun hc => ?_, fun hc => ?_⟩
  · exact absurd (hparts _ hc) (by decide)
  · exact absurd (hparts _ hc) (by decide)

/-- The alias of a column with a plain name is no more marked than the name. -/
theorem unmarked_columnAlias {name : String} (h : isIdentifier name.toList = true)
    {agg : Option String} (hagg : ∀ word ∈ agg, ∃ a : Aggregation, word = Keyword.word a) :
    Unmarked (columnAlias name agg).toList := by
  cases agg with
  | none => exact unmarked_of_isIdentifier h
  | some word =>
    obtain ⟨a, rfl⟩ := hagg word rfl
    have hword : Unmarked (Text.lower (Keyword.word a).toList) := by
      cases a <;> exact ⟨by decide, by decide⟩
    rw [columnAlias, String.toList_ofList]
    cases hname : name.toList with
    | nil =>
      have hnil : Unmarked [] := ⟨nofun, nofun⟩
      exact (hword.append hnil).append hnil
    | cons c r =>
      rw [hname, isIdentifier, Bool.and_eq_true] at h
      exact (hword.append (unmarked_upper h.1)).append (unmarked_of_isIdentifierTail h.2)

namespace Fragment

/-- A name between double quotes may stand behind any fragment. -/
theorem follows_quoted {name : String} (h : Unmarked name.toList) :
    Follows ("\"" ++ name ++ "\"") := by
  have htext : ("\"" ++ name ++ "\"").toList = '"' :: (name.toList ++ ['"']) := by simp
  have hquote : Text.isBlank '"' = false ∧ Gate.isSeam '"' = true ∧
      Gate.foldLetter '"' ≠ 'R' := by decide
  refine ⟨?_, ?_, ?_⟩
  · rw [htext]
    exact Gate.harmless_quoted h.1 h.2
  · rw [htext]
    exact ⟨hquote.2.1, by simp [hquote.1, hquote.2.2]⟩
  · simp [htext, hquote.1]

/-- So may a cast to a type with such a name, or to lists of it. -/
theorem follows_cast {type : String} (h : Unmarked type.toList) :
    Follows (" ::\"" ++ type ++ "\"") ∧ Follows (" ::\"" ++ type ++ "\"[]") := by
  have hcolons : Follows " ::" := Fragment.follows_of_mem (by simp [Fragment.endings])
  have hquoted := follows_quoted h
  have hone : Follows (" ::" ++ ("\"" ++ type ++ "\"")) :=
    hcolons.append hquoted.harmless hquoted.opens
  have hlist : Follows "[]" := Fragment.follows_of_mem (by simp [Fragment.endings])
  have hmany : Follows (" ::" ++ ("\"" ++ type ++ "\"") ++ "[]") :=
    hone.append hlist.harmless hlist.opens
  have htext : " ::" ++ ("\"" ++ type ++ "\"") = " ::\"" ++ type ++ "\"" := by
    rw [← String.append_assoc, ← String.append_assoc]
    rfl
  rw [htext] at hone hmany
  refine ⟨hone, ?_⟩
  rwa [String.append_assoc] at hmany

end Fragment

/-! ### Steps of the compiler -/

open Fragment (Leads Follows Joint)

theorem Aggregation.leads_around (a : Aggregation) : Leads a.around.1 ∧ Follows a.around.2 := by
  have hall : ∀ b ∈ (Keyword.all : List Aggregation), Leads b.around.1 ∧ Follows b.around.2 := by
    decide +kernel
  exact hall a (by cases a <;> decide)

theorem Direction.follows_word (d : Direction) : Follows (" " ++ Keyword.word d) := by
  cases d with
  | asc => exact Fragment.follows_of_mem (by simp [Fragment.endings, Keyword.word])
  | desc => exact Fragment.follows_of_mem (by simp [Fragment.endings, Keyword.word])

/-- A unit stands in the name of a bucket and in the step of a series. -/
theorem TemporalUnit.leads_word (u : TemporalUnit) :
    Leads ("DATE_TRUNC('" ++ Keyword.word u ++ "', ") ∧
      Joint (", '1 " ++ Keyword.word u ++ "'::interval) AS \"date\") ") := by
  have hall : ∀ v ∈ (Keyword.all : List TemporalUnit),
      Leads ("DATE_TRUNC('" ++ Keyword.word v ++ "', ") ∧
        Joint (", '1 " ++ Keyword.word v ++ "'::interval) AS \"date\") ") := by
    decide +kernel
  exact hall u (by cases u <;> decide)

/-- An operator may stand between any two fragments, with a space or a parenthesis behind it. -/
theorem FilterKind.joint_of_mem {k : FilterKind} {w : String} (h : w ∈ k.operatorTexts) :
    Joint (" " ++ w ++ " ") ∧ Joint (" " ++ w ++ "(") := by
  revert w
  cases k <;> decide +kernel

theorem Draft.joint_of_operatorSql {kind operator : String} {field : Option String} {sql : String}
    (h : operatorSql kind operator field = .ok sql) :
    Joint (" " ++ sql ++ " ") ∧ Joint (" " ++ sql ++ "(") := by
  unfold operatorSql at h
  split at h
  · rename_i found hfound
    obtain ⟨k, -, hsql⟩ := Option.bind_eq_some_iff.1 hfound
    cases pure_eq_ok.1 h
    exact FilterKind.joint_of_mem (FilterKind.operatorSql?_mem hsql)
  · cases h

/-- What the gate needs to know of a column. -/
structure Column.Plain (c : Column) : Prop where
  harmless : Gate.Harmless c.internal.toList []
  named : c.Named

namespace Draft

variable {t : Table} {c : Column}

theorem passes_of_aggregated (hc : Gate.Harmless c.internal.toList []) {agg : Option String}
    {g : Fragment} (h : aggregated c.internal agg = .ok g) : g.Passes := by
  have hinternal := Fragment.passes_raw hc
  rcases aggregated_eq_ok.1 h with ⟨-, rfl⟩ | ⟨a, -, rfl⟩
  · exact hinternal
  · obtain ⟨hl, hr⟩ := a.leads_around
    exact hl.append (hinternal.append (hr.passes.append Fragment.passes_empty Fragment.opens_empty)
      (hr.opens_append _))

theorem keyword_of_aggregated {internal : String} {agg : Option String} {g : Fragment}
    (h : aggregated internal agg = .ok g) :
    ∀ word ∈ agg, ∃ a : Aggregation, word = Keyword.word a := by
  rintro word rfl
  rcases aggregated_eq_ok.1 h with ⟨hnone, -⟩ | ⟨a, ha, -⟩
  · cases hnone
  · exact ⟨a, Option.some.inj ha⟩

theorem passes_of_selectFragment {item : Select} {i : ℕ} {g : Fragment}
    (ht : ∀ c ∈ t.columns, c.Plain) (h : selectFragment t item i = .ok g) : g.Passes := by
  obtain ⟨c, e, hc, he, rfl⟩ := selectFragment_eq_ok.1 h
  have hplain := ht c (Table.mem_of_column? hc)
  have has : Joint " AS " := Fragment.joint_of_mem (by simp [Fragment.joints])
  have hquoted := Fragment.follows_quoted
    (unmarked_columnAlias hplain.named.name (keyword_of_aggregated he))
  exact (passes_of_aggregated hplain.harmless he).append
    (has.leads.append (hquoted.passes.append Fragment.passes_empty Fragment.opens_empty))
    (has.follows.opens_append _)

theorem passes_of_orderFragment {item : Order} {i : ℕ} {g : Fragment}
    (ht : ∀ c ∈ t.columns, c.Plain) (h : orderFragment t item i = .ok g) : g.Passes := by
  obtain ⟨c, e, d, hc, he, -, rfl⟩ := orderFragment_eq_ok.1 h
  have hplain := ht c (Table.mem_of_column? hc)
  exact (passes_of_aggregated hplain.harmless he).append
    (d.follows_word.passes.append Fragment.passes_empty Fragment.opens_empty)
    (d.follows_word.opens_append _)

theorem passes_of_groupFragment {planned : Bool} {item : Group} {i : ℕ} {g : Fragment}
    (ht : ∀ c ∈ t.columns, c.Plain) (h : groupFragment t planned item i = .ok (some g)) :
    g.Passes := by
  obtain ⟨c, hc, hg⟩ := groupFragment_eq_ok.1 h
  split at hg
  · cases hg
  · cases hg
    exact Fragment.passes_raw (ht c (Table.mem_of_column? hc)).harmless

/-- A cast to a plain identifier passes, and may follow a placeholder. -/
theorem passes_castFragment (hc : c.Named) (form : FilterKind) :
    (castFragment c.cast form).Passes ∧ (castFragment c.cast form).Opens := by
  cases hcast : c.cast with
  | none => exact ⟨Fragment.passes_empty, Fragment.opens_empty⟩
  | some type =>
    obtain ⟨hone, hmany⟩ := Fragment.follows_cast (unmarked_of_isIdentifier (hc.cast type hcast))
    cases form with
    | string => exact ⟨hone.passes, hone.opens_raw⟩
    | number => exact ⟨hone.passes, hone.opens_raw⟩
    | datetime => exact ⟨Fragment.passes_empty, Fragment.opens_empty⟩
    | options => exact ⟨hmany.passes, hmany.opens_raw⟩

theorem passes_of_filterFragment {item : Filter} {i : ℕ} {g : Fragment}
    (ht : ∀ c ∈ t.columns, c.Plain) (h : filterFragment t item i = .ok g) : g.Passes := by
  obtain ⟨c, op, v, hc, hop, -, rfl⟩ := filterFragment_eq_ok.1 h
  have hplain := ht c (Table.mem_of_column? hc)
  have hinternal := Fragment.passes_raw hplain.harmless
  obtain ⟨hspace, hparen⟩ := joint_of_operatorSql hop
  obtain ⟨hcast, hopens⟩ := passes_castFragment hplain.named item.form
  have hclose : Follows ")" := Fragment.follows_of_mem (by simp [Fragment.endings])
  unfold condition
  split
  · have hrest := hcast.append (hclose.passes.append Fragment.passes_empty Fragment.opens_empty)
      (hclose.opens_append _)
    exact hinternal.append (hparen.leads.append ((Fragment.passes_bind v).append hrest
      (hopens.append (hclose.opens_append _)))) (hparen.follows.opens_append _)
  · have hrest := hcast.append Fragment.passes_empty Fragment.opens_empty
    exact hinternal.append (hspace.leads.append ((Fragment.passes_bind v).append hrest
      (hopens.append Fragment.opens_empty))) (hspace.follows.opens_append _)

end Draft

/-! ### Clauses -/

theorem passes_dateTrunc (unit : TemporalUnit) {f : Fragment} (hf : f.Passes) :
    (dateTrunc unit f).Passes := by
  have hclose : Follows ")" := Fragment.follows_of_mem (by simp [Fragment.endings])
  exact unit.leads_word.1.append (hf.append
    (hclose.passes.append Fragment.passes_empty Fragment.opens_empty) (hclose.opens_append _))

theorem passes_seriesColumn : seriesColumn.Passes := Fragment.passes_raw (by decide)

namespace BucketPlan

variable (p : BucketPlan)

/-- The series may stand before anything. -/
theorem passes_series_append {g : Fragment} (hg : g.Passes) : (p.series ++ g).Passes := by
  have hopen : Leads "WITH date_series AS (SELECT generate_series(" :=
    Fragment.leads_of_mem (by simp [Fragment.openings])
  have hcomma : Joint ", " := Fragment.joint_of_mem (by simp [Fragment.joints])
  have hstep := p.unit.leads_word.2
  have hupper := (Fragment.passes_bind p.upper.value).append (hstep.leads.append hg)
    (hstep.follows.opens_append g)
  have hlower := (Fragment.passes_bind p.lower.value).append (hcomma.leads.append hupper)
    (hcomma.follows.opens_append _)
  refine (hopen.append hlower).congr (fun n => ?_) rfl
  simp [series, Fragment.textFrom_append, String.append_assoc]

theorem passes_selectItem (hc : p.column.Named) : p.selectItem.Passes := by
  have has : Joint " AS " := Fragment.joint_of_mem (by simp [Fragment.joints])
  have hquoted := Fragment.follows_quoted (unmarked_of_isIdentifier hc.name)
  exact passes_seriesColumn.append
    (has.leads.append (hquoted.passes.append Fragment.passes_empty Fragment.opens_empty))
    (has.follows.opens_append _)

theorem passes_source {t : Table} (ht : Gate.Harmless t.source.toList [])
    (hc : Gate.Harmless p.column.internal.toList []) :
    (p.source t).Passes ∧ (p.source t).Opens := by
  have hfrom : Joint " FROM date_series LEFT JOIN " :=
    Fragment.joint_of_mem (by simp [Fragment.joints])
  have hon : Joint " ON " := Fragment.joint_of_mem (by simp [Fragment.joints])
  have heq : Joint " = " := Fragment.joint_of_mem (by simp [Fragment.joints])
  have hright := heq.leads.append (passes_dateTrunc p.unit passes_seriesColumn)
  have hboth := (passes_dateTrunc p.unit (Fragment.passes_raw hc)).append hright
    (heq.follows.opens_append _)
  have htable := (Fragment.passes_raw ht).append (hon.leads.append hboth)
    (hon.follows.opens_append _)
  have htext (n : ℕ) : (Fragment.raw " FROM date_series LEFT JOIN " ++ (.raw t.source ++
      (.raw " ON " ++ (dateTrunc p.unit (.raw p.column.internal) ++ (.raw " = " ++
        dateTrunc p.unit seriesColumn))))).textFrom n = (p.source t).textFrom n := by
    simp [source, Fragment.textFrom_append, String.append_assoc]
  exact ⟨(hfrom.leads.append htable).congr htext rfl, (hfrom.follows.opens_append _).congr htext⟩

end BucketPlan

namespace Clauses

theorem passes_clause {opening sep : String} (hopening : Joint opening) (hsep : Joint sep)
    {terms : List Fragment} (h : ∀ f ∈ terms, f.Passes) :
    (clause opening sep terms).Passes ∧ (clause opening sep terms).Opens := by
  unfold clause
  split
  · exact ⟨Fragment.passes_empty, Fragment.opens_empty⟩
  · exact ⟨hopening.leads.append (Fragment.passes_join hsep h), hopening.follows.opens_append _⟩

theorem passes_limitFragment (v : Value) : (limitFragment v).Passes ∧ (limitFragment v).Opens := by
  have hlimit : Joint " LIMIT " := Fragment.joint_of_mem (by simp [Fragment.joints])
  unfold limitFragment
  split
  · exact ⟨Fragment.passes_empty, Fragment.opens_empty⟩
  · exact ⟨hlimit.leads.append (Fragment.passes_bind _), hlimit.follows.opens_append _⟩

/-- All that the gate needs to know of clauses. -/
structure Plain (c : Clauses) : Prop where
  source : Gate.Harmless c.table.source.toList []
  column : ∀ p, c.plan = some p → p.column.Plain
  items : ∀ f ∈ c.items, f.Passes
  conditions : ∀ f ∈ c.conditions, f.Passes
  groups : ∀ f ∈ c.groups, f.Passes
  orders : ∀ f ∈ c.orders, f.Passes

/-- The statement without the semicolon at its end. -/
def body (c : Clauses) : Fragment :=
  .concat [
    c.seriesFragment,
    .raw "SELECT ",
    .join ", " c.allItems,
    c.sourceFragment,
    clause c.conditionOpening " AND " c.conditions,
    clause " GROUP BY " ", " c.allGroups,
    clause " ORDER BY " ", " c.allOrders,
    limitFragment c.limit]

theorem textFrom_fragment (c : Clauses) : c.fragment.textFrom 0 = c.body.textFrom 0 ++ ";" := by
  simp [fragment, body, Fragment.textFrom_append, String.append_assoc]

theorem values_fragment (c : Clauses) : c.fragment.values = c.body.values := by
  simp [fragment, body]

theorem Plain.passes_source {c : Clauses} (h : c.Plain) :
    c.sourceFragment.Passes ∧ c.sourceFragment.Opens := by
  unfold sourceFragment
  cases hp : c.plan with
  | some p => exact p.passes_source h.source (h.column p hp).harmless
  | none =>
    have hfrom : Joint " FROM " := Fragment.joint_of_mem (by simp [Fragment.joints])
    have htext (n : ℕ) : (Fragment.raw " FROM " ++ .raw c.table.source).textFrom n =
        (Fragment.raw (" FROM " ++ c.table.source)).textFrom n := by
      rw [Fragment.textFrom_append]
      rfl
    exact ⟨(hfrom.leads.append (Fragment.passes_raw h.source)).congr htext rfl,
      (hfrom.follows.opens_append _).congr htext⟩

/-- The body of a statement passes: every part may follow what stands before it. -/
theorem Plain.passes_body {c : Clauses} (h : c.Plain) : c.body.Passes := by
  have hcomma : Joint ", " := Fragment.joint_of_mem (by simp [Fragment.joints])
  have hopening : Joint c.conditionOpening := by
    unfold conditionOpening
    split
    · exact Fragment.joint_of_mem (by simp [Fragment.joints])
    · exact Fragment.joint_of_mem (by simp [Fragment.joints])
  have hand : Joint " AND " := Fragment.joint_of_mem (by simp [Fragment.joints])
  have hgroupBy : Joint " GROUP BY " := Fragment.joint_of_mem (by simp [Fragment.joints])
  have horderBy : Joint " ORDER BY " := Fragment.joint_of_mem (by simp [Fragment.joints])
  have hitems := Fragment.passes_join hcomma (Draft.forall_mem_toList_append
    (fun p hp => p.passes_selectItem (h.column p hp).named) h.items)
  have hascending : Follows " ASC" := Fragment.follows_of_mem (by simp [Fragment.endings])
  obtain ⟨hsource, hsource'⟩ := h.passes_source
  obtain ⟨hconds, hconds'⟩ := passes_clause hopening hand h.conditions
  obtain ⟨hgroups, hgroups'⟩ := passes_clause hgroupBy hcomma
    (Draft.forall_mem_toList_append (fun _ _ => passes_seriesColumn) h.groups)
  obtain ⟨horders, horders'⟩ := passes_clause horderBy hcomma
    (Draft.forall_mem_toList_append (fun _ _ => passes_seriesColumn.append
      hascending.passes hascending.opens_raw) h.orders)
  obtain ⟨hlimit, hlimit'⟩ := passes_limitFragment c.limit
  -- from the end to the front
  have hend := hlimit.append Fragment.passes_empty Fragment.opens_empty
  have hend' := hlimit'.append Fragment.opens_empty
  have horder := horders.append hend hend'
  have horder' := horders'.append hend'
  have hgroup := hgroups.append horder horder'
  have hgroup' := hgroups'.append horder'
  have hcond := hconds.append hgroup hgroup'
  have hcond' := hconds'.append hgroup'
  have hstart : Leads "SELECT " := Fragment.leads_of_mem (by simp [Fragment.openings])
  have hselect := hstart.append
    (hitems.append (hsource.append hcond hcond') (hsource'.append hcond'))
  unfold body seriesFragment
  cases c.plan with
  | some p => exact p.passes_series_append hselect
  | none =>
    have hnothing : Leads "" := Fragment.leads_of_mem (by simp [Fragment.openings])
    exact hnothing.append hselect

end Clauses

/-- Every compiled draft of a plain registry is plain. -/
theorem Draft.plain_of_clauses {d : Draft} {r : Registry} {plan : Option BucketPlan} {c : Clauses}
    (hr : ∀ t ∈ r.tables, ∀ c ∈ t.columns, c.Named) (h : r.Harmless)
    (hplan : ∀ p, plan = some p → p.column ∈ c.table.columns)
    (hc : d.clauses r plan = .ok c) : c.Plain := by
  obtain ⟨ht, rfl, -⟩ := clauses_eq_ok.1 hc
  have hmem := Registry.mem_of_table? ht
  have htable := h c.table hmem
  have hcolumns : ∀ col ∈ c.table.columns, col.Plain := fun col hcol =>
    ⟨htable.columns col hcol, hr c.table hmem col hcol⟩
  have hsteps := fromSteps_of_clauses hc
  refine ⟨htable.source, fun p hp => hcolumns _ (hplan p hp), fun f hf => ?_, fun f hf => ?_,
    fun f hf => ?_, fun f hf => ?_⟩
  · obtain ⟨item, i, hi⟩ := hsteps.items f hf
    exact passes_of_selectFragment hcolumns hi
  · obtain ⟨item, i, hi⟩ := hsteps.conditions f hf
    exact passes_of_filterFragment hcolumns hi
  · obtain ⟨item, i, hi⟩ := hsteps.groups f hf
    exact passes_of_groupFragment hcolumns hi
  · obtain ⟨item, i, hi⟩ := hsteps.orders f hf
    exact passes_of_orderFragment hcolumns hi

/-! ### The verdict of the gate -/

namespace Gate

theorem startsQuery_append {w : List Char} (hw : startsQuery w = true) (r : List Char) :
    startsQuery (w ++ r) = true := by
  have hupper : Text.upper (w ++ r) = Text.upper w ++ Text.upper r := List.flatMap_append
  unfold startsQuery at hw ⊢
  rw [Bool.or_eq_true, List.isPrefixOf_iff_prefix, List.isPrefixOf_iff_prefix] at hw ⊢
  rw [hupper]
  exact hw.imp (fun h => h.trans (List.prefix_append _ _)) fun h => h.trans (List.prefix_append _ _)

/-- One semicolon at the end is allowed. -/
theorem hasInnerSemicolon_append {s : List Char} (h : ';' ∉ s) :
    hasInnerSemicolon (s ++ [';']) = false := by
  have hlast : (s ++ [';']).reverse.dropWhile (· == ';') = s.reverse := by
    rw [List.reverse_append]
    cases hs : s.reverse with
    | nil => rfl
    | cons c r =>
      have hc : c ≠ ';' := by
        rintro rfl
        exact h (List.mem_reverse.1 (by simp [hs]))
      simp [hc]
  rw [hasInnerSemicolon, hlast, List.count_append, List.count_eq_zero.2 h]
  simpa using h

end Gate

theorem Clauses.startsQuery_text {c : Clauses} (h : c.BindsInConditions) :
    Gate.startsQuery c.fragment.render.text.toList = true := by
  rw [render_text_eq h]
  have hfront : ∃ w rest, c.layout.series ++ "SELECT " = w ++ rest ∧
      Gate.startsQuery w.toList = true := by
    unfold layout seriesFragment
    cases c.plan with
    | none => exact ⟨"SELECT ", "", by simp, by decide⟩
    | some p =>
      obtain ⟨g, hg⟩ : ∃ g, p.series =
          .raw "WITH date_series AS (SELECT generate_series(" ++ g := ⟨_, rfl⟩
      refine ⟨"WITH date_series AS (SELECT generate_series(", g.textFrom 0 ++ "SELECT ", ?_,
        by decide⟩
      rw [Option.map_some, Option.getD_some, hg, Fragment.textFrom_append, String.append_assoc]
      rfl
  obtain ⟨w, rest, hfront, hw⟩ := hfront
  rw [Layout.text, hfront]
  simp only [String.append_assoc, String.toList_append]
  exact Gate.startsQuery_append hw _

open Gate in
/-- The gate has nothing against a text that passes with one semicolon behind it. -/
theorem Statement.violations_of_passes {f : Fragment} (hf : f.Passes) {s : Statement}
    (htext : s.text = f.textFrom 0 ++ ";") (hvalues : s.parameters = f.values)
    (hstarts : startsQuery s.text.toList = true)
    (hstrip : Text.strip s.text.toList = s.text.toList) :
    s.violations = .ok [] ∨ (∃ fault, s.violations = .error fault) ∧ s.Immense := by
  have hpass := hf 0
  have hopens : Opens [';'] := by decide
  have hlist : s.text.toList = (f.textFrom 0).toList ++ [';'] := by
    rw [htext, String.toList_append]
    rfl
  have hblank : blankQuoted ((f.textFrom 0).toList ++ [';']) =
      blankQuoted (f.textFrom 0).toList ++ [';'] :=
    (blankFrom_append_of_even [';']).1 hpass.quotes
  have hnumbers : (digitsFrom 0 f.values.length).map placeholderNumber =
      List.range' 1 f.values.length := by
    rw [digitsFrom, List.map_map]
    exact (List.map_congr_left fun k _ => placeholderNumber_toString k).trans (List.map_id _)
  have hplaceholders : placeholders s.text.toList = digitsFrom 0 f.values.length := by
    rw [hlist, placeholders_append (.inr (apart_of_seam hopens.1)), hpass.placeholders]
    exact List.append_nil _
  have hfindings : s.findings ((placeholders (Text.strip s.text.toList)).map placeholderNumber) =
      [] := by
    rw [findings_eq_nil, hstrip]
    refine ⟨hstarts, ?_, ?_, ?_, ?_⟩
    · rw [hlist, hblank]
      exact hasInnerSemicolon_append hpass.semicolon
    · rw [hlist, hblank]
      exact hasComment_append_eq_false hpass.comment (by decide) (.inr hopens.1)
    · rw [hlist, hblank]
      exact findForbidden?_append_eq_none hpass.keyword (by decide) (.inr hopens)
    · rw [hplaceholders, hnumbers, hvalues]
  by_cases himmense : s.Immense
  · cases hv : s.violations with
    | error fault => exact .inr ⟨⟨fault, rfl⟩, himmense⟩
    | ok vs => exact .inl (by rw [(violations_eq_ok.1 hv).2, hfindings])
  · refine .inl (violations_eq_ok.2 ⟨fun digits hdigits => ?_, hfindings.symm⟩)
    rw [hstrip, hplaceholders, digitsFrom, ← hvalues, List.mem_map] at hdigits
    obtain ⟨k, hk, rfl⟩ := hdigits
    rw [List.mem_range'_1] at hk
    exact readable_toString (lt_of_not_immense himmense (by omega))

/-- The gate has nothing against any statement that is built with a plain registry. -/
theorem Draft.violations_of_build {doc : Document} {r : Registry}
    (hr : Registry.ofDocument doc = .ok r) (h : r.Harmless) {d : Draft} {tenant : Value}
    {s : Statement} (hs : d.build tenant r = .ok s) :
    s.violations = .ok [] ∨ (∃ fault, s.violations = .error fault) ∧ s.Immense := by
  obtain ⟨c, hc, rfl⟩ := build_eq_ok.1 hs
  obtain ⟨own, -, -, hplan, hclauses⟩ := buildClauses_eq_ok.1 hc
  have hbinds := bindsInConditions_of_clauses hclauses
  have hcolumn : ∀ p, c.plan = some p → p.column ∈ c.table.columns := fun p hp => by
    rw [hp] at hplan
    obtain ⟨name, unit, -, -, -, -, hcol, -⟩ := plan_eq_some.1 hplan
    exact Table.mem_of_column? hcol
  have hplain := plain_of_clauses (Registry.named_of_ofDocument hr) h hcolumn hclauses
  exact Statement.violations_of_passes hplain.passes_body c.textFrom_fragment c.values_fragment
    (Clauses.startsQuery_text hbinds) (Clauses.strip_text hbinds)

/-! ### Refusals -/

/-- A reason to refuse a request that is not the gate's. -/
theorem Query.parse_ne_refusedStatement {r : Registry} {j : Json} (vs : List String) :
    Query.parse r j ≠ .error (.refusedStatement vs) := by
  intro h
  rcases Query.parse_eq_error.1 h with hcheck | ⟨q, -, -, he⟩
  · have hkind : false = true := ((Query.isValidation_check j).of_toExcept hcheck).validation
    cases hkind
  · cases he

theorem Query.build_ne_refusedStatement {doc : Document} {r : Registry}
    (hr : Registry.ofDocument doc = .ok r) {j : Json} {q : Query} (hq : Query.parse r j = .ok q)
    (tenant : Value) (vs : List String) :
    q.toDraft.build tenant r ≠ .error (.refused (.refusedStatement vs)) := by
  obtain ⟨-, t, ht⟩ := Query.parse_eq_ok.1 hq
  have hchecked := (Registry.checked_of_ofDocument hr).tables t (Registry.mem_of_table? ht)
  have houtcome : q.Outcome t tenant (q.toDraft.build tenant r) :=
    Query.outcome_of_table ht hchecked
  intro h
  rw [h] at houtcome
  cases houtcome

namespace Bundled

open Fragment (Follows)

/-- The parts that the joined sources are made of. -/
theorem follows_joins :
    ∀ s ∈ [" LEFT JOIN observations o ON t.\"id\" = o.\"trace_id\"",
      " AND t.\"project_id\" = o.\"project_id\"",
      " JOIN scores s ON t.\"id\" = s.\"trace_id\" AND t.\"project_id\" = s.\"project_id\"",
      " LEFT JOIN scores s ON t.\"id\" = s.\"trace_id\" AND s.\"observation_id\" = o.\"id\""],
      Follows s := by
  decide +kernel

theorem follows_withObservations : Follows withObservations := by
  have hand := follows_joins " AND t.\"project_id\" = o.\"project_id\"" (by simp)
  exact (follows_joins " LEFT JOIN observations o ON t.\"id\" = o.\"trace_id\"" (by simp)).append
    hand.harmless hand.opens

end Bundled

open Bundled in
/-- The gate has nothing against the sources and the expressions of the bundled tables. -/
theorem Registry.harmless_bundled : Registry.bundled.Harmless := by
  have hentity : ∀ s ∈ ["traces t", "observations o"], Gate.Harmless s.toList [] := by
    decide +kernel
  have hjoin {s t : String} (hs : Gate.Harmless s.toList []) (ht : Fragment.Follows t) :
      Gate.Harmless (s ++ t).toList [] := by
    rw [String.toList_append]
    exact hs.append ht.harmless (.inr ht.opens)
  have htraces := hentity "traces t" (by simp)
  have hcolumns : ∀ t ∈ Registry.bundled.tables, ∀ c ∈ t.columns,
      Gate.Harmless c.internal.toList [] := by
    decide +kernel
  intro t ht
  refine ⟨?_, hcolumns t ht⟩
  simp only [Registry.bundled, List.mem_cons, List.not_mem_nil, or_false] at ht
  rcases ht with rfl | rfl | rfl | rfl | rfl
  · exact htraces
  · exact hentity "observations o" (by simp)
  · exact hjoin htraces follows_withObservations
  · exact hjoin htraces (follows_joins _ (by simp))
  · exact hjoin (hjoin htraces follows_withObservations) (follows_joins _ (by simp))

/-- The gate raises no false alarm. With a registry whose sources and expressions it has nothing
against, each on its own, it has nothing against any statement that is built, and no request is
refused for its statement. The bundled registry is of this kind. Only of an immense statement the
gate can say nothing, and then it lists nothing either. -/
theorem gate_accepts_compiled : Registry.bundled.Harmless ∧
    ∀ {doc : Document} {r : Registry}, Registry.ofDocument doc = .ok r → r.Harmless →
      (∀ (d : Draft) (tenant : Value) (s : Statement), d.build tenant r = .ok s →
        s.violations = .ok [] ∨ (∃ fault, s.violations = .error fault) ∧ s.Immense) ∧
      ∀ (q : Request) (vs : List String),
        q.compile r ≠ .error (.refused (.refusedStatement vs)) := by
  refine ⟨Registry.harmless_bundled, fun {doc r} hr h => ?_⟩
  have hgate (d : Draft) (tenant : Value) (s : Statement) (hs : d.build tenant r = .ok s) :
      s.violations = .ok [] ∨ (∃ fault, s.violations = .error fault) ∧ s.Immense :=
    Draft.violations_of_build hr h hs
  refine ⟨hgate, fun q vs hq => ?_⟩
  rw [Request.compile] at hq
  rcases bind_eq_error.1 hq with hparse | ⟨query, hparse, hq⟩
  · obtain ⟨e, he, heq⟩ := lookedUp_eq_error.1 hparse
    cases heq
    exact Query.parse_ne_refusedStatement vs he
  · rcases bind_eq_error.1 hq with hbuild | ⟨s, hs, hq⟩
    · exact Query.build_ne_refusedStatement hr (lookedUp_eq_ok.1 hparse) q.tenant vs hbuild
    · rcases hgate _ _ _ hs with hnone | ⟨⟨fault, hfault⟩, -⟩
      · rw [hnone] at hq
        cases hq
      · rw [hfault] at hq
        cases hq

namespace Provoking

/-- A registry file with names and expressions that hold what the gate looks for, all of it between
double quotes. -/
def document : Document := .map [(.text "tables", .list [.map [
  (.text "name", .text "drop"), (.text "source", .text "\"drop;\" d"),
  (.text "tenant_columns", .list [.text "delete"]),
  (.text "columns", .list [
    .map [(.text "name", .text "delete"), (.text "internal", .text "d.\"a--b\""),
      (.text "cast", .text "Grant")],
    .map [(.text "name", .text "role"), (.text "internal", .text "d.\"reset\"")]])]])]

/-- The registry of the file. -/
def registry : Registry where
  version := .int 1
  tables := [{
    name := "drop"
    source := "\"drop;\" d"
    columns := [⟨"delete", "d.\"a--b\"", .string, some "Grant"⟩,
      ⟨"role", "d.\"reset\"", .string, none⟩]
    tenantColumns := ["delete"] }]

/-- A query of that table. -/
def query : Query where
  table := "drop"
  select := [⟨"role", some .max⟩]
  filters := []
  groups := [.categorical .string "delete"]
  orders := [⟨"role", none, .asc⟩]
  limit := some 5

/-- Its statement for the tenant `a`. -/
def statement : Statement where
  text := "SELECT MAX(d.\"reset\") AS \"maxRole\" FROM \"drop;\" d" ++
    " WHERE d.\"a--b\" = :p1 ::\"Grant\" GROUP BY d.\"a--b\" ORDER BY d.\"reset\" ASC LIMIT :p2;"
  parameters := [.text "a", .int 5]

end Provoking

open Provoking in
/-- The gate lets such names through. -/
theorem gate_accepts_compiled_provoking :
    Registry.ofDocument document = .ok registry ∧ registry.Harmless ∧
      query.toDraft.build (.text "a") registry = .ok statement ∧ statement.violations = .ok [] := by
  have hread : Registry.ofDocument document = .ok registry := rfl
  have hharmless : registry.Harmless := by decide +kernel
  have hbuild : query.toDraft.build (.text "a") registry = .ok statement := by rfl
  have hfew : statement.parameters.length ≤ mostDigits := by decide
  have hsmall : ¬statement.Immense := not_le.2 (hfew.trans_lt (Nat.lt_pow_self (by decide)))
  exact ⟨hread, hharmless, hbuild, ((gate_accepts_compiled.2 hread hharmless).1 _ _ _
    hbuild).resolve_right fun himmense => hsmall himmense.2⟩

end Dashboard

import Dashboard.Proofs.GateAcceptance

/-!
# Names of placeholders

The gate compares the numbers of the placeholders in a text with those of the values. A value is
bound to a name, though, and one number may be written in several ways.

* `Text.exists_strip` and `Gate.placeholders_strip`: white space around a text neither holds a
  placeholder nor hides one, so that the gate sees every placeholder of a statement.
* `Statement.Mismatched` says that the gate reports the placeholders of a statement,
  `Statement.Matched` that it has come to a result without such a report. `Statement.Readable` says
  that it comes to a result at all. `Statement.mismatched_iff`, `Statement.matched_iff` and
  `Statement.readable_iff` tell when.
* `Gate.IsPlain`: the digits of a placeholder are the ones that its number is written with.
  `Statement.name_mem_bindings_iff`: no other digits name a value.
* `placeholders_match_iff`: what the gate accepts and what is bound are the same for statements
  whose placeholders are plain, and for no others.
-/

namespace Dashboard

open Statement (parameterName)

/-! ### White space around a text -/

namespace Text

/-- The code points of white space. -/
def blankCodes : List ℕ :=
  List.range' 0x9 5 ++ List.range' 0x1C 5 ++ [0x85, 0xA0, 0x1680] ++ List.range' 0x2000 11 ++
    [0x2028, 0x2029, 0x202F, 0x205F, 0x3000]

theorem toNat_mem_blankCodes {c : Char} (h : isBlank c = true) : c.toNat ∈ blankCodes := by
  simp only [isBlank, Bool.or_eq_true, Bool.and_eq_true, decide_eq_true_eq, beq_iff_eq] at h
  simp only [blankCodes, List.mem_append, List.mem_range'_1, List.mem_cons, List.not_mem_nil]
  omega

theorem inRanges_eq_any_toList (table : Array (ℕ × ℕ)) (n : ℕ) :
    inRanges table n = table.toList.any fun r => decide (r.1 ≤ n) && decide (n ≤ r.2) := by
  rw [inRanges, Array.any_toList]

/-- White space is in none of the tables of words and digits. -/
theorem of_mem_blankCodes : ∀ n ∈ blankCodes, Char.ofNat n ≠ ':' ∧
    isWord (Char.ofNat n) = false ∧ (decimalValue? (Char.ofNat n)).isSome = false := by
  -- the tables are searched as lists, which the kernel evaluates fast
  simp only [isWord, decimalValue?, inRanges_eq_any_toList, ← Array.find?_toList]
  decide +kernel

theorem exists_stripRight (s : List Char) :
    ∃ back, s = stripRight s ++ back ∧ ∀ c ∈ back, isBlank c = true := by
  induction s with
  | nil => exact ⟨[], rfl, nofun⟩
  | cons c r ih =>
    obtain ⟨back, hr, hback⟩ := ih
    cases hs : stripRight r with
    | cons d t =>
      rw [hs] at hr
      exact ⟨back, by rw [stripRight, hs, hr]; rfl, hback⟩
    | nil =>
      -- all that follows `c` is white space
      obtain rfl : r = back := by simpa [hs] using hr
      cases hc : isBlank c with
      | true => exact ⟨c :: r, by simp [stripRight, hs, hc], by simpa [hc] using hback⟩
      | false => exact ⟨r, by simp [stripRight, hs, hc], hback⟩

/-- A text is what is left of it without the white space around it, between such white space. -/
theorem exists_strip (s : List Char) : ∃ front back, s = front ++ (strip s ++ back) ∧
    (∀ c ∈ front, isBlank c = true) ∧ ∀ c ∈ back, isBlank c = true := by
  obtain ⟨back, hs, hback⟩ := exists_stripRight (s.dropWhile isBlank)
  refine ⟨s.takeWhile isBlank, back, ?_, fun c hc => List.mem_takeWhile_imp hc, hback⟩
  rw [strip, ← hs, List.takeWhile_append_dropWhile]

end Text

namespace Gate

theorem apart_of_isBlank {c : Char} (h : Text.isBlank c = true) : Apart c := by
  have hc := Text.of_mem_blankCodes c.toNat (Text.toNat_mem_blankCodes h)
  rwa [Char.ofNat_toNat] at hc

theorem placeholders_of_blank {s : List Char} (h : ∀ c ∈ s, Text.isBlank c = true) :
    placeholders s = [] := by
  refine placeholdersFrom_of_notMem (fun hcolon => ?_) none
  exact absurd (h ':' hcolon) (by decide)

/-- White space around a text makes no difference to its placeholders. -/
theorem placeholders_strip (s : List Char) : placeholders (Text.strip s) = placeholders s := by
  obtain ⟨front, back, hs, hfront, hback⟩ := Text.exists_strip s
  have hlast : ∀ c ∈ front.getLast?, Apart c := fun c hc =>
    apart_of_isBlank (hfront c (List.mem_of_getLast? hc))
  have hhead : ∀ c ∈ back.head?, Apart c := fun c hc =>
    apart_of_isBlank (hback c (List.mem_of_head? hc))
  calc placeholders (Text.strip s)
      = placeholders front ++ (placeholders (Text.strip s) ++ placeholders back) := by
        rw [placeholders_of_blank hfront, placeholders_of_blank hback, List.append_nil,
          List.nil_append]
    _ = placeholders (front ++ (Text.strip s ++ back)) := by
        rw [placeholders_append (.inl hlast), placeholders_append (.inr hhead)]
    _ = placeholders s := by rw [← hs]

/-- The digits of a placeholder are those that its number is written with: digits of another script
and zeros in front are not plain. -/
def IsPlain (digits : List Char) : Prop := digits = (toString (placeholderNumber digits)).toList

instance : DecidablePred IsPlain := fun _ => inferInstanceAs (Decidable (_ = _))

end Gate

/-! ### What the gate reports, and what is bound -/

namespace Statement

open Gate

/-- The gate reports that the placeholders of a statement do not match its values. -/
def Mismatched (s : Statement) : Prop :=
  ∃ vs, s.violations = .ok vs ∧ ∃ found bound, Violation.placeholders found bound ∈ vs

/-- The gate comes to a result, and reports nothing about the placeholders of a statement. -/
def Matched (s : Statement) : Prop :=
  ∃ vs, s.violations = .ok vs ∧ ∀ found bound, Violation.placeholders found bound ∉ vs

/-- The gate can read all placeholders in the text of a statement. -/
def Readable (s : Statement) : Prop :=
  ∀ digits ∈ placeholders s.text.toList, Gate.Readable digits

/-- The numbers of the placeholders in the text of a statement, in order. -/
def placeholderNumbers (s : Statement) : List ℕ :=
  (placeholders s.text.toList).map placeholderNumber

theorem violations_eq_findings {s : Statement} {vs : List Violation} :
    s.violations = .ok vs ↔ s.Readable ∧ vs = s.findings s.placeholderNumbers := by
  rw [violations_eq_ok, placeholders_strip, Readable, placeholderNumbers]

theorem violations_eq_firstLong {s : Statement} {fault : LongPlaceholder} :
    s.violations = .error fault ↔ FirstLong (placeholders s.text.toList) fault := by
  rw [violations_eq_error, placeholders_strip]

/-- The gate comes to a result exactly if it can read all placeholders. -/
theorem readable_iff {s : Statement} : (∃ vs, s.violations = .ok vs) ↔ s.Readable := by
  simp only [violations_eq_findings]
  exact ⟨fun ⟨_, h, _⟩ => h, fun h => ⟨_, h, rfl⟩⟩

/-- A report gives the number of placeholders and the number of values. It is made if the numbers
of the placeholders are not those of the values, each once. -/
theorem placeholders_mem_findings {s : Statement} {numbers : List ℕ} {found bound : ℕ} :
    Violation.placeholders found bound ∈ s.findings numbers ↔
      ¬numbers.Perm (List.range' 1 s.parameters.length) ∧
        found = numbers.length ∧ bound = s.parameters.length := by
  unfold findings
  simp only [← List.isPerm_iff, List.mem_append]
  constructor
  · rintro ((((h | h) | h) | h) | h)
    · split at h <;> simp at h
    · split at h <;> simp at h
    · split at h <;> simp at h
    · split at h <;> simp at h
    · split at h
      · cases h
      · rename_i hperm
        obtain ⟨rfl, rfl⟩ : found = _ ∧ bound = _ := by simpa using h
        exact ⟨hperm, rfl, rfl⟩
  · rintro ⟨hperm, rfl, rfl⟩
    right
    rw [if_neg hperm]
    simp

theorem mismatched_iff {s : Statement} :
    s.Mismatched ↔
      s.Readable ∧ ¬s.placeholderNumbers.Perm (List.range' 1 s.parameters.length) := by
  simp only [Mismatched, violations_eq_findings]
  constructor
  · rintro ⟨_, ⟨hread, rfl⟩, _, _, h⟩
    exact ⟨hread, (placeholders_mem_findings.1 h).1⟩
  · rintro ⟨hread, hperm⟩
    exact ⟨_, ⟨hread, rfl⟩, _, _, placeholders_mem_findings.2 ⟨hperm, rfl, rfl⟩⟩

theorem matched_iff {s : Statement} :
    s.Matched ↔ s.Readable ∧ s.placeholderNumbers.Perm (List.range' 1 s.parameters.length) := by
  simp only [Matched, violations_eq_findings]
  constructor
  · rintro ⟨_, ⟨hread, rfl⟩, h⟩
    refine ⟨hread, ?_⟩
    by_contra hperm
    exact h _ _ (placeholders_mem_findings.2 ⟨hperm, rfl, rfl⟩)
  · rintro ⟨hread, hperm⟩
    exact ⟨_, ⟨hread, rfl⟩, fun _ _ h => (placeholders_mem_findings.1 h).1 hperm⟩

theorem name_eq_parameterName {digits : List Char} {k : ℕ} :
    "p" ++ String.ofList digits = parameterName k ↔ digits = (toString k).toList := by
  rw [parameterName, String.append_right_inj, ← String.toList_inj, String.toList_ofList]

/-- A value is bound to the name of a placeholder if its digits are plain and its number is that of
a value. -/
theorem name_mem_bindings_iff {s : Statement} {digits : List Char} :
    "p" ++ String.ofList digits ∈ s.bindings.map Prod.fst ↔
      IsPlain digits ∧ placeholderNumber digits ∈ List.range' 1 s.parameters.length := by
  rw [s.names_bindings.1, List.mem_map]
  constructor
  · rintro ⟨k, hk, hname⟩
    obtain rfl := name_eq_parameterName.1 hname.symm
    rw [IsPlain, placeholderNumber_toString]
    exact ⟨rfl, hk⟩
  · rintro ⟨hplain, hmem⟩
    exact ⟨_, hmem, (name_eq_parameterName.2 hplain).symm⟩

/-- The names of plain placeholders are those of their numbers. -/
theorem placeholderNames_of_plain {s : Statement}
    (h : ∀ digits ∈ placeholders s.text.toList, IsPlain digits) :
    s.placeholderNames = s.placeholderNumbers.map parameterName := by
  rw [placeholderNames, placeholderNumbers, List.map_map]
  exact List.map_congr_left fun digits hdigits => name_eq_parameterName.2 (h digits hdigits)

/-- The number of a placeholder or of a value, from its name. -/
def numberOfName (name : String) : ℕ := placeholderNumber (name.toList.drop 1)

theorem numberOfName_append (digits : List Char) :
    numberOfName ("p" ++ String.ofList digits) = placeholderNumber digits := by
  simp [numberOfName]

theorem numberOfName_parameterName (k : ℕ) : numberOfName (parameterName k) = k := by
  rw [← name_eq_parameterName.2 rfl, numberOfName_append, placeholderNumber_toString]

theorem map_numberOfName_placeholderNames (s : Statement) :
    s.placeholderNames.map numberOfName = s.placeholderNumbers := by
  rw [placeholderNames, placeholderNumbers, List.map_map]
  exact List.map_congr_left fun digits _ => numberOfName_append digits

theorem map_numberOfName_bindings (s : Statement) :
    (s.bindings.map Prod.fst).map numberOfName = List.range' 1 s.parameters.length := by
  rw [s.names_bindings.1, List.map_map]
  exact (List.map_congr_left fun k _ => numberOfName_parameterName k).trans (List.map_id _)

/-- The names of the placeholders are those that values are bound to, each once, exactly if the
placeholders have the numbers of the values, each once, and every one of them is plain. -/
theorem placeholderNames_perm_iff (s : Statement) :
    s.placeholderNames.Perm (s.bindings.map Prod.fst) ↔
      s.placeholderNumbers.Perm (List.range' 1 s.parameters.length) ∧
        ∀ digits ∈ Gate.placeholders s.text.toList, Gate.IsPlain digits := by
  constructor
  · intro hperm
    refine ⟨?_, fun digits hdigits => ?_⟩
    · rw [← s.map_numberOfName_placeholderNames, ← s.map_numberOfName_bindings]
      exact hperm.map _
    · have hname : "p" ++ String.ofList digits ∈ s.placeholderNames :=
        List.mem_map_of_mem (f := fun ds => "p" ++ String.ofList ds) hdigits
      exact (name_mem_bindings_iff.1 (hperm.mem_iff.1 hname)).1
  · rintro ⟨hperm, hplain⟩
    rw [placeholderNames_of_plain hplain, s.names_bindings.1]
    exact hperm.map parameterName

/-- Plain placeholders with the numbers of the values can be read, unless these are too many. -/
theorem readable_of_plain {s : Statement}
    (hperm : s.placeholderNumbers.Perm (List.range' 1 s.parameters.length))
    (hplain : ∀ digits ∈ Gate.placeholders s.text.toList, Gate.IsPlain digits)
    (hsmall : ¬s.Immense) : s.Readable := by
  intro digits hdigits
  have hmem : Gate.placeholderNumber digits ∈ List.range' 1 s.parameters.length :=
    hperm.mem_iff.1 (List.mem_map_of_mem hdigits)
  rw [List.mem_range'_1] at hmem
  rw [hplain digits hdigits]
  exact readable_toString (lt_of_not_immense hsmall (by omega))

end Statement

/-- The gate comes to no result exactly if some placeholder has more digits than are read, and then
fails for the first of these. Otherwise it reports a mismatch or none: none exactly if the
placeholders have the numbers of the values, each once. The names of placeholders that are read are
those that values are bound to, each once, exactly if there is no mismatch and moreover every
placeholder is written plainly; and only an immense statement has these names without being read. -/
theorem placeholders_match_iff (s : Statement) :
    (∀ fault, s.violations = .error fault ↔
      Gate.FirstLong (Gate.placeholders s.text.toList) fault) ∧
    (s.Matched ↔
      s.Readable ∧ s.placeholderNumbers.Perm (List.range' 1 s.parameters.length)) ∧
    (s.Mismatched ↔
      s.Readable ∧ ¬s.placeholderNumbers.Perm (List.range' 1 s.parameters.length)) ∧
    (s.Readable ∧ s.placeholderNames.Perm (s.bindings.map Prod.fst) ↔
      s.Matched ∧ ∀ digits ∈ Gate.placeholders s.text.toList, Gate.IsPlain digits) ∧
    (s.placeholderNames.Perm (s.bindings.map Prod.fst) → s.Readable ∨ s.Immense) := by
  refine ⟨fun fault => Statement.violations_eq_firstLong, Statement.matched_iff,
    Statement.mismatched_iff, ?_, fun hnames => ?_⟩
  · rw [Statement.matched_iff, s.placeholderNames_perm_iff, and_assoc]
  · obtain ⟨hperm, hplain⟩ := s.placeholderNames_perm_iff.1 hnames
    by_cases himmense : s.Immense
    · exact .inr himmense
    · exact .inl (Statement.readable_of_plain hperm hplain himmense)

namespace LeadingZero

/-- A statement with one value and a placeholder that no value is bound to. -/
def statement : Statement := ⟨"SELECT :p01", [.null]⟩

/-- The digits of a one with so many zeros in front that they are not read. -/
def longDigits : List Char := List.replicate mostDigits '0' ++ ['1']

/-- A statement with one value and a placeholder of these digits. -/
def longStatement : Statement := ⟨"SELECT :p" ++ String.ofList longDigits, [.null]⟩

theorem placeholders_longStatement :
    Gate.placeholders longStatement.text.toList = [longDigits] := by
  have hdigits : ∀ c ∈ longDigits, c.isDigit = true := by
    simp only [longDigits, List.mem_append, List.mem_replicate, List.mem_singleton]
    rintro c (⟨-, rfl⟩ | rfl)
    · decide
    · decide
  have htext : longStatement.text.toList = "SELECT ".toList ++ ':' :: 'p' :: longDigits := by
    simp [longStatement]
  have hapart : ∀ c ∈ "SELECT ".toList.getLast?, Gate.Apart c := by
    rintro c ⟨⟩
    exact Gate.apart_of_isBlank (by decide)
  have hfront : Gate.placeholders "SELECT ".toList = [] :=
    Gate.placeholdersFrom_of_notMem (by decide) none
  rw [htext, Gate.placeholders_append (.inl hapart), hfront,
    Gate.placeholders_of_digits (by simp [longDigits]) hdigits, List.nil_append]

end LeadingZero

open LeadingZero in
/-- The gate has nothing against a placeholder with a zero in front, and its name is not bound. With
too many zeros in front it fails. -/
theorem placeholders_match_iff_leadingZero :
    statement.violations = .ok [] ∧ statement.Matched ∧
      statement.placeholderNames = ["p01"] ∧ statement.bindings.map Prod.fst = ["p1"] ∧
      ¬statement.placeholderNames.Perm (statement.bindings.map Prod.fst) ∧
      longStatement.violations = .error ⟨mostDigits + 1⟩ := by
  have hdigits : Gate.placeholders statement.text.toList = [['0', '1']] := by decide +kernel
  have hviolations : statement.violations = .ok [] := by decide +kernel
  obtain ⟨-, -, -, hnames, -⟩ := placeholders_match_iff statement
  obtain ⟨hfault, -⟩ := placeholders_match_iff longStatement
  refine ⟨hviolations, ⟨[], hviolations, by simp⟩, ?_, by decide, fun hperm => ?_, ?_⟩
  · rw [Statement.placeholderNames, hdigits]
    rfl
  · have hread : statement.Readable := Statement.readable_iff.1 ⟨[], hviolations⟩
    have hplain := (hnames.1 ⟨hread, hperm⟩).2 ['0', '1'] (by simp [hdigits])
    exact absurd hplain (by decide +kernel)
  · have hlength : longDigits.length = mostDigits + 1 := by simp [longDigits]
    refine (hfault _).2 ⟨[], longDigits, [], placeholders_longStatement, nofun, ?_, ?_⟩
    · rw [Gate.Readable, hlength]
      omega
    · rw [hlength]

end Dashboard

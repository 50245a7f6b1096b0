import Dashboard.Proofs.GateAcceptance
import Dashboard.Proofs.SqlReading

/-!
# Names in a registry

The names of tables and columns and the types of casts are the only texts of a registry that
statements hold between double quotes.

* `PlainName` is what a name should be, `PlainName.Ended` what the reader accepts: it also lets one
  line break at the end pass. `isIdentifier_iff` proves that these are the same.
* `Sql.OneIdentifier` says that a text between double quotes is read as one identifier, and
  `Sql.oneIdentifier_of_notMem` that this is so for every text without a double quote.
* `names_of_ofDocument`: every name in a registry that was read is plain but for a line break, and
  between double quotes it is one identifier, whatever comes after it.
-/

namespace Dashboard

/-! ### Plain names -/

theorem isIdentifierStart_eq (c : Char) : isIdentifierStart c = (c.isAlpha || c == '_') := by
  unfold isIdentifierStart Char.isAlpha Char.isUpper Char.isLower
  rw [Bool.decide_and]
  rfl

theorem isIdentifierPart_eq (c : Char) : isIdentifierPart c = (c.isAlphanum || c == '_') := by
  unfold isIdentifierPart Char.isAlphanum Char.isDigit
  rw [isIdentifierStart_eq, Bool.or_right_comm]
  rfl

/-- A letter or an underscore, and then letters, digits and underscores, all of them ASCII. -/
def PlainName (s : List Char) : Prop :=
  ∃ c r, s = c :: r ∧ (c.isAlpha = true ∨ c = '_') ∧ ∀ d ∈ r, d.isAlphanum = true ∨ d = '_'

/-- A plain name, with a line break behind it or without. -/
def PlainName.Ended (s : List Char) : Prop :=
  ∃ name, PlainName name ∧ (s = name ∨ s = name ++ ['\n'])

/-- The reader accepts a text as a name exactly if it is plain but for a line break. -/
theorem isIdentifier_iff {s : List Char} : isIdentifier s = true ↔ PlainName.Ended s := by
  constructor
  · intro h
    cases s with
    | nil => cases h
    | cons c s =>
      rw [isIdentifier, Bool.and_eq_true, isIdentifierStart_eq, isIdentifierTail_iff] at h
      obtain ⟨hc, r, hr, hs⟩ := h
      refine ⟨c :: r, ⟨c, r, rfl, by simpa using hc, fun d hd => ?_⟩, hs.imp (by simp) (by simp)⟩
      simpa [isIdentifierPart_eq] using hr d hd
  · rintro ⟨name, ⟨c, r, rfl, hc, hr⟩, hs⟩
    have hstart : isIdentifierStart c = true := by simpa [isIdentifierStart_eq] using hc
    have hparts : ∀ d ∈ r, isIdentifierPart d = true := fun d hd => by
      simpa [isIdentifierPart_eq] using hr d hd
    rcases hs with rfl | rfl
    · rw [isIdentifier, hstart, isIdentifierTail_iff.2 ⟨r, hparts, .inl rfl⟩]
      rfl
    · rw [List.cons_append, isIdentifier, hstart, isIdentifierTail_iff.2 ⟨r, hparts, .inr rfl⟩]
      rfl

theorem PlainName.notMem_lineBreak {s : List Char} (h : PlainName s) : '\n' ∉ s := by
  obtain ⟨c, r, rfl, hc, hr⟩ := h
  intro hmem
  rcases List.mem_cons.1 hmem with rfl | hmem
  · exact absurd hc (by decide)
  · exact absurd (hr _ hmem) (by decide)

/-- A name that was accepted is plain exactly if it does not end in a line break. -/
theorem PlainName.Ended.plain_iff {s : List Char} (h : PlainName.Ended s) :
    PlainName s ↔ s.getLast? ≠ some '\n' := by
  constructor
  · intro hplain hlast
    exact hplain.notMem_lineBreak (List.mem_of_getLast? hlast)
  · intro hlast
    obtain ⟨name, hname, rfl | rfl⟩ := h
    · exact hname
    · simp at hlast

/-! ### Identifiers between double quotes -/

namespace Sql

/-- Between double quotes, a text is read as one identifier, whatever follows the closing quote but
another quote. -/
def OneIdentifier (s : List Char) : Prop :=
  ∀ rest, rest.head? ≠ some '"' → read ('"' :: (s ++ '"' :: rest)) = .quoted '"' s :: read rest

theorem readFrom_append_quote {s rest : List Char} (hs : '"' ∉ s) (hrest : rest.head? ≠ some '"')
    (held : List Char) : readFrom (some ('"', held)) (s ++ '"' :: rest) =
      .quoted '"' (held.reverse ++ s) :: readFrom none rest := by
  induction s generalizing held with
  | nil =>
    cases rest with
    | nil => simp [readFrom]
    | cons d rest =>
      have hd : d ≠ '"' := by simpa using hrest
      simp [readFrom, hd]
  | cons c s ih =>
    obtain ⟨hc, hs⟩ := not_or.1 (List.mem_cons.not.1 hs)
    have htail : ∃ d t, s ++ '"' :: rest = d :: t := by cases s <;> exact ⟨_, _, rfl⟩
    obtain ⟨d, t, ht⟩ := htail
    rw [List.cons_append, ht, readFrom, if_neg (Ne.symm hc), ← ht, ih hs]
    simp

theorem oneIdentifier_of_notMem {s : List Char} (h : '"' ∉ s) : OneIdentifier s := by
  intro rest hrest
  rw [read, readFrom, if_pos (.inr rfl), readFrom_append_quote h hrest]
  rfl

end Sql

/-! ### Names that were read -/

/-- The names of the tables, the names of their columns and the types of their casts. -/
def Registry.names (r : Registry) : List String :=
  r.tables.flatMap fun t => t.name :: t.columns.flatMap fun c => c.name :: c.cast.toList

namespace Registry

theorem isIdentifier_of_mem_names {doc : Document} {r : Registry} (h : ofDocument doc = .ok r)
    {name : String} (hname : name ∈ r.names) : isIdentifier name.toList = true := by
  obtain ⟨t, ht, hname⟩ := List.mem_flatMap.1 hname
  rcases List.mem_cons.1 hname with rfl | hname
  · obtain ⟨item, hitem⟩ := tableOf_of_mem_tables h ht
    obtain ⟨_, _, _, _, -, hidentifier, -⟩ := tableOf_eq_ok.1 hitem
    exact (identifierOf_eq_ok.1 hidentifier).2
  · obtain ⟨c, hc, hname⟩ := List.mem_flatMap.1 hname
    have hnamed := named_of_ofDocument h t ht c hc
    rcases List.mem_cons.1 hname with rfl | hname
    · exact hnamed.name
    · exact hnamed.cast name (Option.mem_toList.1 hname)

theorem identifierOf_text_eq_ok {role : NameRole} {s name : String} :
    identifierOf role (.text s) = .ok name ↔ PlainName.Ended s.toList ∧ name = s := by
  rw [← isIdentifier_iff]
  by_cases hs : isIdentifier s.toList = true
  · simp [identifierOf, hs, pure_eq_ok]
  · simp [identifierOf, hs]

end Registry

/-- Every name in a registry that was read is one identifier between double quotes: a plain one
unless it ends in a line break, which is the one thing besides plain names that the reader lets
pass. The aliases that columns come out under are such identifiers too. -/
theorem names_of_ofDocument {doc : Document} {r : Registry} (h : Registry.ofDocument doc = .ok r) :
    (∀ name ∈ r.names, PlainName.Ended name.toList ∧
      (PlainName name.toList ↔ name.toList.getLast? ≠ some '\n') ∧
      Sql.OneIdentifier name.toList) ∧
    (∀ t ∈ r.tables, ∀ c ∈ t.columns, ∀ agg : Option Aggregation,
      Sql.OneIdentifier (columnAlias c.name (agg.map Keyword.word)).toList) ∧
    ∀ role s, Registry.identifierOf role (.text s) = .ok s ↔ PlainName.Ended s.toList := by
  refine ⟨fun name hname => ?_, fun t ht c hc agg => ?_, fun role s => ?_⟩
  · have hidentifier := Registry.isIdentifier_of_mem_names h hname
    have hended := isIdentifier_iff.1 hidentifier
    exact ⟨hended, hended.plain_iff,
      Sql.oneIdentifier_of_notMem (unmarked_of_isIdentifier hidentifier).1⟩
  · have hnamed := Registry.named_of_ofDocument h t ht c hc
    refine Sql.oneIdentifier_of_notMem (unmarked_columnAlias hnamed.name fun word hword => ?_).1
    obtain ⟨a, -, rfl⟩ := Option.map_eq_some_iff.1 hword
    exact ⟨a, rfl⟩
  · simp [Registry.identifierOf_text_eq_ok]

namespace Events

/-- A registry file in which the name of a column ends in a line break. -/
def brokenDocument : Document := .map [(.text "tables", .list [.map [
  (.text "name", .text "events"), (.text "source", .text "events e"),
  (.text "tenant_columns", .list [.text "owner"]),
  (.text "columns", .list [
    .map [(.text "name", .text "owner"), (.text "internal", .text "e.owner")],
    .map [(.text "name", .text "id\n"), (.text "internal", .text "e.id")]])]])]

/-- The registry of that file. -/
def brokenRegistry : Registry where
  version := .int 1
  tables := [{
    name := "events"
    source := "events e"
    columns := [⟨"owner", "e.owner", .string, none⟩, ⟨"id\n", "e.id", .string, none⟩]
    tenantColumns := ["owner"] }]

end Events

open Events in
/-- The file is read, although one of its names is not plain. -/
theorem names_of_ofDocument_lineBreak :
    Registry.ofDocument brokenDocument = .ok brokenRegistry ∧ "id\n" ∈ brokenRegistry.names ∧
      ¬PlainName "id\n".toList ∧ PlainName.Ended "id\n".toList ∧
      Sql.OneIdentifier "id\n".toList := by
  have hread : Registry.ofDocument brokenDocument = .ok brokenRegistry := rfl
  have hname : "id\n" ∈ brokenRegistry.names := by decide
  obtain ⟨hended, hplain, hone⟩ := (names_of_ofDocument hread).1 "id\n" hname
  exact ⟨hread, hname, fun h => hplain.1 h (by decide), hended, hone⟩

end Dashboard

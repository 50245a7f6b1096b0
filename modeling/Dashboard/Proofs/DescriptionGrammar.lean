import Dashboard.Proofs.BuildOutcome
import Dashboard.Proofs.RecordMembers

/-!
# The grammar of descriptions

Which JSON values are descriptions, and of which queries, said without the checks that read them.

* `Grammar.query q` holds of the descriptions of the query `q`. It is put together from the
  grammars of its parts, which have the names of the checks in `Shape`.
* One lemma for each check in `Shape` says that it reads what the grammar of the same name holds of.
* `parse_eq_ok_iff_grammar`: a query is read from a description exactly if the grammar holds of the
  two and the query names a table of the registry.
-/

namespace Dashboard

/-! ### The grammar -/

namespace Grammar

variable {α : Type}

/-- An object with the given members. -/
def record (members : List Member) (j : Json) : Prop :=
  ∃ fields, j = .object fields ∧ Fields.Meet members fields

/-- A list with one entry for each of the parts. -/
def list (part : α → Json → Prop) (parts : List α) (j : Json) : Prop :=
  ∃ js, j = .list js ∧ List.Forall₂ part parts js

@[simp] theorem list_list {part : α → Json → Prop} {parts : List α} {js : List Json} :
    list part parts (.list js) ↔ List.Forall₂ part parts js := by
  simp [list]

/-- The same with at least one entry. -/
def someList (part : α → Json → Prop) (parts : List α) (j : Json) : Prop :=
  list part parts j ∧ parts ≠ []

/-- A given text. -/
def text (s : String) (j : Json) : Prop := j = .text s

/-- The word for a keyword. -/
def keyword [Keyword α] (a : α) : Json → Prop := text (Keyword.word a)

/-- The word for a keyword, or null for none. -/
def keyword? [Keyword α] : Option α → Json → Prop
  | none, j => j = .null
  | some a, j => keyword a j

/-- An integer, or a number with a point or an exponent. -/
def number : NumberValue → Json → Prop
  | .int n, j => j = .int n
  | .float x, j => j = .float x

/-- A text or a count of seconds that is read as a timestamp. -/
def timestamp (t : Timestamp) : Json → Prop
  | .text s => Text.hasHalf s = false ∧ Timestamp.ofText s = .ok t
  | .int n => Timestamp.ofInt false n = .ok t
  | .float x => Timestamp.ofFloat x = .ok t
  | _ => False

/-- A natural number, or null for none. -/
def limit : Option ℕ → Json → Prop
  | none, j => j = .null
  | some n, j => j = .int n

/-- A column with or without an aggregation. -/
def selectItem (s : SelectItem) : Json → Prop :=
  record [
    .needed ["column"] (text s.column),
    ⟨["agg"], s.agg = none, keyword? s.agg⟩]

/-- A column to order by. -/
def orderItem (o : OrderItem) : Json → Prop :=
  record [
    .needed ["column"] (text o.column),
    ⟨["agg"], o.agg = none, keyword? o.agg⟩,
    .needed ["direction"] (keyword o.direction)]

/-- The members of a filter of a kind. -/
def filterMembers [Keyword α] (kind : FilterKind) (column : String) (operator : α)
    (value : Json → Prop) : List Member :=
  [.needed ["type"] (keyword kind),
    .needed ["column"] (text column),
    .needed ["operator"] (keyword operator),
    .needed ["value"] value]

/-- The members of a filter. -/
def membersOf : Filter → List Member
  | .string c op v => filterMembers .string c op (text v)
  | .number c op v => filterMembers .number c op (number v)
  | .datetime c op v => filterMembers .datetime c op (timestamp v)
  | .options c op vs => filterMembers .options c op (someList text vs)

/-- A filter. -/
def filter (f : Filter) : Json → Prop := record (membersOf f)

/-- The members of a grouping; a unit of time goes by two names. -/
def membersOfGroup : GroupBy → List Member
  | .categorical word c => [.needed ["type"] (keyword word), .needed ["column"] (text c)]
  | .datetime c unit => [
      .needed ["type"] (text "datetime"),
      .needed ["column"] (text c),
      .needed ["temporalUnit", "temporal_unit"] (keyword unit)]

/-- A grouping. -/
def group (g : GroupBy) : Json → Prop := record (membersOfGroup g)

/-- The members of a query; three of them go by two names. -/
def membersOfQuery (q : Query) : List Member :=
  [.needed ["from", "from_"] (text q.table),
    .needed ["select"] (someList selectItem q.select),
    ⟨["filter"], q.filters = [], list filter q.filters⟩,
    ⟨["groupBy", "group_by"], q.groups = [], list group q.groups⟩,
    ⟨["orderBy", "order_by"], q.orders = [], list orderItem q.orders⟩,
    ⟨["limit"], q.limit = none, limit q.limit⟩]

/-- A query. -/
def query (q : Query) : Json → Prop := record (membersOfQuery q)

end Grammar

open Checked

/-! ### The checks of values -/

namespace Shape

variable {α β : Type}

theorem reads_text : Reads text Grammar.text := by
  intro path j s
  cases j <;> simp [text, Grammar.text, fault_ne_ok]

theorem reads_keyword [Keyword α] [Keyword.Lawful α] :
    Reads (keyword α) (Grammar.keyword : α → Json → Prop) := by
  intro path j a
  unfold keyword
  split
  · rename_i s
    rw [Grammar.keyword, Grammar.text, Json.text.injEq, eq_comm (a := s),
      ← Keyword.ofWord?_eq_some]
    split
    · rename_i b hb
      rw [hb, ok.injEq, Option.some.injEq]
    · rename_i hb
      simp [hb, fault_ne_ok]
  · rename_i hj
    refine ⟨fun hfault => absurd hfault fault_ne_ok, fun htext => absurd htext (hj _)⟩

theorem reads_keyword? [Keyword α] [Keyword.Lawful α] :
    Reads (keyword? α) (Grammar.keyword? : Option α → Json → Prop) := by
  intro path j a
  unfold keyword?
  split
  · cases a <;> simp [Grammar.keyword?, Grammar.keyword, Grammar.text]
  · rename_i hj
    rw [map_eq_ok]
    simp only [reads_keyword path j _]
    cases a with
    | none => simpa [Grammar.keyword?] using hj
    | some a => simp [Grammar.keyword?]

/-- An operator is read like any keyword; only its fault is another one. -/
theorem reads_operator [Keyword α] [Keyword.Lawful α] :
    Reads (operator α) (Grammar.keyword : α → Json → Prop) := by
  intro path j a
  rw [← reads_keyword path j a, operator]
  split
  · rename_i hkeyword
    simp [hkeyword]
  · rfl

theorem reads_number : Reads number Grammar.number := by
  intro path j v
  cases j <;> cases v <;> simp [number, Grammar.number]

theorem reads_timestamp : Reads timestamp Grammar.timestamp := by
  intro path j t
  unfold timestamp
  extract_lets answer
  have hanswer : answer = .ok t ↔ Grammar.timestamp t j := by
    have hread (x : Except TimeFault Timestamp) : x.mapError Issue.notTime = .ok t ↔ x = .ok t := by
      cases x <;> simp [Except.mapError]
    cases j with
    | text s =>
      cases hs : Text.hasHalf s with
      | true => simp [answer, Grammar.timestamp, hs, throw, throwThe, MonadExceptOf.throw]
      | false =>
        simp only [answer, Grammar.timestamp, hs, true_and]
        exact hread _
    | int n => exact hread _
    | float x => exact hread _
    | _ => exact ⟨nofun, False.elim⟩
  rw [← hanswer]
  clear_value answer
  cases answer <;> simp [fault_ne_ok]

theorem reads_limit : Reads limit Grammar.limit := by
  intro path j n
  cases j with
  | null => cases n <;> simp [limit, Grammar.limit]
  | int m =>
    cases n with
    | none =>
      simp only [limit, Grammar.limit]
      split <;> simp [fault_ne_ok]
    | some n =>
      simp only [limit, Grammar.limit, Json.int.injEq]
      split
      · simp only [fault_ne_ok, false_iff]
        omega
      · simp only [ok.injEq, Option.some.injEq]
        omega
  | _ => cases n <;> simp [limit, Grammar.limit, fault_ne_ok]

/-! ### The checks of lists -/

section

variable {check : Path → Json → Checked α} {part : α → Json → Prop} (h : Reads check part)
include h

/-- The entries of a list are read one by one, whatever place each of them has. -/
theorem forall₂_mapIdx (place : ℕ → Path) (js : List Json) (as : List α) :
    List.Forall₂ (fun c a => c = ok a) (js.mapIdx fun i j => check (place i) j) as ↔
      List.Forall₂ part as js := by
  induction js generalizing place as with
  | nil => simp
  | cons j js ih =>
    rw [List.mapIdx_cons, List.forall₂_cons_left_iff, List.forall₂_cons_right_iff]
    simp only [h _ _ _, ih fun i => place (i + 1)]

theorem reads_list : Reads (list check) (Grammar.list part) := by
  intro path j as
  cases j with
  | list js =>
    rw [list, every_eq_ok, Grammar.list_list]
    exact forall₂_mapIdx h (fun i => path ++ [toString i]) js as
  | _ => simp [list, Grammar.list, fault_ne_ok]

theorem reads_someList : Reads (someList check) (Grammar.someList part) := by
  intro path j as
  have hlist := reads_list h path j as
  cases j with
  | list js =>
    rw [Grammar.someList, ← hlist, list, someList, andNo_eq_ok]
    refine and_congr_right fun hevery => ?_
    have hall := every_eq_ok.1 hevery
    cases as with
    | nil =>
      rw [List.forall₂_nil_right_iff.1 hall]
      simp
    | cons a as =>
      obtain ⟨c, cs, hc, -, hcs⟩ := List.forall₂_cons_right_iff.1 hall
      simp [hcs, hc, value?]
  | _ => simp [someList, Grammar.someList, Grammar.list, fault_ne_ok]

end

/-! ### The checks of entries -/

/-- A record is read if its fields are. -/
theorem record_eq_ok {name : String} {check : Fields Json → Checked α} {members : List Member}
    {a : α} (h : ∀ fields, check fields = ok a ↔ Fields.Meet members fields) (path : Path)
    (j : Json) : record name check path j = ok a ↔ Grammar.record members j := by
  cases j <;> simp [record, Grammar.record, fault_ne_ok, h]

theorem reads_selectItem : Reads selectItem Grammar.selectItem := by
  rintro path j ⟨c, agg⟩
  unfold selectItem Grammar.selectItem
  refine record_eq_ok (fun fields => ?_) path j
  refine andNo_extras_eq_ok rfl (by decide) fun honce => ?_
  simp only [List.forall_mem_cons, Member.names_needed] at honce ⊢
  simp [map2_eq_ok, required_eq_ok reads_text honce.1, optional_eq_ok reads_keyword? honce.2.1]

theorem reads_orderItem : Reads orderItem Grammar.orderItem := by
  rintro path j ⟨c, agg, d⟩
  unfold orderItem Grammar.orderItem
  refine record_eq_ok (fun fields => ?_) path j
  refine andNo_extras_eq_ok rfl (by decide) fun honce => ?_
  simp only [List.forall_mem_cons, Member.names_needed] at honce ⊢
  simp [map2_eq_ok, both_eq_ok, required_eq_ok reads_text honce.1,
    optional_eq_ok reads_keyword? honce.2.1, required_eq_ok reads_keyword honce.2.2.1]

/-! ### The checks of tagged entries -/

theorem tagged_eq_ok {words : List String} {check : String → Path → Fields Json → Checked α}
    {path : Path} {j : Json} {a : α} :
    tagged words check path j = ok a ↔ ∃ fields w, j = .object fields ∧
      Fields.field? "type" fields = some (.text w) ∧ w ∈ words ∧
        check w (path ++ [w]) fields = ok a := by
  constructor
  · intro h
    unfold tagged at h
    split at h
    · rename_i fields
      split at h
      · exact absurd h fault_ne_ok
      · rename_i tag htag
        split at h
        · rename_i w
          split at h
          · rename_i hw
            exact ⟨fields, w, rfl, htag, List.contains_iff_mem.1 hw, h⟩
          · exact absurd h fault_ne_ok
        · exact absurd h fault_ne_ok
    · exact absurd h fault_ne_ok
  · rintro ⟨fields, w, rfl, htag, hw, h⟩
    have hw : words.contains w = true := List.contains_iff_mem.2 hw
    simp only [tagged, htag, hw, if_true, h]

/-- The fields of a tagged entry meet its members exactly if the tag is the one that the members
name and the fields pass the check for it. -/
theorem tagged_eq_ok_iff_record {words : List String}
    {check : String → Path → Fields Json → Checked α} {a : α} {members : List Member} (tag : String)
    (hwords : tag ∈ words) (htype : Member.needed ["type"] (Grammar.text tag) ∈ members)
    (h : ∀ w ∈ words, ∀ path fields, Fields.field? "type" fields = some (.text w) →
      (check w path fields = ok a ↔ w = tag ∧ Fields.Meet members fields)) (path : Path)
    (j : Json) : tagged words check path j = ok a ↔ Grammar.record members j := by
  rw [tagged_eq_ok, Grammar.record]
  refine exists_congr fun fields => ?_
  constructor
  · rintro ⟨w, hj, hw, hmem, hcheck⟩
    exact ⟨hj, ((h w hmem _ fields hw).1 hcheck).2⟩
  · rintro ⟨hj, hmeet⟩
    rcases hmeet.2 _ htype with ⟨k, ⟨n, hn, hk, -⟩, rfl⟩ | ⟨-, hfalse⟩
    · cases List.mem_singleton.1 hn
      exact ⟨tag, hj, hk, hwords, (h tag hwords _ fields hk).2 ⟨rfl, hmeet⟩⟩
    · exact hfalse.elim

/-- The tag of an entry meets its member. -/
theorem metBy_type {fields : Fields Json} {w : String}
    (h : Fields.field? "type" fields = some (.text w)) (tag : String) :
    (Member.needed ["type"] (Grammar.text tag)).MetBy fields ↔ w = tag := by
  simp [Member.MetBy, Member.needed, Fields.GivenOnce, h, Grammar.text]

/-- The fields of an entry with the tag of a kind are read as the filters of that kind that they
describe. -/
theorem filterFields_eq_ok [Keyword α] [Keyword.Lawful α] {make : String → α → β → Filter}
    {value : Path → Json → Checked β} {grammar : β → Json → Prop} (hvalue : Reads value grammar)
    {kind : FilterKind} (hkind : ∀ f : Filter, f.kind = kind ↔ ∃ c op v, make c op v = f)
    (hmake : ∀ c op v c' op' v', make c op v = make c' op' v' ↔ c = c' ∧ op = op' ∧ v = v')
    (hmembers : ∀ c op v,
      Grammar.membersOf (make c op v) = Grammar.filterMembers kind c op (grammar v))
    {fields : Fields Json} (htype : Fields.field? "type" fields = some (.text (Keyword.word kind)))
    (path : Path) (f : Filter) :
    filterFields path make value fields = ok f ↔
      f.kind = kind ∧ Fields.Meet (Grammar.membersOf f) fields := by
  by_cases hf : f.kind = kind
  · obtain ⟨c, op, v, rfl⟩ := (hkind f).1 hf
    rw [hmembers, and_iff_right hf]
    unfold filterFields Grammar.filterMembers
    refine andNo_extras_eq_ok rfl (by decide) fun honce => ?_
    simp only [List.forall_mem_cons, Member.names_needed] at honce ⊢
    rw [Grammar.keyword, metBy_type htype]
    simp [map2_eq_ok, both_eq_ok, required_eq_ok reads_text honce.2.1,
      required_eq_ok reads_operator honce.2.2.1, required_eq_ok hvalue honce.2.2.2.1, hmake]
  · refine ⟨fun h => ?_, fun h => absurd h.1 hf⟩
    obtain ⟨c, p, -, -, hmade⟩ := map2_eq_ok.1 (andNo_eq_ok.1 h).1
    exact absurd ((hkind f).2 ⟨c, p.1, p.2, hmade⟩) hf

/-- A filter is read by the check that its tag leads to. -/
theorem reads_filter : Reads filter Grammar.filter := by
  intro path j f
  refine tagged_eq_ok_iff_record (Keyword.word f.kind) (Keyword.word_mem_words f.kind) ?_
    (fun w hw path fields htype => ?_) path j
  · cases f <;> exact List.mem_cons_self
  obtain ⟨k, -, rfl⟩ := List.mem_map.1 hw
  rw [← Keyword.ofWord?_eq_some, Keyword.Lawful.ofWord?_word k, Keyword.Lawful.ofWord?_word f.kind,
    Option.some.injEq]
  cases k with
  | string =>
    exact filterFields_eq_ok reads_text (fun f => by cases f <;> simp [Filter.kind]) (by simp)
      (fun _ _ _ => rfl) htype path f
  | number =>
    exact filterFields_eq_ok reads_number (fun f => by cases f <;> simp [Filter.kind]) (by simp)
      (fun _ _ _ => rfl) htype path f
  | datetime =>
    exact filterFields_eq_ok reads_timestamp (fun f => by cases f <;> simp [Filter.kind]) (by simp)
      (fun _ _ _ => rfl) htype path f
  | options =>
    exact filterFields_eq_ok (reads_someList reads_text)
      (fun f => by cases f <;> simp [Filter.kind]) (by simp) (fun _ _ _ => rfl) htype path f

/-- The tag of a grouping. -/
def tagOf : GroupBy → String
  | .categorical word _ => Keyword.word word
  | .datetime .. => "datetime"

theorem tagOf_mem (g : GroupBy) : tagOf g ∈ Keyword.words CategoricalWord ++ ["datetime"] := by
  cases g with
  | categorical word _ => exact List.mem_append_left _ (Keyword.word_mem_words word)
  | datetime => exact List.mem_append_right _ List.mem_cons_self

theorem word_ne_datetime (word : CategoricalWord) : Keyword.word word ≠ "datetime" := by
  cases word <;> decide

section

variable {fields : Fields Json} {path : Path} {g : GroupBy}

/-- The fields of an entry with one of the words for equal values. -/
theorem categoricalFields_eq_ok {word : CategoricalWord}
    (htype : Fields.field? "type" fields = some (.text (Keyword.word word))) :
    ((required path ["column"] text fields).map (GroupBy.categorical word)).andNo
        (extras path [["type"], ["column"]] fields) = ok g ↔
      Keyword.word word = tagOf g ∧ Fields.Meet (Grammar.membersOfGroup g) fields := by
  cases g with
  | categorical word' c =>
    rw [tagOf, ← Keyword.ofWord?_eq_some, Keyword.Lawful.ofWord?_word, Option.some.injEq]
    by_cases h : word' = word
    · subst h
      rw [and_iff_right rfl]
      refine andNo_extras_eq_ok rfl (by decide) fun honce => ?_
      simp only [Grammar.membersOfGroup, List.forall_mem_cons, Member.names_needed] at honce ⊢
      rw [Grammar.keyword, metBy_type htype]
      simp [map_eq_ok, required_eq_ok reads_text honce.2.1]
    · simp [andNo_eq_ok, map_eq_ok, h, Ne.symm h]
  | datetime c unit => simp [andNo_eq_ok, map_eq_ok, tagOf, word_ne_datetime]

/-- The fields of an entry with the word for time buckets. -/
theorem datetimeFields_eq_ok (htype : Fields.field? "type" fields = some (.text "datetime")) :
    (map2 GroupBy.datetime
        (required path ["column"] text fields)
        (required path ["temporalUnit", "temporal_unit"] (keyword TemporalUnit) fields)).andNo
        (extras path [["type"], ["column"], ["temporalUnit", "temporal_unit"]] fields) = ok g ↔
      "datetime" = tagOf g ∧ Fields.Meet (Grammar.membersOfGroup g) fields := by
  cases g with
  | categorical word c => simp [andNo_eq_ok, map2_eq_ok, tagOf, (word_ne_datetime word).symm]
  | datetime c unit =>
    rw [tagOf, and_iff_right rfl]
    refine andNo_extras_eq_ok rfl (by decide) fun honce => ?_
    simp only [Grammar.membersOfGroup, List.forall_mem_cons, Member.names_needed] at honce ⊢
    rw [metBy_type htype]
    simp [map2_eq_ok, required_eq_ok reads_text honce.2.1,
      required_eq_ok reads_keyword honce.2.2.1]

end

/-- A grouping is read by the check that its tag leads to. -/
theorem reads_group : Reads group Grammar.group := by
  intro path j g
  refine tagged_eq_ok_iff_record (tagOf g) (tagOf_mem g) ?_
    (fun w hw path fields htype => ?_) path j
  · cases g <;> exact List.mem_cons_self
  cases hword : (Keyword.ofWord? w : Option CategoricalWord) with
  | some word =>
    obtain rfl := Keyword.word_of_ofWord? hword
    exact categoricalFields_eq_ok htype
  | none =>
    have hw : w = "datetime" := by
      rcases List.mem_append.1 hw with hw | hw
      · obtain ⟨word, hfound⟩ := Keyword.exists_ofWord?.2 hw
        rw [hfound] at hword
        cases hword
      · exact List.mem_singleton.1 hw
    subst hw
    exact datetimeFields_eq_ok htype

end Shape

/-- A query is read from the descriptions that the grammar gives it. -/
theorem Query.check_eq_ok {j : Json} {q : Query} : Query.check j = .ok q ↔ Grammar.query q j := by
  obtain ⟨t, select, filters, groups, orders, l⟩ := q
  unfold Query.check Grammar.query
  refine Shape.record_eq_ok (fun fields => ?_) [] j
  refine andNo_extras_eq_ok rfl (by decide) fun honce => ?_
  simp only [Grammar.membersOfQuery, List.forall_mem_cons, Member.names_needed] at honce ⊢
  simp [map2_eq_ok, both_eq_ok, required_eq_ok Shape.reads_text honce.1,
    required_eq_ok (Shape.reads_someList Shape.reads_selectItem) honce.2.1,
    optional_eq_ok (Shape.reads_list Shape.reads_filter) honce.2.2.1,
    optional_eq_ok (Shape.reads_list Shape.reads_group) honce.2.2.2.1,
    optional_eq_ok (Shape.reads_list Shape.reads_orderItem) honce.2.2.2.2.1,
    optional_eq_ok Shape.reads_limit honce.2.2.2.2.2.1]

/-- A value is accepted as the description of a query exactly if the grammar says that it is one and
the query names a table of the registry. Every other value is refused. -/
theorem parse_eq_ok_iff_grammar (r : Registry) (j : Json) (q : Query) :
    Query.parse r j = .ok q ↔ Grammar.query q j ∧ q.table ∈ r.tableNames := by
  rw [Query.parse_eq_ok, Query.check_eq_ok, Registry.exists_table?]

end Dashboard

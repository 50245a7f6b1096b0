import Dashboard.Query.Checked
import Mathlib.Data.List.Forall2

/-!
# Members of records

What the checks of records accept, said of the fields themselves.

* `Member` is one entry of a record type: the names that it goes by, when it may be left out, and
  which values it may have. `Fields.Meet` says that the fields of an object are exactly such
  members, each of them given at most once.
* `Checked.Reads` says that a check accepts what a predicate holds of, wherever it stands, and
  nothing else.
* `Checked.required_eq_ok`, `Checked.optional_eq_ok` and `Checked.andNo_extras_eq_ok` turn the
  checks of single fields into members, and the check that no field is left over into `Fields.Meet`.
-/

namespace Dashboard

/-! ### Members of records -/

/-- One entry of a record type. -/
structure Member where
  names : List String
  omissible : Prop
  holds : Json → Prop

namespace Member

/-- A member that has to be there. -/
def needed (names : List String) (holds : Json → Prop) : Member := ⟨names, False, holds⟩

@[simp] theorem names_needed (names : List String) (holds : Json → Prop) :
    (needed names holds).names = names := rfl

end Member

namespace Fields

/-- An entry of several names is given under exactly one of them, with the value `j`. -/
def GivenOnce (names : List String) (fields : Fields Json) (j : Json) : Prop :=
  ∃ n ∈ names, fields.field? n = some j ∧ ∀ m ∈ names, m ≠ n → fields.field? m = none

/-- An entry is given under none of its names. -/
def Lacks (names : List String) (fields : Fields Json) : Prop :=
  ∀ n ∈ names, fields.field? n = none

/-- An entry is given under one of its names at most. -/
def AtMostOnce (names : List String) (fields : Fields Json) : Prop :=
  ∀ m ∈ names, ∀ n ∈ names, (fields.field? m).isSome = true → (fields.field? n).isSome = true →
    m = n

end Fields

/-- A member is given once with a value that it may have, or left out where it may be. -/
def Member.MetBy (m : Member) (fields : Fields Json) : Prop :=
  (∃ j, fields.GivenOnce m.names j ∧ m.holds j) ∨ (fields.Lacks m.names ∧ m.omissible)

/-- The fields are those of the members and no others. -/
def Fields.Meet (members : List Member) (fields : Fields Json) : Prop :=
  (∀ f ∈ fields, ∃ m ∈ members, f.1 ∈ m.names) ∧ ∀ m ∈ members, m.MetBy fields

/-! ### Fields of an object -/

namespace Fields

section

variable {α : Type} {fields : Fields α} {n : String}

theorem field?_eq_none : fields.field? n = none ↔ ∀ f ∈ fields, f.1 ≠ n := by
  rw [field?, List.lookup_eq_none_iff]
  refine forall₂_congr fun f _ => ?_
  rw [ne_eq, bne_iff_ne, ne_comm, ne_eq]

theorem field?_isSome : (fields.field? n).isSome = true ↔ ∃ f ∈ fields, f.1 = n := by
  rw [← Option.ne_none_iff_isSome, ne_eq, field?_eq_none]
  push Not
  rfl

end

variable {fields : Fields Json} {names : List String}

theorem atMostOnce_of_metBy {m : Member} (h : m.MetBy fields) : fields.AtMostOnce m.names := by
  intro a ha b hb hsa hsb
  rcases h with ⟨j, ⟨n, -, -, hothers⟩, -⟩ | ⟨hlacks, -⟩
  · have hname {c : String} (hc : c ∈ m.names) (hs : (fields.field? c).isSome = true) : c = n := by
      by_contra hne
      rw [hothers c hc hne] at hs
      cases hs
    rw [hname ha hsa, hname hb hsb]
  · rw [hlacks a ha] at hsa
    cases hsa

/-- Of an entry that is given at most once, the name is given that stands in front. -/
theorem givenOnce_iff (h : fields.AtMostOnce names) {j : Json} :
    fields.GivenOnce names j ↔ ∃ n ∈ names, fields.field? n = some j := by
  constructor
  · rintro ⟨n, hn, hj, -⟩
    exact ⟨n, hn, hj⟩
  · rintro ⟨n, hn, hj⟩
    refine ⟨n, hn, hj, fun m hm hne => ?_⟩
    by_contra hsome
    have hn' : (fields.field? n).isSome = true := by rw [hj]; rfl
    exact hne (h m hm n hn (Option.ne_none_iff_isSome.1 hsome) hn')

end Fields

namespace Checked

variable {α β γ : Type} {fields : Fields Json} {names : List String}

theorem pick_eq_none : pick names fields = none ↔ fields.Lacks names := by
  rw [pick, List.findSome?_eq_none_iff]
  simp only [Option.map_eq_none_iff, Fields.Lacks]

theorem mem_of_pick {n : String} {j : Json} (h : pick names fields = some (n, j)) :
    n ∈ names ∧ fields.field? n = some j := by
  obtain ⟨m, hm, hj⟩ := List.exists_of_findSome?_eq_some h
  obtain ⟨j', hj', heq⟩ := Option.map_eq_some_iff.1 hj
  cases heq
  exact ⟨hm, hj'⟩

/-- A name that is picked is the only one, if the entry is given at most once. -/
theorem pick_eq_some (h : fields.AtMostOnce names) {n : String} {j : Json} :
    pick names fields = some (n, j) ↔ n ∈ names ∧ fields.field? n = some j := by
  refine ⟨mem_of_pick, fun ⟨hn, hj⟩ => ?_⟩
  have hsome : (fields.field? n).isSome = true := by rw [hj]; rfl
  cases hp : pick names fields with
  | none =>
    rw [pick_eq_none.1 hp n hn] at hj
    cases hj
  | some p =>
    obtain ⟨hm, hjm⟩ := mem_of_pick hp
    have heq : p.1 = n := h p.1 hm n hn (by rw [hjm]; rfl) hsome
    rw [heq, hj] at hjm
    rw [← heq, Option.some.inj hjm]

/-- No name belongs to two entries. -/
def Apart (known : List (List String)) : Prop :=
  ∀ a ∈ known, ∀ b ∈ known, ∀ n ∈ a, n ∈ b → a = b

instance (known : List (List String)) : Decidable (Apart known) :=
  inferInstanceAs (Decidable (∀ a ∈ known, ∀ b ∈ known, ∀ n ∈ a, n ∈ b → a = b))

/-- No field is left over exactly if each belongs to some entry and no entry is given twice. -/
theorem extras_eq_nil {path : Path} {known : List (List String)} (h : Apart known) :
    extras path known fields = [] ↔
      (∀ f ∈ fields, ∃ names ∈ known, f.1 ∈ names) ∧ ∀ names ∈ known, fields.AtMostOnce names := by
  have hpicked : extras path known fields = [] ↔
      ∀ f ∈ fields, ∃ names ∈ known, ∃ j, pick names fields = some (f.1, j) := by
    simp [extras]
  rw [hpicked]
  constructor
  · intro hall
    refine ⟨fun f hf => ?_, fun names hnames m hm n hn hsm hsn => ?_⟩
    · obtain ⟨names, hnames, j, hj⟩ := hall f hf
      exact ⟨names, hnames, (mem_of_pick hj).1⟩
    · -- a name that is given has been picked for the entry it belongs to
      have hpick {c : String} (hc : c ∈ names) (hs : (fields.field? c).isSome = true) :
          ∃ j, pick names fields = some (c, j) := by
        obtain ⟨f, hf, rfl⟩ := Fields.field?_isSome.1 hs
        obtain ⟨others, hothers, j, hj⟩ := hall f hf
        rw [h names hnames others hothers f.1 hc (mem_of_pick hj).1]
        exact ⟨j, hj⟩
      obtain ⟨j, hj⟩ := hpick hm hsm
      obtain ⟨j', hj'⟩ := hpick hn hsn
      rw [hj] at hj'
      cases hj'
      rfl
  · rintro ⟨hknown, honce⟩ f hf
    obtain ⟨names, hnames, hname⟩ := hknown f hf
    obtain ⟨j, hj⟩ := Option.isSome_iff_exists.1 (Fields.field?_isSome.2 ⟨f, hf, rfl⟩)
    exact ⟨names, hnames, j, (pick_eq_some (honce names hnames)).2 ⟨hname, hj⟩⟩

/-! ### Checks that succeed -/

theorem map_eq_ok {f : α → β} {c : Checked α} {b : β} :
    c.map f = ok b ↔ ∃ a, c = ok a ∧ f a = b := by
  cases c <;> simp [map]

theorem both_eq_ok {a : Checked α} {b : Checked β} {x : α} {y : β} :
    both a b = ok (x, y) ↔ a = ok x ∧ b = ok y := by
  cases a <;> cases b <;> simp [both]

theorem map2_eq_ok {f : α → β → γ} {a : Checked α} {b : Checked β} {z : γ} :
    map2 f a b = ok z ↔ ∃ x y, a = ok x ∧ b = ok y ∧ f x y = z := by
  simp only [map2, map_eq_ok, Prod.exists, both_eq_ok, and_assoc]

theorem andNo_eq_ok {c : Checked α} {es : List QueryError} {a : α} :
    c.andNo es = ok a ↔ c = ok a ∧ es = [] := by
  cases es with
  | nil => simp [andNo]
  | cons e es => simp [andNo, map2_eq_ok]

theorem every_eq_ok {cs : List (Checked α)} {as : List α} :
    every cs = ok as ↔ List.Forall₂ (fun c a => c = ok a) cs as := by
  induction cs generalizing as with
  | nil =>
    rw [List.forall₂_nil_left_iff, every, ok.injEq, eq_comm]
  | cons c cs ih =>
    rw [List.forall₂_cons_left_iff, every, map2_eq_ok]
    simp only [ih, eq_comm]

/-- A check accepts what a grammar holds of, wherever it stands. -/
def Reads (check : Path → Json → Checked α) (grammar : α → Json → Prop) : Prop :=
  ∀ path j a, check path j = ok a ↔ grammar a j

theorem fault_ne_ok {issue : Issue} {path : Path} {a : α} : fault issue path ≠ ok a := nofun

section

variable {check : Path → Json → Checked α} {grammar : α → Json → Prop} (h : Reads check grammar)
include h

/-- A required field is one that is met as a member that is needed. -/
theorem required_eq_ok (honce : fields.AtMostOnce names) {path : Path} {a : α} :
    required path names check fields = ok a ↔ (Member.needed names (grammar a)).MetBy fields := by
  have hmet : (Member.needed names (grammar a)).MetBy fields ↔
      ∃ j, fields.GivenOnce names j ∧ grammar a j := by
    simp [Member.MetBy, Member.needed]
  rw [hmet, required]
  cases hp : pick names fields with
  | none =>
    have hlacks := pick_eq_none.1 hp
    refine ⟨fun hfault => absurd hfault fault_ne_ok, ?_⟩
    rintro ⟨j, ⟨n, hn, hj, -⟩, -⟩
    rw [hlacks n hn] at hj
    cases hj
  | some p =>
    have hgiven {j : Json} : fields.GivenOnce names j ↔ j = p.2 := by
      rw [Fields.givenOnce_iff honce]
      simp only [← pick_eq_some honce, hp, Option.some.injEq]
      exact ⟨fun ⟨n, hn⟩ => by rw [hn], fun hj => ⟨p.1, by rw [hj]⟩⟩
    simp only [hgiven, exists_eq_left]
    exact h _ _ _

/-- A field that may be absent is met as a member that may be left out for the default. -/
theorem optional_eq_ok (honce : fields.AtMostOnce names) {path : Path} {default a : α} :
    optional path names default check fields = ok a ↔
      (Member.mk names (a = default) (grammar a)).MetBy fields := by
  have hrequired : required path names check fields = ok a ↔ _ := required_eq_ok h honce
  simp only [required, optional, Member.MetBy, Member.needed, and_false, or_false] at hrequired ⊢
  cases hp : pick names fields with
  | none =>
    have hlacks := pick_eq_none.1 hp
    rw [hp] at hrequired
    simp only [hlacks, ← hrequired, fault_ne_ok, true_and, false_or, ok.injEq]
    exact eq_comm
  | some p =>
    have hlacks : ¬fields.Lacks names := fun hl => by
      rw [pick_eq_none.2 hl] at hp
      cases hp
    rw [hp] at hrequired
    simp only [hlacks, false_and, or_false]
    exact hrequired

end

/-- A check of single fields, with none left over, accepts fields that meet the members, if it
compares those that are given once with the members. -/
theorem andNo_extras_eq_ok {build : Checked α} {a : α} {path : Path} {known : List (List String)}
    {members : List Member} (hnames : members.map Member.names = known) (hapart : Apart known)
    (h : (∀ m ∈ members, fields.AtMostOnce m.names) →
      (build = ok a ↔ ∀ m ∈ members, m.MetBy fields)) :
    build.andNo (extras path known fields) = ok a ↔ Fields.Meet members fields := by
  subst hnames
  rw [andNo_eq_ok, extras_eq_nil hapart, Fields.Meet]
  simp only [List.mem_map, exists_exists_and_eq_and, forall_exists_index, and_imp,
    forall_apply_eq_imp_iff₂]
  constructor
  · rintro ⟨hbuild, hknown, honce⟩
    exact ⟨hknown, (h honce).1 hbuild⟩
  · rintro ⟨hknown, hmet⟩
    have honce := fun m hm => Fields.atMostOnce_of_metBy (hmet m hm)
    exact ⟨(h honce).2 hmet, hknown, honce⟩

end Checked

end Dashboard

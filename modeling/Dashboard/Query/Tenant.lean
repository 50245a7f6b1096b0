import Dashboard.Query.Draft
import Dashboard.Registry.Basic

/-!
# Tenant filters

Every table declares the columns that hold the project of each entity it is built from.
`Table.tenantFilters` compares each of them with the tenant id, and `Draft.scope` puts these filters
after those of a query, where they are compiled like any other filter.
-/

namespace Dashboard

/-- The filters that a table demands for a tenant: one for each tenant column. -/
def Table.tenantFilters (t : Table) (tenant : Value) : Except QueryError (List Filter) :=
  match tenant with
  | .text s =>
    if s = "" then throw (.invalid .noTenant (some "tenant_id"))
    else return t.tenantColumns.map fun c => .string c .eq s
  | _ => throw (.invalid .noTenant (some "tenant_id"))

/-- A query of one tenant: the filters of the table follow those of the query. -/
def Draft.scope (d : Draft) (t : Table) (tenant : Value) : Except QueryError Draft := do
  let mandatory ← t.tenantFilters tenant
  return { d with filters := d.filters ++ mandatory.map Filter.toDraft }

end Dashboard

import Gatekeeper.Proofs.Dict
import Gatekeeper.Proofs.Proxy.Dispatch

/-!
# Tables that are replaced

A table is replaced again and again, by the tables of files or by others. After each step it is the
table of the last step that succeeded, and the reports of the steps add up: what they say is added
and removed turns the hosts of the first table into those of the last.
-/

namespace Gatekeeper

namespace Table

/-- The hosts of a table, in their order. -/
def hosts (t : Table) : List Text :=
  t.listing.map Route.host

variable {t old new : Table} {u : Update}

theorem values_ascend (t : Table) : t.routes.values.Pairwise fun a b => a.host < b.host := by
  refine List.pairwise_map.mpr (t.routes.ascending.imp_of_mem ?_)
  intro a b ha hb hlt
  rwa [t.host_eq (Dict.get?_eq_some_iff.mpr ha), t.host_eq (Dict.get?_eq_some_iff.mpr hb)]

theorem listing_eq_values (t : Table) : t.listing = t.routes.values :=
  Dict.mergeSort_eq_of_perm t.values_ascend (List.Perm.refl _)

theorem hosts_ascend (t : Table) : t.hosts.Pairwise (· < ·) := by
  rw [hosts, listing_eq_values]
  exact List.pairwise_map.mpr t.values_ascend

end Table

/-- A file with a route whose redirect leads nowhere, or to a backend of the file. -/
def FileContent.ofRedirect (target : String) : FileContent :=
  .bytes ("[upstreams]\napp = \"10.0.0.1:80\"\n\n[routes.\"api.local\"]\n" ++
    "sablier_group = \"api\"\nsablier_internal_redirect = \"" ++ target ++ "\"\n").toUTF8

end Gatekeeper

import CloudTenancy.Text.Split

/-!
CloudTenancy.Urn — identifiers of the form `urn:vcloud:org:<uuid>`.

* `Urn.uuid` — the part after the last colon.
* `Urn.isOrganization` — whether a text starts like the identifier of an organization.

Main statement: the uuid holds no colon.
-/

namespace CloudTenancy.Urn

def organizationStart : String := "urn:vcloud:org:"

/-- The part of an identifier after its last colon, all of it when it has none. -/
def uuid (urn : String) : String := Text.afterLast ':' urn

def isOrganization (s : String) : Bool := organizationStart.toList.isPrefixOf s.toList

theorem colon_not_mem_uuid (urn : String) : ':' ∉ (uuid urn).toList := by
  intro h
  simp only [uuid, Text.afterLast, String.toList_ofList, List.mem_reverse] at h
  have hall : (urn.toList.reverse.takeWhile (· ≠ ':')).all (· ≠ ':') = true := List.all_takeWhile
  simpa using List.all_eq_true.1 hall _ h

end CloudTenancy.Urn

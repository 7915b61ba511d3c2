import CloudTenancy.Schema

/-!
CloudTenancy.Org.Schema — the blocks that describe organizations.

* `Org.resourceSchema` — an organization that is managed.
* `Org.lookupSchema` — an organization that is looked up by its name.

Both blocks have the same attributes.
-/

namespace CloudTenancy.Org

def resourceSchema : Schema where
  description := "Manages a VCFA organization"
  attributes :=
    [("id", .computed .string "Organization URN"),
      ("name", .required .string "Organization name, used in URLs"),
      ("display_name", .required .string "Human readable organization name"),
      ("description", .optional .string "Organization description"),
      ("is_enabled",
        .optionalComputed .bool "Whether the organization is enabled (default: true)"),
      ("is_classic_tenant",
        .optionalComputed .bool ("Create a classic tenant organization (default: false). " ++
          "Changing it replaces the organization")),
      ("managed_by_id", .computed .string "URN of the managing organization"),
      ("managed_by_name", .computed .string "Name of the managing organization")]

def lookupSchema : Schema where
  description := "Reads a VCFA organization by name"
  attributes :=
    [("id", .computed .string "Organization URN"),
      ("name", .required .string "Organization name"),
      ("display_name", .computed .string "Human readable organization name"),
      ("description", .computed .string "Organization description"),
      ("is_enabled", .computed .bool "Whether the organization is enabled"),
      ("is_classic_tenant", .computed .bool "Whether this is a classic tenant"),
      ("managed_by_id", .computed .string "URN of the managing organization"),
      ("managed_by_name", .computed .string "Name of the managing organization")]

end CloudTenancy.Org

import CloudTenancy.Schema

/-!
CloudTenancy.LocalUser.Schema — the blocks that describe local users.

* `LocalUser.resourceSchema` — a user that is managed.
* `LocalUser.lookupSchema` — a user that is looked up by organization and name.

Only the password is secret.
-/

namespace CloudTenancy.LocalUser

def resourceSchema : Schema where
  description := "Manages a local user of a VCFA organization"
  attributes :=
    [("id", .computed .string "User URN"),
      ("org_id", .required .string "URN of the organization owning the user"),
      ("username", .required .string "Login name of the user"),
      ("password", (Attribute.required .string "Password of the user").secret),
      ("role_ids", .required (.set .string) "URNs of the roles granted to the user")]

def lookupSchema : Schema where
  description := "Reads a local user of a VCFA organization"
  attributes :=
    [("id", .computed .string "User URN"),
      ("org_id", .required .string "URN of the organization owning the user"),
      ("username", .required .string "Login name of the user"),
      ("role_ids", .computed (.set .string) "URNs of the roles granted to the user")]

end CloudTenancy.LocalUser

import CloudTenancy.Api.Entity
import CloudTenancy.Json.Printer

/-!
CloudTenancy.Api.Encode — the JSON of what is sent to the service and stored in files.

Empty ids and names, absent passwords and absent references are left out; all other members are
always written, in a fixed order.
-/

namespace CloudTenancy

/-- A text that is left out when it is empty. -/
def nonEmpty (s : String) : Option Json := if s.isEmpty then none else some (.string s)

def EntityRef.toJson (ref : EntityRef) : Json :=
  .ofMembers [("id", nonEmpty ref.id), ("name", nonEmpty ref.name)]

def Org.toJson (org : Org) : Json :=
  .ofMembers
    [("id", nonEmpty org.id),
      ("name", some (.string org.name)),
      ("displayName", some (.string org.displayName)),
      ("description", some (.string org.description)),
      ("isEnabled", some (.bool org.isEnabled)),
      ("isClassicTenant", some (.bool org.isClassicTenant)),
      ("managedBy", org.managedBy?.map EntityRef.toJson)]

def User.toJson (user : User) : Json :=
  .ofMembers
    [("id", nonEmpty user.id),
      ("username", some (.string user.username)),
      ("password", user.password?.map .string),
      ("roleEntityRefs", some (.array (user.roleRefs.map EntityRef.toJson))),
      ("orgEntityRef", user.orgRef?.map EntityRef.toJson),
      ("providerType", some (.string user.providerType)),
      ("enabled", some (.bool user.enabled))]

def ApiTokenFile.toJson (file : ApiTokenFile) : Json :=
  .object [("token_type", .string file.tokenType), ("refresh_token", .string file.refreshToken)]

def ServiceAccountFile.toJson (file : ServiceAccountFile) : Json :=
  .object
    [("token_type", .string file.tokenType), ("refresh_token", .string file.refreshToken),
      ("client_id", .string file.clientId)]

def ServiceAccountFile.contents (file : ServiceAccountFile) : Bytes :=
  Json.writeIndented 0 file.toJson

end CloudTenancy

/-!
CloudTenancy.Schema — descriptions of configuration blocks.

* `AttributeType` — the types of attributes.
* `Constraint` — who sets an attribute.
* `Attribute` — one attribute of a block, made by `Attribute.computed` and its like.
* `Schema` — the attributes of a block by name, with versions and a description.
-/

namespace CloudTenancy

inductive AttributeType
  | string
  | bool
  | number
  | list (item : AttributeType)
  | set (item : AttributeType)
  deriving DecidableEq, Repr

/-- Who sets an attribute. -/
inductive Constraint
  /-- The service. -/
  | computed
  /-- The user, or nobody. -/
  | optional
  /-- The user, or else the service. -/
  | optionalComputed
  /-- The user. -/
  | required
  deriving DecidableEq, Repr

def Constraint.name : Constraint → String
  | computed => "computed"
  | optional => "optional"
  | optionalComputed => "optional_computed"
  | required => "required"

structure Attribute where
  type : AttributeType
  description : String
  constraint : Constraint
  /-- The value is not to be shown. -/
  isSensitive : Bool := false
  isDeprecated : Bool := false
  deriving DecidableEq, Repr

namespace Attribute

def computed (type : AttributeType) (description : String) : Attribute :=
  { type, description, constraint := .computed }

def optional (type : AttributeType) (description : String) : Attribute :=
  { type, description, constraint := .optional }

def optionalComputed (type : AttributeType) (description : String) : Attribute :=
  { type, description, constraint := .optionalComputed }

def required (type : AttributeType) (description : String) : Attribute :=
  { type, description, constraint := .required }

def secret (a : Attribute) : Attribute := { a with isSensitive := true }

end Attribute

structure Schema where
  version : Nat := 1
  blockVersion : Nat := 1
  isDeprecated : Bool := false
  description : String
  attributes : List (String × Attribute)
  deriving DecidableEq, Repr

end CloudTenancy

import CloudTenancy.Client.Login
import CloudTenancy.Proofs.Apply
import CloudTenancy.Proofs.SecretMembers
import CloudTenancy.Proofs.WrittenValues
import Mathlib.Data.List.Nodup

/-!
CloudTenancy.Proofs.Payloads — what is sent to the service or stored in a file reads back.

* `Json.names` — the names of the members of an object.
* `Json.Conveys` — the texts of a payload, and what its decoder and any other reader make of them.
* `EntityRef.LeavesOut`, `Org.LeavesOut`, `User.LeavesOut` — the members a payload does without.
* `Login.Restores` — what a login reads at a path where contents have been written.

An empty id and an absent password have no member, and their decoders give a field without a member
the value that was left out. So what is told of a payload is told field by field, and a field that
is left out is told by the value that stands for it.

Main statement: `payloads_read_back`.
-/

namespace CloudTenancy

open Json (Fields Decoder Row)

variable {α β : Type}

namespace Json

/-! ## Members -/

def names : Json → List String
  | .object members => members.map (·.1)
  | _ => []

section

variable {αs : List Type} {fields : Fields αs} {members : List (String × Option Json)}
  {row : Row αs} {depth : Nat} {name : String}

/-- The absent members of a payload are not written at all. -/
theorem mem_names_ofMembers :
    name ∈ (ofMembers members).names ↔ ∃ json, (name, some json) ∈ members := by
  simp [ofMembers, names, List.mem_filterMap]

/-- A record takes members only of its own names, in their order. -/
theorem Fields.Takes.names_eq (h : fields.Takes depth members row) :
    fields.names = members.map (·.1) := by
  induction h with
  | nil => rfl
  | cons _ _ ih => rw [Fields.names, ih, List.map_cons]

/-- A field has a member if it is not left out. -/
theorem Fields.Takes.mem_names (h : fields.Takes depth members row)
    (hnames : (members.map (·.1)).Nodup) :
    name ∈ (ofMembers members).names ↔ name ∈ fields.names ∧ (name, none) ∉ members := by
  rw [mem_names_ofMembers, h.names_eq]
  constructor
  · rintro ⟨json, hmember⟩
    -- No two fields have one name, so a name with a member is not one that is left out.
    refine ⟨List.mem_map_of_mem (f := Prod.fst) hmember, fun hnone => ?_⟩
    have hsame := List.inj_on_of_nodup_map hnames hmember hnone rfl
    cases hsame
  · rintro ⟨hname, hnone⟩
    obtain ⟨⟨name, json?⟩, hmember, rfl⟩ := List.mem_map.1 hname
    cases json? with
    | none => exact absurd hmember hnone
    | some json => exact ⟨json, hmember⟩

end

/-! ## Texts -/

/-- The texts of a payload, without blanks and on several lines, are read as the payload. Any reader
of JSON finds the same members there: those of all fields but the ones that are left out. -/
structure Conveys (decoder : Decoder α) (fields : List String) (left : String → Prop) (json : Json)
    (value : α) : Prop where
  compact : decoder.run json.write = .ok value
  lines : decoder.run (json.writeIndented 0) = .ok value
  any : Decoder.any.run json.write = .ok json ∧ Decoder.any.run (json.writeIndented 0) = .ok json
  names : ∀ name, name ∈ json.names ↔ name ∈ fields ∧ ¬ left name

/-- A record conveys its value if its fields take the members that are written. -/
theorem conveys_record {αs : List Type} {fields : Fields αs}
    {members : List (String × Option Json)} {row : Row αs} {left : String → Prop} {record : String}
    {build : Row αs → β} (h : fields.Takes 127 members row) (hnames : (members.map (·.1)).Nodup)
    (hleft : ∀ name, left name ↔ (name, none) ∈ members) :
    Conveys (Decoder.record record fields build) fields.names left (ofMembers members)
      (build row) := by
  have htakes := takes_record h hnames record build
  refine ⟨htakes.run.1, htakes.run.2, (takes_any htakes.plain).run, fun name => ?_⟩
  rw [h.mem_names hnames, hleft]

/-- An object that leaves no field out. -/
theorem conveys_object {αs : List Type} {fields : Fields αs} {members : List (String × Json)}
    {row : Row αs} {record : String} {build : Row αs → β}
    (h : fields.Takes 127 (members.map fun member => (member.1, some member.2)) row)
    (hnames : (members.map (·.1)).Nodup) :
    Conveys (Decoder.record record fields build) fields.names (fun _ => False) (.object members)
      (build row) := by
  have hwhole : ofMembers (members.map fun member => (member.1, some member.2)) =
      .object members := by
    simp [ofMembers, List.filterMap_map]
  rw [← hwhole]
  refine conveys_record h ?_ fun name => ?_
  · rwa [List.map_map]
  · simp

end Json

/-! ## Fields -/

section

variable {depth : Nat}

/-- The empty text is the one that is left out. -/
theorem nonEmpty_eq_none_iff {s : String} : nonEmpty s = none ↔ s = "" := by
  simp [nonEmpty]

/-- An empty text is left out, and comes back. -/
theorem takes_nonEmpty (name s : String) :
    (defaulted name Decoder.string "").Takes (depth + 1) s (nonEmpty s) := by
  unfold nonEmpty
  split
  · rename_i h
    rw [String.isEmpty_iff.1 h]
    rfl
  · exact Json.takes_string depth s

/-- What is absent is left out, and comes back as absent. -/
theorem takes_nullable (name : String) {decoder : Decoder α} {write : α → Json}
    (h : ∀ a, decoder.Takes depth (write a) a) (hnull : ∀ a, write a ≠ .null)
    (value? : Option α) :
    (nullable name decoder).Takes depth value? (value?.map write) := by
  cases value? with
  | none => rfl
  | some a => exact Json.takes_some (h a) (hnull a)

end

/-! ## Payloads -/

/-- The members that a reference does without. -/
def EntityRef.LeavesOut (ref : EntityRef) (name : String) : Prop :=
  name = "id" ∧ ref.id = "" ∨ name = "name" ∧ ref.name = ""

def Org.LeavesOut (org : Org) (name : String) : Prop :=
  name = "id" ∧ org.id = "" ∨ name = "managedBy" ∧ org.managedBy? = none

def User.LeavesOut (user : User) (name : String) : Prop :=
  name = "id" ∧ user.id = "" ∨ name = "password" ∧ user.password? = none ∨
    name = "orgEntityRef" ∧ user.orgRef? = none

theorem EntityRef.takes_fields (depth : Nat) (ref : EntityRef) :
    EntityRef.fields.Takes (depth + 1) [("id", nonEmpty ref.id), ("name", nonEmpty ref.name)]
      (ref.id, ref.name, ()) :=
  .cons (takes_nonEmpty _ _) <| .cons (takes_nonEmpty _ _) .nil

theorem EntityRef.takes_toJson (depth : Nat) (ref : EntityRef) :
    EntityRef.decoder.Takes (depth + 2) ref.toJson ref :=
  Json.takes_record (ref.takes_fields depth) (by simp) _ _

theorem EntityRef.conveys (ref : EntityRef) :
    Json.Conveys EntityRef.decoder EntityRef.fields.names ref.LeavesOut ref.toJson ref := by
  refine Json.conveys_record (ref.takes_fields 126) (by simp) fun name => ?_
  simp [EntityRef.LeavesOut, nonEmpty_eq_none_iff, eq_comm (a := none)]

/-- An organization is read back from what is written of it. -/
theorem Org.conveys (org : Org) :
    Json.Conveys Org.decoder Org.fields.names org.LeavesOut org.toJson org := by
  have href := takes_nullable "managedBy" (EntityRef.takes_toJson 125) (by nofun)
    org.managedBy?
  refine @Json.conveys_record _ _ Org.fields _ (org.id, org.name, org.displayName, org.description,
    org.isEnabled, org.isClassicTenant, org.managedBy?, ()) _ _ _ ?_ (by simp) fun name => ?_
  · exact .cons (takes_nonEmpty _ _) <| .cons (Json.takes_string _ _) <|
      .cons (Json.takes_string _ _) <| .cons (Json.takes_string _ _) <|
      .cons (Json.takes_bool _ _) <| .cons (Json.takes_bool _ _) <| .cons href .nil
  · simp [Org.LeavesOut, nonEmpty_eq_none_iff, eq_comm (a := none)]

/-- A user is read back from what is written of it. -/
theorem User.conveys (user : User) :
    Json.Conveys User.decoder User.fields.names user.LeavesOut user.toJson user := by
  have hpassword := takes_nullable "password" (Json.takes_string 126) (by nofun)
    user.password?
  have hroles : (defaulted "roleEntityRefs" (Decoder.list EntityRef.decoder) []).Takes 127
      user.roleRefs (some (.array (user.roleRefs.map EntityRef.toJson))) :=
    Json.takes_list (EntityRef.takes_toJson 124) user.roleRefs
  have horg := takes_nullable "orgEntityRef" (EntityRef.takes_toJson 125) (by nofun)
    user.orgRef?
  refine @Json.conveys_record _ _ User.fields _ (user.id, user.username, user.password?,
    user.roleRefs, user.orgRef?, user.providerType, user.enabled, ()) _ _ _ ?_ (by simp)
    fun name => ?_
  · exact .cons (takes_nonEmpty _ _) <| .cons (Json.takes_string _ _) <| .cons hpassword <|
      .cons hroles <| .cons horg <| .cons (Json.takes_string _ _) <|
      .cons (Json.takes_bool _ _) .nil
  · simp [User.LeavesOut, nonEmpty_eq_none_iff, eq_comm (a := none)]

theorem ApiTokenFile.conveys (file : ApiTokenFile) :
    Json.Conveys ApiTokenFile.decoder ApiTokenFile.fields.names (fun _ => False) file.toJson
      file := by
  refine @Json.conveys_object _ _ ApiTokenFile.fields _ (file.tokenType, file.refreshToken, ())
    _ _ ?_ (by simp)
  exact .cons (Json.takes_string _ _) <| .cons (Json.takes_string _ _) .nil

/-- A service account file is read back from what is written of it. -/
theorem ServiceAccountFile.conveys (file : ServiceAccountFile) :
    Json.Conveys ServiceAccountFile.decoder ServiceAccountFile.fields.names (fun _ => False)
      file.toJson file := by
  refine @Json.conveys_object _ _ ServiceAccountFile.fields _
    (file.tokenType, file.refreshToken, file.clientId, ()) _ _ ?_ (by simp)
  exact .cons (Json.takes_string _ _) <| .cons (Json.takes_string _ _) <|
    .cons (Json.takes_string _ _) .nil

/-! ## Token files -/

namespace Login

/-- Wherever the contents have been written, a login reads the value. -/
def Restores (decoder : Decoder α) (contents : Bytes) (value : α) : Prop :=
  ∀ path net later, (writeFile path contents).perform net = (.ok (), later) →
    (readFile decoder path).perform later = (.ok value, later)

/-- What can be decoded from a text is restored from it. -/
theorem restores_of_run {decoder : Decoder α} {contents : Bytes} {value : α}
    (htext : Utf8.IsText contents) (h : decoder.run contents = .ok value) :
    Restores decoder contents value := by
  obtain ⟨text, rfl⟩ := htext
  intro path net later hwritten
  simp only [writeFile, Call.perform_of] at hwritten
  split at hwritten
  · cases hwritten
  · rename_i files hwrite
    cases hwritten
    simp only [readFile, Call.perform_of, FileSystem.readText_of_write hwrite, h]

end Login

/-- **Payloads read back.** A reference, an organization, a user and a file with tokens are each
written with the members of all their fields, but for empty ids and names and what is absent; and
they are read from their texts as they were, whatever strings they hold, with or without these. For
files with tokens this is so also at the path where the text on several lines has been written. -/
theorem payloads_read_back :
    (∀ ref : EntityRef, Json.Conveys EntityRef.decoder EntityRef.fields.names ref.LeavesOut
      ref.toJson ref) ∧
    (∀ org : Org, Json.Conveys Org.decoder Org.fields.names org.LeavesOut org.toJson org) ∧
    (∀ user : User, Json.Conveys User.decoder User.fields.names user.LeavesOut user.toJson user) ∧
    (∀ file : ApiTokenFile, Json.Conveys ApiTokenFile.decoder ApiTokenFile.fields.names
        (fun _ => False) file.toJson file ∧
      Login.Restores ApiTokenFile.decoder (file.toJson.writeIndented 0) file) ∧
    ∀ file : ServiceAccountFile, Json.Conveys ServiceAccountFile.decoder
        ServiceAccountFile.fields.names (fun _ => False) file.toJson file ∧
      Login.Restores ServiceAccountFile.decoder file.contents file := by
  refine ⟨EntityRef.conveys, Org.conveys, User.conveys, fun file => ?_, fun file => ?_⟩
  · have htext := Json.isText_writeIndented 0 file.toJson
    exact ⟨file.conveys, Login.restores_of_run htext file.conveys.lines⟩
  · exact ⟨file.conveys, Login.restores_of_run file.isText_contents file.conveys.lines⟩

/-- A token that has to be escaped, in a file without a type. -/
def quotedFile : ServiceAccountFile := { refreshToken := "\"\x1f\\é😀", clientId := "" }

/-- It is written to a new file, and a login finds it there. -/
theorem payloads_read_back_from_new_file :
    ∃ later, (Login.writeFile "f" quotedFile.contents).perform {} = (.ok (), later) ∧
      (Login.readFile ServiceAccountFile.decoder "f").perform later = (.ok quotedFile, later) := by
  have hdone : ((Login.writeFile "f" quotedFile.contents).perform {}).1 = .ok () :=
    ok_of_toOption (by decide +kernel)
  have hwritten : (Login.writeFile "f" quotedFile.contents).perform {} =
      (.ok (), ((Login.writeFile "f" quotedFile.contents).perform {}).2) := Prod.ext hdone rfl
  exact ⟨_, hwritten, (payloads_read_back.2.2.2.2 quotedFile).2 "f" {} _ hwritten⟩

end CloudTenancy

import CloudTenancy.Proofs.SecretMembers
import CloudTenancy.Proofs.Secrets

/-!
CloudTenancy.Proofs.TokenFiles — where the refresh token of a token file goes.

* `Node.SameButToken`, `FileSystem.SameButToken` — token files that differ in the value under
  `refresh_token`, and directories with such files.
* `Likeness.butTokens` — runs on such directories.

A path leads to the same name in both directories, as no step of it looks into a file. What is read
there is the same but for the refresh token, and so the logins take the same course.

That holds of values of one kind only: a reader of strings reports a number or a boolean that it
finds instead, and so shows it.

Main statement: `configure_hides_refresh_tokens`.
-/

namespace CloudTenancy

/-! ## Directories -/

/-- The files are the same or differ in the value under `refresh_token`. -/
inductive Node.SameButToken : Node → Node → Prop
  | same (node : Node) : SameButToken node node
  | file {text text' : Bytes} :
    Utf8.IsText text → Utf8.IsText text' →
    Json.SameButValue "refresh_token" Json.SameKind text text' →
    SameButToken (.file text) (.file text')

/-- The directories have the same names, with files that are the same or differ in the value under
`refresh_token`. -/
def FileSystem.SameButToken (files files' : FileSystem) : Prop :=
  ∀ name, Option.Rel Node.SameButToken (files.node? name) (files'.node? name)

namespace FileSystem

variable {files files' : FileSystem}

theorem SameButToken.refl (files : FileSystem) : files.SameButToken files := by
  intro name
  cases files.node? name with
  | none => exact .none
  | some node => exact .some (.same node)

theorem SameButToken.set (h : files.SameButToken files') {node node' : Node}
    (hnode : node.SameButToken node') (name : String) :
    (files.set name node).SameButToken (files'.set name node') := by
  intro other
  rw [node?_set, node?_set]
  split
  · exact .some hnode
  · exact h other

/-- A name stands for the same in both directories, or for files that differ in the value. -/
theorem SameButToken.cases (h : files.SameButToken files') (name : String) :
    files.node? name = files'.node? name ∨
      ∃ text text', files.node? name = some (.file text) ∧
        files'.node? name = some (.file text') ∧ Node.SameButToken (.file text) (.file text') := by
  have hnode := h name
  generalize files.node? name = node? at hnode ⊢
  generalize files'.node? name = node'? at hnode ⊢
  cases hnode with
  | none => exact .inl rfl
  | some hnode =>
    cases hnode with
    | same => exact .inl rfl
    | file htext htext' hsame =>
      exact .inr ⟨_, _, rfl, rfl, .file htext htext' hsame⟩

/-- A step of a path does not look into a file. -/
theorem SameButToken.step_eq (h : files.SameButToken files') (target : Target)
    (component : String) : files.step target component = files'.step target component := by
  cases target with
  | root => rfl
  | entry name =>
    obtain hnode | ⟨text, text', hnode, hnode', -⟩ := h.cases name
    · simp only [step, hnode]
    · simp only [step, hnode, hnode']

/-- A path leads to the same place, whatever the token. -/
theorem SameButToken.resolve_eq (h : files.SameButToken files') (path : String) :
    files.resolve path = files'.resolve path := by
  have hstep : files.step = files'.step := funext fun target => funext (h.step_eq target)
  rw [resolve, resolve, hstep]

/-- Files that differ in the token are read as such files, or fail alike. -/
theorem SameButToken.read (h : files.SameButToken files') (path : String) :
    SameEnd (fun contents contents' => Node.SameButToken (.file contents) (.file contents'))
      (files.read path) (files'.read path) := by
  unfold FileSystem.read
  refine .bind_same (h.resolve_eq path) fun target => ?_
  cases target with
  | root => exact .error _
  | entry name =>
    dsimp only
    obtain hnode | ⟨text, text', hnode, hnode', hsame⟩ := h.cases name
    · rw [hnode]
      exact (SameEnd.of_eq rfl).mono fun _ _ hcontents => hcontents ▸ .same _
    · rw [hnode, hnode']
      exact .ok hsame

/-- Writing the same contents keeps files alike. -/
theorem SameButToken.write (h : files.SameButToken files') (path : String) (contents : Bytes) :
    SameEnd SameButToken (files.write path contents) (files'.write path contents) := by
  unfold FileSystem.write
  refine .bind_same (h.resolve_eq path) fun target => ?_
  cases target with
  | root => exact .error _
  | entry name =>
    have hset := h.set (.same (.file contents)) name
    dsimp only
    obtain hnode | ⟨text, text', hnode, hnode', -⟩ := h.cases name
    · rw [hnode]
      split
      · exact .error _
      · exact .ok hset
    · rw [hnode, hnode']
      exact .ok hset

end FileSystem

/-! ## Token files -/

namespace Login

variable {α : Type} {decoder : Json.Decoder α}

def decodeFile (decoder : Json.Decoder α) (path : String) (contents : Bytes) :
    Except ClientError α :=
  match Utf8.decode? contents with
  | none => .error (.tokenFile path FileError.invalidUtf8.message)
  | some text =>
    (Json.Decoder.run decoder (Utf8.encode text)).mapError fun error =>
      .tokenFile path error.message

theorem stored_eq (decoder : Json.Decoder α) (path : String) (files : FileSystem) :
    stored decoder path files =
      ((files.read path).mapError fun error => .tokenFile path error.message) >>=
        decodeFile decoder path := by
  simp only [stored, readFile, Call.perform_of, FileSystem.readText]
  cases files.read path with
  | error error => rfl
  | ok contents =>
    simp only [bind, Except.bind, Except.mapError, decodeFile]
    cases Utf8.decode? contents with
    | none => rfl
    | some text =>
      cases hrun : Json.Decoder.run decoder (Utf8.encode text) <;> simp [hrun, pure, Except.pure]

/-- What stands in a file is decoded as it stands there. -/
theorem decodeFile_text {text : Bytes} (htext : Utf8.IsText text) (path : String) :
    decodeFile decoder path text =
      (Json.Decoder.run decoder text).mapError fun error => .tokenFile path error.message := by
  obtain ⟨s, rfl⟩ := htext
  simp only [decodeFile, Utf8.decode?_encode]

/-- Files with other refresh tokens hold the same otherwise. -/
theorem sameEnd_stored {Q : α → α → Prop} (hrefl : ∀ a, Q a a)
    (hrun : ∀ {text text'}, Json.SameButValue "refresh_token" Json.SameKind text text' →
      SameEnd Q (Json.Decoder.run decoder text) (Json.Decoder.run decoder text'))
    (path : String) {files files' : FileSystem} (h : files.SameButToken files') :
    SameEnd Q (stored decoder path files) (stored decoder path files') := by
  rw [stored_eq, stored_eq]
  refine SameEnd.bind ((h.read path).mapError _) fun contents contents' hcontents => ?_
  cases hcontents with
  | same => exact (SameEnd.of_eq rfl).mono fun a _ h => h ▸ hrefl a
  | file htext htext' hsame =>
    rw [decodeFile_text htext, decodeFile_text htext']
    exact (hrun hsame).mapError _

end Login

/-! ## Runs -/

/-- Runs with token files that differ in their refresh tokens. -/
def Likeness.butTokens : Likeness where
  requests := Request.SameButCredentials
  files := FileSystem.SameButToken
  refl := .refl
  url_eq h := h.url
  replaced name h := h.set (.same .directory) name

theorem ApiTokenFile.texts_fields : ApiTokenFile.fields.Texts := .cons rfl (.cons rfl .nil)

theorem ServiceAccountFile.texts_fields : ServiceAccountFile.fields.Texts :=
  .cons rfl (.cons rfl (.cons rfl .nil))

theorem Likeness.hidesTokens_butTokens : butTokens.HidesTokens where
  requests h := h
  apiToken path _ _ h := by
    refine Login.sameEnd_stored
      (Q := fun (file file' : ApiTokenFile) => file.tokenType = file'.tokenType) (fun _ => rfl)
      (fun hsame => ?_) path h
    refine Json.sameEnd_run_record hsame _ ApiTokenFile.texts_fields (by decide)
      fun row row' hrows => ?_
    obtain ⟨htype, -⟩ := hrows
    exact htype (by decide)
  serviceAccount path _ _ h := by
    refine Login.sameEnd_stored
      (Q := fun (file file' : ServiceAccountFile) =>
        file.tokenType = file'.tokenType ∧ file.clientId = file'.clientId)
      (fun _ => ⟨rfl, rfl⟩) (fun hsame => ?_) path h
    refine Json.sameEnd_run_record hsame _ ServiceAccountFile.texts_fields (by decide)
      fun row row' hrows => ?_
    obtain ⟨htype, -, hid, -⟩ := hrows
    exact ⟨htype (by decide), hid (by decide)⟩
  write path contents _ _ h := h.write path contents

namespace Provider

/-- **Refresh tokens.** Whatever the service answers: two configurations with token files that
differ in the value under `refresh_token` have the same outcome and the same reports, if both values
are strings, both lists or both objects. They leave files that differ at most in these values, and
send as many requests, which differ at most in authorization headers and in bodies. -/
theorem configure_hides_refresh_tokens (provider : Provider) (block : ProviderBlock)
    (env : Environment) (net : Network) (name : String) {text text' : Bytes}
    (htext : Utf8.IsText text) (htext' : Utf8.IsText text')
    (hsame : Json.SameButValue "refresh_token" Json.SameKind text text') :
    (provider.configure block env { net with files := net.files.set name (.file text) }).1.1 =
        (provider.configure block env
          { net with files := net.files.set name (.file text') }).1.1 ∧
      (provider.configure block env
          { net with files := net.files.set name (.file text) }).2.Alike .butTokens
        (provider.configure block env
          { net with files := net.files.set name (.file text') }).2 := by
  have halike : Network.Alike .butTokens { net with files := net.files.set name (.file text) }
      { net with files := net.files.set name (.file text') } :=
    ⟨rfl, rfl, List.forall₂_same.2 fun request _ => .refl request, rfl,
      (FileSystem.SameButToken.refl net.files).set (.file htext htext' hsame) name⟩
  have hsettings : SameEnd Settings.SameButSecrets (Settings.resolve block env)
      (Settings.resolve block env) :=
    (SameEnd.of_eq rfl).mono fun settings _ h => h ▸ .refl settings
  obtain ⟨houtcome, -, hnetwork⟩ := provider.configure_of_sameRun
    ((agree_openSession Likeness.hidesTokens_butTokens hsettings).start halike)
  exact ⟨houtcome, hnetwork⟩

/-! ### Samples -/

def sampleTokenFile (value : Bytes) : Bytes :=
  123 :: (Json.writeString "refresh_token" ++ 58 :: (value ++ [125]))

def sampleTokenBlock : ProviderBlock where
  url? := some "http://h"
  authType? := some "api_token_file"
  apiTokenFile? := some "f"

theorem sameButValue_sample {R : Bytes → Bytes → Prop} {first second : Bytes} (h : R first second)
    (hlength : first.length = second.length) (hfirst : 10 ∉ first) (hsecond : 10 ∉ second) :
    Json.SameButValue "refresh_token" R (sampleTokenFile first) (sampleTokenFile second) := by
  have hblank : Json.Blank [] := by simp [Json.Blank]
  have hfront := Json.LeadsTo.intro hblank .nil hblank
    (Json.readString_write "refresh_token" []) hblank hblank
  have hsame := Json.SameButValue.intro [125] hfront h hlength hfirst hsecond
  simpa [sampleTokenFile, Json.writeString] using hsame

/-- Two strings in the place of the refresh token. -/
theorem configure_hides_refresh_tokens_of_strings :
    Utf8.IsText (sampleTokenFile (Json.writeString "p")) ∧
      Utf8.IsText (sampleTokenFile (Json.writeString "q")) ∧
      Json.SameButValue "refresh_token" Json.SameKind (sampleTokenFile (Json.writeString "p"))
        (sampleTokenFile (Json.writeString "q")) ∧
      (Provider.configure {} sampleTokenBlock .empty
        { files := [("f", .file (sampleTokenFile (Json.writeString "p")))] }).1.1 =
      (Provider.configure {} sampleTokenBlock .empty
        { files := [("f", .file (sampleTokenFile (Json.writeString "q")))] }).1.1 := by
  have hp : Utf8.IsText (sampleTokenFile (Json.writeString "p")) :=
    ⟨"\x7b\"refresh_token\":\"p\"\x7d", by decide +kernel⟩
  have hq : Utf8.IsText (sampleTokenFile (Json.writeString "q")) :=
    ⟨"\x7b\"refresh_token\":\"q\"\x7d", by decide +kernel⟩
  have hsame : Json.SameButValue "refresh_token" Json.SameKind
      (sampleTokenFile (Json.writeString "p")) (sampleTokenFile (Json.writeString "q")) :=
    sameButValue_sample (.string (Json.readString_write "p" []) (Json.readString_write "q" []))
      rfl (by decide +kernel) (by decide +kernel)
  exact ⟨hp, hq, hsame,
    (configure_hides_refresh_tokens {} sampleTokenBlock .empty {} "f" hp hq hsame).1⟩

/-- What is reported of a file with a number in its place. -/
def numberReport (number : String) : Diagnostic where
  summary := "Failed to connect to VCFA"
  detail :=
    "token file f: invalid type: integer `" ++ number ++ "`, expected a string at line 1 column 25"

/-- Two numbers in its place: both configurations fail, and each report shows its number. -/
theorem number_for_refresh_token_is_shown :
    Json.skipValue (sampleTokenFile (Utf8.encode "12345678")) = .ok [] ∧
      Json.skipValue (sampleTokenFile (Utf8.encode "87654321")) = .ok [] ∧
      Json.SameButValue "refresh_token"
        (fun first second => Json.skipValue first = .ok [] ∧ Json.skipValue second = .ok [])
        (sampleTokenFile (Utf8.encode "12345678")) (sampleTokenFile (Utf8.encode "87654321")) ∧
      (Provider.configure {} sampleTokenBlock .empty
        { files := [("f", .file (sampleTokenFile (Utf8.encode "12345678")))] }).1.1 =
          ⟨none, { errors := [numberReport "12345678"] }⟩ ∧
      (Provider.configure {} sampleTokenBlock .empty
        { files := [("f", .file (sampleTokenFile (Utf8.encode "87654321")))] }).1.1 =
          ⟨none, { errors := [numberReport "87654321"] }⟩ ∧
      numberReport "12345678" ≠ numberReport "87654321" := by
  have hfirst : Json.skipValue (Utf8.encode "12345678") = .ok [] := by decide +kernel
  have hsecond : Json.skipValue (Utf8.encode "87654321") = .ok [] := by decide +kernel
  refine ⟨by decide +kernel, by decide +kernel, ?_, by decide +kernel, by decide +kernel,
    by decide +kernel⟩
  exact sameButValue_sample ⟨hfirst, hsecond⟩ rfl (by decide +kernel) (by decide +kernel)

end Provider

end CloudTenancy

import CloudTenancy.Proofs.ByteOrder
import CloudTenancy.Proofs.TwoRuns
import CloudTenancy.Provider

/-!
CloudTenancy.Proofs.Secrets — where the secrets of a provider block go.

* `ProviderBlock.SameButSecrets` — blocks that come to the same settings but for passwords and
  tokens.
* `Settings.SameButSecrets` — settings that differ at most in these.
* `Request.SameButCredentials` — requests that differ at most in the authorization header and in
  the body.
* `Likeness.HidesTokens` — files of two runs from which logins read the same but for refresh tokens.

A secret that is there is never looked at: it is encoded, so that every password makes a header, or
put into a form, so that every token makes a body. What a login sends is therefore built or refused
alike, and the addresses, which come from the settings that may be shown, meet the same answers.

Main statement: `configure_hides_secrets`.
-/

namespace CloudTenancy

variable {L : Likeness}

/-! ## Settings -/

/-- Credentials that differ at most in the password or in the token. -/
inductive Credentials.SameButSecrets : Credentials → Credentials → Prop
  | integrated (user first second : String) :
    SameButSecrets (.integrated user first) (.integrated user second)
  | token (first second : String) : SameButSecrets (.token first) (.token second)
  | apiToken (first second : String) : SameButSecrets (.apiToken first) (.apiToken second)
  | apiTokenFile (path : String) : SameButSecrets (.apiTokenFile path) (.apiTokenFile path)
  | serviceAccountTokenFile (path : String) :
    SameButSecrets (.serviceAccountTokenFile path) (.serviceAccountTokenFile path)

theorem Credentials.SameButSecrets.refl (credentials : Credentials) :
    credentials.SameButSecrets credentials := by
  cases credentials <;> constructor

/-- What may be shown of credentials shows no secret. -/
theorem Credentials.SameButSecrets.summary_eq {credentials other : Credentials}
    (h : credentials.SameButSecrets other) : credentials.summary = other.summary := by
  cases h <;> rfl

/-- Settings that differ at most in the password or in the token. -/
structure Settings.SameButSecrets (settings other : Settings) : Prop where
  url : settings.url = other.url
  org : settings.org = other.org
  credentials : settings.credentials.SameButSecrets other.credentials
  allowUnverifiedSsl : settings.allowUnverifiedSsl = other.allowUnverifiedSsl
  maxRetryTimeout : settings.maxRetryTimeout = other.maxRetryTimeout
  importSeparator : settings.importSeparator = other.importSeparator

theorem Settings.SameButSecrets.refl (settings : Settings) : settings.SameButSecrets settings :=
  ⟨rfl, rfl, .refl _, rfl, rfl, rfl⟩

/-- The blocks come to the same settings, but for the texts of passwords and tokens. Each of these
is there in both or missing in both. -/
structure ProviderBlock.SameButSecrets (block : ProviderBlock) (env : Environment)
    (block' : ProviderBlock) (env' : Environment) : Prop where
  url : Settings.pick env .url block.url? = Settings.pick env' .url block'.url?
  user : Settings.pick env .user block.user? = Settings.pick env' .user block'.user?
  org : Settings.pick env .org block.org? = Settings.pick env' .org block'.org?
  authType :
    Settings.pick env .authType block.authType? = Settings.pick env' .authType block'.authType?
  apiTokenFile :
    Settings.pick env .apiTokenFile block.apiTokenFile? =
      Settings.pick env' .apiTokenFile block'.apiTokenFile?
  serviceAccountTokenFile :
    Settings.pick env .serviceAccountTokenFile block.serviceAccountTokenFile? =
      Settings.pick env' .serviceAccountTokenFile block'.serviceAccountTokenFile?
  allowUnverifiedSsl : Settings.resolveSsl block env = Settings.resolveSsl block' env'
  maxRetryTimeout :
    Settings.resolveRetryTimeout block env = Settings.resolveRetryTimeout block' env'
  importSeparator : Settings.resolveSeparator block env = Settings.resolveSeparator block' env'
  password :
    (Settings.pick env .password block.password?).isSome =
      (Settings.pick env' .password block'.password?).isSome
  token :
    (Settings.pick env .token block.token?).isSome =
      (Settings.pick env' .token block'.token?).isSome
  apiToken :
    (Settings.pick env .apiToken block.apiToken?).isSome =
      (Settings.pick env' .apiToken block'.apiToken?).isSome

namespace Settings

variable {block block' : ProviderBlock} {env env' : Environment}

theorem need_eq {setting : Setting} {value? value'? : Option String}
    (h : pick env setting value? = pick env' setting value'?) :
    need env setting value? = need env' setting value'? := by
  rw [need, need, h]

/-- A secret is asked for only whether it is there. -/
theorem sameEnd_need {setting : Setting} {value? value'? : Option String}
    (h : (pick env setting value?).isSome = (pick env' setting value'?).isSome) :
    SameEnd (fun _ _ => True) (need env setting value?) (need env' setting value'?) := by
  unfold need
  cases hfirst : pick env setting value? with
  | none =>
    rw [hfirst] at h
    rw [Option.isNone_iff_eq_none.1 (Option.isSome_eq_false_iff.1 h.symm)]
    exact .error _
  | some first =>
    rw [hfirst] at h
    obtain ⟨second, hsecond⟩ := Option.isSome_iff_exists.1 h.symm
    rw [hsecond]
    exact .ok trivial

/-- Other secrets are resolved to other credentials of the same kind, or are missing alike. -/
theorem sameEnd_resolveCredentials (h : block.SameButSecrets env block' env') (type : AuthType) :
    SameEnd Credentials.SameButSecrets (resolveCredentials block env type)
      (resolveCredentials block' env' type) := by
  cases type with
  | integrated =>
    exact .bind_same (need_eq h.user) fun user =>
      (sameEnd_need h.password).bind fun first second _ => .ok (.integrated user first second)
  | token => exact (sameEnd_need h.token).bind fun first second _ => .ok (.token first second)
  | apiToken =>
    exact (sameEnd_need h.apiToken).bind fun first second _ => .ok (.apiToken first second)
  | apiTokenFile => exact .bind_same (need_eq h.apiTokenFile) fun path => .ok (.apiTokenFile path)
  | serviceAccountTokenFile =>
    exact .bind_same (need_eq h.serviceAccountTokenFile) fun path =>
      .ok (.serviceAccountTokenFile path)

/-- The blocks are refused alike or come to settings that belong together. -/
theorem sameEnd_resolve (h : block.SameButSecrets env block' env') :
    SameEnd Settings.SameButSecrets (resolve block env) (resolve block' env') := by
  have hurl : resolveUrl block env = resolveUrl block' env' := by
    rw [resolveUrl, resolveUrl, need_eq h.url]
  have htype : resolveAuthType block env = resolveAuthType block' env' := by
    rw [resolveAuthType, resolveAuthType, h.authType]
  unfold resolve
  rw [h.org]
  refine .bind_same hurl fun url => .bind_same htype fun type => ?_
  refine (sameEnd_resolveCredentials h type).bind fun credentials credentials' hcredentials => ?_
  refine .bind_same h.allowUnverifiedSsl fun _ => .bind_same h.maxRetryTimeout fun _ => ?_
  exact .bind_same h.importSeparator fun _ => .ok ⟨rfl, rfl, hcredentials, rfl, rfl, rfl⟩

end Settings

/-! ## Requests -/

namespace Request

/-- Headers of one name, and of one value unless they authorize. -/
def SameHeader (header other : String × String) : Prop :=
  header.1 = other.1 ∧ (header.1 ≠ "authorization" → header.2 = other.2)

theorem SameHeader.refl (header : String × String) : SameHeader header header :=
  ⟨rfl, fun _ => rfl⟩

/-- The requests differ at most in the values of authorization headers and in the body. -/
structure SameButCredentials (request other : Request) : Prop where
  method : request.method = other.method
  url : request.url = other.url
  headers : List.Forall₂ SameHeader request.headers other.headers

theorem SameButCredentials.refl (request : Request) : request.SameButCredentials request :=
  ⟨rfl, rfl, List.forall₂_same.2 fun header _ => .refl header⟩

/-- Requests with other values in authorization headers, and with bodies of one kind. -/
theorem sameEnd_make_credentials {method : Method} (url : Url)
    {headers headers' : List (String × String)} {body body' : Body}
    (hvalues : (headers.all fun header => isHeaderValue header.2) =
      headers'.all fun header => isHeaderValue header.2)
    (hheaders : List.Forall₂ SameHeader headers headers')
    (hkind : body.contentType? = body'.contentType?) :
    SameEnd SameButCredentials (make method url headers body) (make method url headers' body') := by
  have hsame : ∀ headers, List.Forall₂ SameHeader headers headers :=
    fun _ => List.forall₂_same.2 fun header _ => .refl header
  refine sameEnd_make hvalues ⟨rfl, rfl, ?_⟩
  rw [hkind]
  exact List.rel_append (List.rel_append (List.rel_append (hsame _) hheaders) (hsame _)) (hsame _)

/-! ### Header values -/

/-- Texts of visible characters of ASCII and spaces are header values. -/
theorem isHeaderValue_of_printable {value : String}
    (h : ∀ c ∈ value.toList, 32 ≤ c.toNat ∧ c.toNat < 127) : isHeaderValue value = true := by
  have hchar : ∀ n : Fin 127, 32 ≤ n.val →
      ((String.utf8EncodeChar (Char.ofNat n.val)).all fun b => b == 9 || (32 ≤ b && b ≠ 127)) =
        true := by
    decide +kernel
  rw [isHeaderValue, Utf8.encode_eq_flatMap, List.all_flatMap, List.all_eq_true]
  intro c hc
  obtain ⟨hlow, hhigh⟩ := h c hc
  have hc' := hchar ⟨c.toNat, hhigh⟩ hlow
  rwa [Char.ofNat_toNat] at hc'

theorem printable_digit (n : Nat) :
    32 ≤ (Base64.digit n).toNat ∧ (Base64.digit n).toNat < 127 := by
  by_cases h : n < 63
  · have hall : ∀ n : Fin 63,
        32 ≤ (Base64.digit n.val).toNat ∧ (Base64.digit n.val).toNat < 127 := by decide +kernel
    exact hall ⟨n, h⟩
  · have hlast : Base64.digit n = '/' := by
      unfold Base64.digit
      split
      · omega
      · split
        · omega
        · split
          · omega
          · split
            · omega
            · rfl
    rw [hlast]
    decide

/-- An encoded secret makes a header value, whatever it is. -/
theorem printable_encode (bs : Bytes) :
    ∀ c ∈ Base64.encode bs, 32 ≤ c.toNat ∧ c.toNat < 127 := by
  fun_induction Base64.encode bs with
  | case1 => simp
  | case2 => simp [printable_digit]
  | case3 => simp [printable_digit]
  | case4 _ _ _ _ ih => simpa [printable_digit] using ih

/-- Every password makes a header. -/
theorem isHeaderValue_basic (user : String) (password? : Option String) :
    isHeaderValue (basic user password?) = true := by
  refine isHeaderValue_of_printable fun c hc => ?_
  rw [basic, String.toList_append, List.mem_append] at hc
  obtain hname | hcode := hc
  · have hprintable : ∀ c ∈ "Basic ".toList, 32 ≤ c.toNat ∧ c.toNat < 127 := by simp
    exact hprintable c hname
  · rw [String.toList_ofList] at hcode
    exact printable_encode _ c hcode

end Request

/-! ## Token files -/

def Login.stored {α : Type} (decoder : Json.Decoder α) (path : String) (files : FileSystem) :
    Except ClientError α :=
  ((readFile decoder path).perform { files }).1

/-- The requests of two runs may differ in what they are authorized by and in their bodies. From the
files of both the same is read but for the refresh token, and they are written alike. -/
structure Likeness.HidesTokens (L : Likeness) : Prop where
  requests : ∀ {request other}, request.SameButCredentials other → L.requests request other
  apiToken : ∀ path {files files'}, L.files files files' →
    SameEnd (fun file file' => file.tokenType = file'.tokenType)
      (Login.stored ApiTokenFile.decoder path files)
      (Login.stored ApiTokenFile.decoder path files')
  serviceAccount : ∀ path {files files'}, L.files files files' →
    SameEnd (fun file file' => file.tokenType = file'.tokenType ∧ file.clientId = file'.clientId)
      (Login.stored ServiceAccountFile.decoder path files)
      (Login.stored ServiceAccountFile.decoder path files')
  write : ∀ path contents {files files'}, L.files files files' →
    SameEnd L.files (files.write path contents) (files'.write path contents)

/-- Runs on the same files. -/
def Likeness.butCredentials : Likeness :=
  .onSameFiles Request.SameButCredentials .refl Request.SameButCredentials.url

theorem Likeness.hidesTokens_butCredentials : butCredentials.HidesTokens where
  requests h := h
  apiToken path _ _ h := by
    cases h
    exact (SameEnd.of_eq rfl).mono fun _ _ h => congrArg _ h
  serviceAccount path _ _ h := by
    cases h
    exact (SameEnd.of_eq rfl).mono fun _ _ h => ⟨congrArg _ h, congrArg _ h⟩
  write path contents _ _ h := .of_eq (congrArg (FileSystem.write · path contents) h)

/-! ## Logins -/

namespace Login

/-- Reading a file is a matter of the files alone. -/
theorem perform_readFile {α : Type} (decoder : Json.Decoder α) (path : String) (net : Network) :
    (readFile decoder path).perform net = (stored decoder path net.files, net) := by
  simp only [stored, readFile, Call.perform_of]
  split
  · rfl
  · split <;> rfl

/-- Files that are read alike are read alike by a login. -/
theorem agree_readFile {α : Type} {Q : α → α → Prop} {decoder : Json.Decoder α} {path : String}
    (h : ∀ {files files'}, L.files files files' →
      SameEnd Q (stored decoder path files) (stored decoder path files')) :
    Call.Agree L Q (readFile decoder path) (readFile decoder path) := by
  intro net net' halike
  rw [perform_readFile, perform_readFile]
  exact ⟨h halike.files, halike⟩

theorem agree_writeFile {path : String} {contents : Bytes}
    (h : ∀ {files files'}, L.files files files' →
      SameEnd L.files (files.write path contents) (files'.write path contents)) :
    Call.Agree L Eq (writeFile path contents) (writeFile path contents) := by
  intro net net' halike
  have hends := h halike.files
  simp only [writeFile, Call.perform_of]
  generalize net.files.write path contents = result at hends ⊢
  generalize net'.files.write path contents = result' at hends ⊢
  cases hends with
  | ok hfiles =>
    exact ⟨.ok rfl, ⟨halike.reachable, halike.answers, halike.arrived, halike.now, hfiles⟩⟩
  | error error => exact ⟨.error _, halike⟩

variable {settings other : Settings}

/-- Whatever the refresh tokens are, what they are exchanged for is the same. -/
theorem agree_refresh (hL : L.HidesTokens) (h : settings.SameButSecrets other)
    (first second : String) (clientId? : Option String) :
    Call.Agree L Eq (refresh settings first clientId?) (refresh other second clientId?) := by
  have hpath : exchangePath settings = exchangePath other := by
    rw [exchangePath, exchangePath, Settings.isSystemOrg, Settings.isSystemOrg, h.org]
  unfold refresh
  rw [hpath]
  dsimp only
  refine .bind_same (agree_post h.url fun url => ?_) fun reply => .decode _ reply
  refine SameEnd.mono (Request.sameEnd_make_credentials url rfl ?_ rfl) fun _ _ => hL.requests
  exact List.forall₂_same.2 fun header _ => .refl header

/-- Other passwords are sent in the same requests, but for the header. -/
theorem agree_integrated (hL : L.HidesTokens) (h : settings.SameButSecrets other)
    (user first second : String) :
    Call.Agree L Eq (integrated settings user first) (integrated other user second) := by
  have hpath : sessionsPath settings = sessionsPath other := by
    rw [sessionsPath, sessionsPath, Settings.isSystemOrg, Settings.isSystemOrg, h.org]
  unfold integrated
  rw [hpath]
  dsimp only
  refine .bind_same (agree_post h.url fun url => ?_) fun reply => .ofExcept_self _ _
  refine SameEnd.mono (Request.sameEnd_make_credentials url ?_ ?_ rfl) fun _ _ => hL.requests
  · simp only [List.all_cons, Request.isHeaderValue_basic]
  · exact .cons (.refl _) (.cons ⟨rfl, fun hname => absurd rfl hname⟩ .nil)

/-- Other refresh tokens are exchanged and kept in the same way. -/
theorem agree_serviceAccount (hL : L.HidesTokens) (h : settings.SameButSecrets other)
    (path : String) :
    Call.Agree L Eq (serviceAccount settings path) (serviceAccount other path) := by
  refine .bind (agree_readFile (hL.serviceAccount path)) fun file file' hfile => ?_
  obtain ⟨htype, hid⟩ := hfile
  rw [htype, hid]
  refine .bind_same (agree_refresh hL h _ _ _) fun grant => ?_
  split
  · exact .bind_same (agree_writeFile (hL.write path _)) fun _ => .pure rfl
  · exact .pure rfl

/-- Logins with other secrets take the same course. -/
theorem agree_token (hL : L.HidesTokens) (h : settings.SameButSecrets other) :
    Call.Agree L (fun _ _ => True) (token settings) (token other) := by
  have hcredentials := h.credentials
  unfold token
  generalize settings.credentials = credentials at hcredentials ⊢
  generalize other.credentials = credentials' at hcredentials ⊢
  cases hcredentials with
  | integrated user first second =>
    exact (agree_integrated hL h user first second).mono fun _ _ _ => trivial
  | token first second => exact .pure trivial
  | apiToken first second =>
    exact .bind_same (agree_refresh hL h first second none) fun _ => .pure trivial
  | apiTokenFile path =>
    refine .bind (agree_readFile (hL.apiToken path)) fun file file' htype => ?_
    have hcheck : checkType path file = checkType path file' := by
      rw [checkType, checkType, htype]
    rw [hcheck]
    refine .bind_same (.ofExcept_self _ _) fun _ => ?_
    exact .bind_same (agree_refresh hL h _ _ none) fun _ => .pure trivial
  | serviceAccountTokenFile path =>
    exact (agree_serviceAccount hL h path).mono fun _ _ _ => trivial

end Login

/-! ## Sessions -/

/-- Sessions that differ at most in their tokens. -/
structure Client.SameButToken (client other : Client) : Prop where
  base : client.base = other.base
  maxRetryTimeout : client.maxRetryTimeout = other.maxRetryTimeout
  retryPause : client.retryPause = other.retryPause
  pollInterval : client.pollInterval = other.pollInterval
  importSeparator : client.importSeparator = other.importSeparator

/-- What may be shown of a session does not show its token. -/
theorem Client.SameButToken.summary_eq {client other : Client} (h : client.SameButToken other) :
    client.summary = other.summary := by
  unfold summary
  rw [h.base, h.maxRetryTimeout]

namespace Provider

/-- Sessions that were opened with other secrets differ in nothing but their token. -/
theorem agree_connect (hL : L.HidesTokens) {settings other : Settings}
    (h : settings.SameButSecrets other) :
    Call.Agree L Client.SameButToken (Client.connect settings) (Client.connect other) := by
  refine .bind (Login.agree_token hL h) fun token token' _ => ?_
  refine .pure ?_
  exact ⟨h.url, h.maxRetryTimeout, rfl, rfl, h.importSeparator⟩

/-- Blocks that come to settings that belong together are configured alike. -/
theorem agree_openSession (hL : L.HidesTokens) {block block' : ProviderBlock}
    {env env' : Environment}
    (h : SameEnd Settings.SameButSecrets (Settings.resolve block env)
      (Settings.resolve block' env')) :
    Action.Agree L Client.SameButToken (openSession block env) (openSession block' env') := by
  unfold openSession
  generalize Settings.resolve block env = resolved at h ⊢
  generalize Settings.resolve block' env' = resolved' at h ⊢
  cases h with
  | error error => exact .fail _
  | ok h => exact .attempt _ (agree_connect hL h)

/-- What comes of a configuration, and what may be shown of the session that is then in place. -/
theorem configure_of_sameRun (provider : Provider) {block block' : ProviderBlock}
    {env env' : Environment} {net net' : Network}
    (h : SameRun L Client.SameButToken ((openSession block env).start net)
      ((openSession block' env').start net')) :
    (provider.configure block env net).1.1 = (provider.configure block' env' net').1.1 ∧
      (provider.configure block env net).1.2.client?.map Client.summary =
        (provider.configure block' env' net').1.2.client?.map Client.summary ∧
      (provider.configure block env net).2.Alike L (provider.configure block' env' net').2 := by
  obtain ⟨hvalue, hdiagnostics, hnetwork⟩ := h
  refine ⟨?_, ?_, hnetwork⟩
  · simp only [configure, hdiagnostics]
    generalize ((openSession block env).start net).1.value? = value? at hvalue ⊢
    generalize ((openSession block' env').start net').1.value? = value'? at hvalue ⊢
    cases hvalue <;> rfl
  · simp only [configure]
    generalize ((openSession block env).start net).1.value? = value? at hvalue ⊢
    generalize ((openSession block' env').start net').1.value? = value'? at hvalue ⊢
    cases hvalue with
    | none => rfl
    | some hclient => exact congrArg some hclient.summary_eq

/-- **Configuration secrets.** Whatever the service answers: two configurations with the same
settings but for the texts of passwords and tokens have the same outcome and the same reports, and
show the same of the credentials and of the session in place; they leave the same files, and send as
many requests, which differ at most in authorization headers and in bodies. -/
theorem configure_hides_secrets (provider : Provider) {block block' : ProviderBlock}
    {env env' : Environment} (net : Network) (h : block.SameButSecrets env block' env') :
    (provider.configure block env net).1.1 = (provider.configure block' env' net).1.1 ∧
      (provider.configure block env net).1.2.client?.map Client.summary =
        (provider.configure block' env' net).1.2.client?.map Client.summary ∧
      (Settings.resolve block env).map (·.credentials.summary) =
        (Settings.resolve block' env').map (·.credentials.summary) ∧
      (provider.configure block env net).2.Alike .butCredentials
        (provider.configure block' env' net).2 := by
  have hresolve := Settings.sameEnd_resolve h
  obtain ⟨houtcome, hclient, hnetwork⟩ := provider.configure_of_sameRun
    ((agree_openSession Likeness.hidesTokens_butCredentials hresolve).start (.of_files rfl))
  refine ⟨houtcome, hclient, ?_, hnetwork⟩
  generalize Settings.resolve block env = resolved at hresolve ⊢
  generalize Settings.resolve block' env' = resolved' at hresolve ⊢
  cases hresolve with
  | ok h => exact congrArg Except.ok h.credentials.summary_eq
  | error error => rfl

/-- Two passwords, one of which no header could hold as it is. -/
theorem configure_hides_secrets_of_passwords :
    ProviderBlock.SameButSecrets
        { url? := some "http://h", user? := some "u", password? := some "p" } .empty
        { url? := some "http://h", user? := some "u" }
        (Environment.ofList [("VCFA_PASSWORD", "a\nb")]) ∧
      (Provider.configure {} { url? := some "http://h", user? := some "u", password? := some "p" }
        .empty {}).1.1 =
      (Provider.configure {} { url? := some "http://h", user? := some "u" }
        (Environment.ofList [("VCFA_PASSWORD", "a\nb")]) {}).1.1 := by
  have h : ProviderBlock.SameButSecrets
      { url? := some "http://h", user? := some "u", password? := some "p" } .empty
      { url? := some "http://h", user? := some "u" }
      (Environment.ofList [("VCFA_PASSWORD", "a\nb")]) := by
    constructor <;> decide
  exact ⟨h, (configure_hides_secrets {} {} h).1⟩

end Provider

end CloudTenancy

import CloudTenancy.Proofs.Provenance
import CloudTenancy.Proofs.Removal

/-!
CloudTenancy.Proofs.Scrubbing — which words of the service reports show.

* `ClientError.bare` — the words of the service that a failure shows as they are.
* `Diagnostic.IsOwn` — a report that repeats nothing that the service says.
* `Diagnostic.Repeats` — a report of a failure that the service has told. It is clean if the words
  that it shows as they are are clean.

The message of a failure reply and the words of a refused login are scrubbed. The minor code of a
failure reply and the words of a failed task are not.

Main statement: `reports_are_clean_but_for_bare_words`.
-/

namespace CloudTenancy

open Redaction

/-! ## The wording of failures -/

/-- The words of the service that a failure shows as they are. -/
def ClientError.bare : ClientError → List String
  | api _ minorCode _ => [minorCode]
  | task id message => [id, message]
  | _ => []

theorem Status.isSensitive_reason (status : Status) :
    isSensitive (status.reason?.getD "<unknown status code>").toList = false := by
  unfold Status.reason?
  split <;> decide +kernel

/-- No status of the protocol mentions a secret. -/
theorem Status.isSensitive_text (status : Status) :
    isSensitive status.text.toList = false := by
  rw [text, String.toList_append, String.toList_append, List.append_assoc,
    isSensitive_append_words (by decide) (by decide) (by decide), isSensitive_toString,
    isSensitive_reason]
  rfl

namespace ClientError

/-- A failure reply shows its minor code and its message, between words that are clean. -/
theorem isSensitive_apiText (status : Status) (minorCode message : String) :
    isSensitive (apiText status minorCode message).toList =
      (isSensitive minorCode.toList || isSensitive message.toList) := by
  rw [apiText, String.toList_append, String.toList_append, String.toList_append,
    String.toList_append, String.toList_append, List.append_assoc, List.append_assoc,
    List.append_assoc, List.append_assoc, isSensitive_words_append (by decide) (by decide),
    isSensitive_append_words (by decide) (by decide) (by decide),
    isSensitive_append_words (by decide) (by decide) (by decide), Status.isSensitive_text,
    Bool.false_or]

/-- The words in front of a login message mention none either. -/
theorem isSensitive_loginText (message : String) :
    isSensitive (loginText message).toList = isSensitive message.toList := by
  rw [loginText, String.toList_append, isSensitive_words_append (by decide) (by decide)]

/-- A failed task shows its id and its words. -/
theorem isSensitive_taskText (id message : String) :
    isSensitive (task id message).message.toList =
      (isSensitive id.toList || isSensitive message.toList) := by
  change isSensitive ("task " ++ id ++ " failed: " ++ message).toList = _
  rw [String.toList_append, String.toList_append, String.toList_append, List.append_assoc,
    List.append_assoc, isSensitive_words_append (by decide) (by decide),
    isSensitive_append_words (by decide) (by decide) (by decide)]

/-- A failure that the service has told is shown clean if the words shown as they are are clean. -/
theorem clean_redacted_iff {error : ClientError} (h : error.isOwn = false) :
    Clean error.redacted ↔ ∀ text ∈ error.bare, Clean text := by
  cases error with
  | api status minorCode message =>
    have hmessage := clean_iff.1 (clean_redact message)
    simp only [redacted, bare, clean_iff, isSensitive_apiText, hmessage, Bool.or_false,
      List.mem_singleton, forall_eq]
  | login message =>
    have hmessage := clean_iff.1 (clean_redact message)
    simp only [redacted, bare, clean_iff, isSensitive_loginText, hmessage, List.not_mem_nil,
      false_imp_iff, implies_true]
  | task id message =>
    simp only [redacted, bare, clean_iff, isSensitive_taskText, Bool.or_eq_false_iff,
      List.mem_cons, List.not_mem_nil, or_false, forall_eq_or_imp, forall_eq]
  | _ => cases h

end ClientError

/-! ## Reports -/

/-- The report repeats nothing that the service says. -/
inductive Diagnostic.IsOwn : Diagnostic → Prop
  | brief {d : Diagnostic} : d.detail = "" → IsOwn d
  | gone (kind id : String) : IsOwn (Org.gone kind id)
  | unusable (error : ConfigError) :
    IsOwn { summary := "Invalid provider configuration", detail := error.message }
  | failure (summary : String) {error : ClientError} :
    error.isOwn = true → IsOwn (.ofError summary error)

/-- The report is one of a failure that the service has told, in a reply of the script, and it is
clean exactly if the words that it shows as they are are clean. -/
def Diagnostic.Repeats (answers : List Answer) (d : Diagnostic) : Prop :=
  ∃ summary error, d = .ofError summary error ∧ error.isOwn = false ∧ error.Stems answers ∧
    (Clean d.detail ↔ ∀ text ∈ error.bare, Clean text)

/-- A report is the provider's own, or it repeats a failure that the service has told. -/
theorem Diagnostic.Stems.own_or_repeats {answers : List Answer} {d : Diagnostic}
    (h : d.Stems answers) : d.IsOwn ∨ d.Repeats answers := by
  cases h with
  | brief hdetail => exact .inl (.brief hdetail)
  | gone kind id => exact .inl (.gone kind id)
  | unusable error => exact .inl (.unusable error)
  | @failure summary error hstems =>
    cases hown : error.isOwn with
    | true => exact .inl (.failure summary hown)
    | false =>
      exact .inr ⟨summary, error, rfl, hown, hstems, ClientError.clean_redacted_iff hown⟩

/-- **Scrubbing.** Whatever a call of the provider or a configuration reports is the provider's own
or a failure that a reply of the script tells. Of such a failure the message of a failure reply and
the words of a refused login are scrubbed, so that no line of the report speaks of a password or a
token, unless the minor code of the reply does, or a failed task. -/
theorem reports_are_clean_but_for_bare_words (provider : Provider) (net : Network) :
    (∀ errand, (provider.serve errand net).1.diagnostics.warnings = [] ∧
      ∀ d ∈ (provider.serve errand net).1.diagnostics.errors, d.IsOwn ∨ d.Repeats net.answers) ∧
    ∀ block env, (provider.configure block env net).1.1.diagnostics.warnings = [] ∧
      ∀ d ∈ (provider.configure block env net).1.1.diagnostics.errors,
        d.IsOwn ∨ d.Repeats net.answers := by
  refine ⟨fun errand => ?_, fun block env => ?_⟩
  · obtain ⟨hstems, hwarnings⟩ := provider.stems_serve errand net
    exact ⟨hwarnings, fun d hmem => (hstems d hmem).own_or_repeats⟩
  · obtain ⟨hstems, hwarnings⟩ := provider.stems_configure block env net
    exact ⟨hwarnings, fun d hmem => (hstems d hmem).own_or_repeats⟩

/-! ## Samples -/

namespace LocalUser

def indiscreet : Task :=
  { id := "t", status := "error", failure? := some { message := "hunter2 is no password" } }

def refusal : ClientError := .task "t" "hunter2 is no password"

/-- A service that accepts a removal, and then shows that the task has failed. -/
def talkative : Network where
  answers :=
    [⟨some { status := .accepted, headers := [("location", Utf8.encode "/task")] }, none⟩,
      ⟨some { body := (Json.object [("id", .string "t"), ("status", .string "error"),
        ("error", .object [("message", .string "hunter2 is no password")])]).write }, none⟩]

/-- The removal ends with the failure of its task. -/
theorem runs_talkative :
    (Change.removal (path "u") []).Runs (Client.sample "t" 60) (some "o") talkative
      [.ask .delete sampleRequest.url [] .empty, .get taskUrl] (.error refusal) := by
  have hsend := @Client.send_of_settled (Client.sample "t" 60) .delete sampleRequest.url [] .empty
    (some "o") talkative sampleRequest (by decide) rfl rfl
  have hlook := @Client.send_of_settled (Client.sample "t" 60) .get taskUrl [] .empty (some "o")
    (talkative.exchange sampleRequest).2 _ (by decide) rfl (by decide +kernel)
  have hshown : (Client.sample "t" 60).look (some "o") taskUrl
      (talkative.exchange sampleRequest).2 = .ok indiscreet := by
    rw [Client.look, Client.reply, hlook]
    exact ok_of_toOption (by decide +kernel)
  exact .unfinished join_samplePath hsend rfl (.polled (by decide +kernel) join_task
    (.failed 0 (fun i hi => absurd hi (Nat.not_lt_zero i)) hshown (.inl rfl)))

/-- What the removal reports. -/
theorem errors_talkative :
    (Provider.serve ⟨some (Client.sample "t" 60)⟩ (.localUser (.destroy sampleRemoval))
      talkative).1.diagnostics.errors = [.ofError "Failed to delete user" refusal] := by
  obtain ⟨later, hcall⟩ : ∃ later,
      ((Client.sample "t" 60).delete (path "u") [] (some "o")).perform talkative =
        (.error refusal, later) := by
    rw [Change.call_removal]
    exact ⟨_, runs_talkative.perform⟩
  have hdestroy : (destroy (some (Client.sample "t" 60)) sampleRemoval).perform ⟨talkative, {}⟩ =
      (none, ⟨later, Diagnostics.error {} (.ofError "Failed to delete user" refusal)⟩) := by
    rw [destroy, Action.perform_bind_of_some (Action.perform_configured _ _)]
    exact Action.perform_bind_of_none (Action.perform_orMissing_of_error hcall (by decide))
  have hmanage : (manage (some (Client.sample "t" 60)) (.destroy sampleRemoval)).perform
      ⟨talkative, {}⟩ =
        (none, ⟨later, Diagnostics.error {} (.ofError "Failed to delete user" refusal)⟩) :=
    Action.perform_bind_of_none hdestroy
  rw [Provider.serve_eq]
  exact congrArg (fun ended => ended.2.diagnostics.errors) hmanage

/-- The report of the removal is the provider's own or explained by the failed task. -/
theorem reports_are_clean_but_for_bare_words_of_task :
    Diagnostic.ofError "Failed to delete user" refusal ∈
        (Provider.serve ⟨some (Client.sample "t" 60)⟩ (.localUser (.destroy sampleRemoval))
          talkative).1.diagnostics.errors ∧
      ((Diagnostic.ofError "Failed to delete user" refusal).IsOwn ∨
        (Diagnostic.ofError "Failed to delete user" refusal).Repeats talkative.answers) := by
  have hmem : Diagnostic.ofError "Failed to delete user" refusal ∈
      (Provider.serve ⟨some (Client.sample "t" 60)⟩ (.localUser (.destroy sampleRemoval))
        talkative).1.diagnostics.errors := by
    rw [errors_talkative]
    exact List.mem_singleton.2 rfl
  exact ⟨hmem, ((reports_are_clean_but_for_bare_words _ _).1 _).2 _ hmem⟩

/-- The password that a failed task repeats is shown. -/
theorem password_of_failed_task_is_shown :
    (Provider.serve ⟨some (Client.sample "t" 60)⟩ (.localUser (.destroy sampleRemoval))
        talkative).1.diagnostics.errors = [.ofError "Failed to delete user" refusal] ∧
      ¬ Clean (Diagnostic.ofError "Failed to delete user" refusal).detail := by
  refine ⟨errors_talkative, ?_⟩
  rw [clean_iff]
  decide +kernel

end LocalUser

end CloudTenancy

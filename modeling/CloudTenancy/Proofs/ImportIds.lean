import CloudTenancy.ImportId
import CloudTenancy.Proofs.Lookups

/-!
CloudTenancy.Proofs.ImportIds — import ids are split where they were joined.

* `Text.EndsAtFirst` — a piece with the separator behind it, and no separator before that one.
* `ImportId.Cut` — the pieces of an id: as many as there are parts, none empty, joined with the
  separator, and each but the last one ended by the first separator there is.
* `LocalUser.importOf` — the import of a user by the names of organization and user.

A separator is looked for from the left. One that overlaps with itself, or with the end of a piece,
is then found earlier than where it was put: `a-` and `b` joined by `--` are split as `a` and `-b`.
So it is not enough that a piece does not hold the separator. What is needed is that no occurrence
begins in the piece, even if it ends behind it (`breakAt_eq_some_iff`). For a separator of one
character the two are the same (`endsAtFirst_singleton_iff`).

Main statement: `import_ids_split_where_joined`.
-/

namespace CloudTenancy

namespace Text

/-! ## The first occurrence of a separator -/

/-- In the piece with the separator behind it, the separator occurs first at the end. -/
def EndsAtFirst (sep piece : List Char) : Prop :=
  ∀ before after, piece ++ sep = before ++ sep ++ after → piece.length ≤ before.length

variable {sep cs piece before after : List Char}

theorem endsAtFirst_nil (sep : List Char) : EndsAtFirst sep [] := fun _ _ _ => Nat.zero_le _

/-- What begins with another character than an occurrence does is one character longer. -/
theorem endsAtFirst_cons_iff {c : Char} :
    EndsAtFirst sep (c :: piece) ↔ ¬ sep <+: c :: (piece ++ sep) ∧ EndsAtFirst sep piece := by
  constructor
  · intro h
    refine ⟨?_, ?_⟩
    · rintro ⟨after, hafter⟩
      have hle := h [] after (by simpa using hafter.symm)
      simp at hle
    · intro before after heq
      have hle := h (c :: before) after (by simp [heq])
      simpa using hle
  · rintro ⟨hnot, h⟩ before after heq
    cases before with
    | nil => exact absurd ⟨after, by simpa using heq.symm⟩ hnot
    | cons d before =>
      simp only [List.cons_append, List.cons.injEq] at heq
      have hle := h before after heq.2
      simpa using hle

/-- Such a piece does not hold the separator. The converse fails: see `a-` and `--`. -/
theorem EndsAtFirst.not_isInfix (h : EndsAtFirst sep piece) (hsep : sep ≠ []) :
    ¬ sep <:+: piece := by
  rintro ⟨before, after, rfl⟩
  have hle := h before (after ++ sep) (by simp)
  have hpos := List.length_pos_iff.2 hsep
  simp only [List.length_append] at hle
  omega

/-- What stands behind the separator does not matter: an occurrence that begins in front of it ends
before it does. -/
theorem isPrefixOf_cut_iff {c : Char} :
    sep.isPrefixOf (c :: (piece ++ sep ++ after)) = true ↔ sep <+: c :: (piece ++ sep) := by
  rw [List.isPrefixOf_iff_prefix]
  have hfront : c :: (piece ++ sep) <+: c :: (piece ++ sep ++ after) := ⟨after, by simp⟩
  constructor
  · intro h
    refine List.prefix_of_prefix_length_le h hfront ?_
    simp only [List.length_cons, List.length_append]
    omega
  · intro h
    exact h.trans hfront

/-- Where a text is cut there was no separator before. -/
theorem endsAtFirst_of_breakAt (h : breakAt sep cs = some (before, after)) :
    EndsAtFirst sep before := by
  induction before generalizing cs with
  | nil => exact endsAtFirst_nil sep
  | cons c before ih =>
    obtain rfl := eq_append_of_breakAt h
    rw [List.cons_append, List.cons_append, breakAt] at h
    split at h
    · simp at h
    · rename_i hhead
      rw [isPrefixOf_cut_iff] at hhead
      obtain ⟨⟨b, a⟩, hbreak, heq⟩ := Option.map_eq_some_iff.1 h
      simp only [Prod.mk.injEq, List.cons.injEq, true_and] at heq
      obtain ⟨rfl, rfl⟩ := heq
      exact endsAtFirst_cons_iff.2 ⟨hhead, ih hbreak⟩

/-- A text is cut where it has been joined, unless a separator begins earlier. -/
theorem breakAt_append (h : EndsAtFirst sep before) :
    breakAt sep (before ++ sep ++ after) = some (before, after) := by
  induction before with
  | nil =>
    have hhead : sep.isPrefixOf (sep ++ after) = true := by
      rw [List.isPrefixOf_iff_prefix]
      exact List.prefix_append sep after
    rw [List.nil_append, breakAt.eq_def, if_pos hhead, List.drop_left]
  | cons c before ih =>
    obtain ⟨hnot, hfirst⟩ := endsAtFirst_cons_iff.1 h
    show breakAt sep (c :: (before ++ sep ++ after)) = some (c :: before, after)
    rw [breakAt, if_neg (by rwa [isPrefixOf_cut_iff])]
    simp only [ih hfirst, Option.map_some]

/-- A text is broken at the first separator, and nowhere else. -/
theorem breakAt_eq_some_iff :
    breakAt sep cs = some (before, after) ↔
      cs = before ++ sep ++ after ∧ EndsAtFirst sep before := by
  constructor
  · intro h
    exact ⟨eq_append_of_breakAt h, endsAtFirst_of_breakAt h⟩
  · rintro ⟨rfl, hfirst⟩
    exact breakAt_append hfirst

/-- With a separator of one character this says that the piece does not hold it. -/
theorem endsAtFirst_singleton_iff {c : Char} : EndsAtFirst [c] piece ↔ c ∉ piece := by
  induction piece with
  | nil => simp [endsAtFirst_nil]
  | cons d piece ih =>
    rw [endsAtFirst_cons_iff, ih, List.mem_cons, not_or]
    simp

/-- Bounded splitting gives the pieces that each end at the first separator, the last one apart. -/
theorem splitAtMost_eq_iff {n : Nat} {pieces : List (List Char)} (hlength : pieces.length = n + 1) :
    splitAtMost (n + 1) sep cs = pieces ↔
      sep.intercalate pieces = cs ∧ ∀ piece ∈ pieces.dropLast, EndsAtFirst sep piece := by
  induction n generalizing cs pieces with
  | zero =>
    obtain ⟨last, rfl⟩ := List.length_eq_one_iff.1 hlength
    simp [splitAtMost, eq_comm]
  | succ n ih =>
    obtain _ | ⟨first, _ | ⟨second, rest⟩⟩ := pieces
    · simp at hlength
    · simp at hlength
    · have ih := fun cs => @ih cs (second :: rest) (by simpa using hlength)
      rw [splitAtMost, List.intercalate_cons_cons, List.dropLast_cons_cons, List.forall_mem_cons]
      constructor
      · intro h
        split at h
        · cases h
        · rename_i before after hbreak
          obtain ⟨rfl, hrest⟩ := List.cons.inj h
          obtain ⟨rfl, hfirst⟩ := breakAt_eq_some_iff.1 hbreak
          obtain ⟨rfl, hothers⟩ := (ih after).1 hrest
          exact ⟨by simp, hfirst, hothers⟩
      · rintro ⟨rfl, hfirst, hothers⟩
        have hbreak : breakAt sep (first ++ sep ++ sep.intercalate (second :: rest)) =
            some (first, sep.intercalate (second :: rest)) :=
          breakAt_append hfirst
        rw [hbreak]
        show first :: splitAtMost (n + 1) sep (sep.intercalate (second :: rest)) = _
        rw [(ih _).2 ⟨rfl, hothers⟩]

end Text

namespace ImportId

/-! ## Pieces of an id -/

/-- The pieces of an id. Only the last one may hold the separator. -/
structure Cut (id separator : String) (n : Nat) (pieces : List String) : Prop where
  length : pieces.length = n
  nonempty : ∀ piece ∈ pieces, piece ≠ ""
  joined : separator.intercalate pieces = id
  first : ∀ piece ∈ pieces.dropLast, Text.EndsAtFirst separator.toList piece.toList

variable {id separator : String} {parts pieces others : List String}

/-- Splitting gives the cut, and gives it only where there is one. -/
theorem split_eq_ok_iff_cut (hparts : parts ≠ []) :
    split id separator parts = .ok pieces ↔ Cut id separator parts.length pieces := by
  obtain ⟨n, hn⟩ : ∃ n, parts.length = n + 1 :=
    Nat.exists_eq_succ_of_ne_zero (by simpa using hparts)
  have hcut (hlength : pieces.length = parts.length) :
      pieces.map String.toList = Text.splitAtMost parts.length separator.toList id.toList ↔
        separator.intercalate pieces = id ∧
          ∀ piece ∈ pieces.dropLast, Text.EndsAtFirst separator.toList piece.toList := by
    rw [eq_comm, hn, Text.splitAtMost_eq_iff (by simp [hlength, hn]), ← String.toList_intercalate,
      String.toList_inj, ← List.map_dropLast, List.forall_mem_map]
  rw [split_eq_ok_iff]
  constructor
  · rintro ⟨hpieces, hlength, hempty⟩
    obtain ⟨hjoined, hfirst⟩ := (hcut hlength).1 hpieces
    exact ⟨hlength, fun piece hmem hnil => hempty (hnil ▸ hmem), hjoined, hfirst⟩
  · intro h
    exact ⟨(hcut h.length).2 ⟨h.joined, h.first⟩, h.length, fun hmem => h.nonempty "" hmem rfl⟩

/-- There is one way only to cut an id. -/
theorem Cut.unique (hparts : parts ≠ []) (h : Cut id separator parts.length pieces)
    (hothers : Cut id separator parts.length others) : pieces = others := by
  have hsplit := (split_eq_ok_iff_cut hparts).2 h
  rw [(split_eq_ok_iff_cut hparts).2 hothers] at hsplit
  exact (Except.ok.inj hsplit).symm

/-- An id that cannot be cut is refused, with the report made of it. -/
theorem split_of_not_cut (hparts : parts ≠ [])
    (h : ¬∃ pieces, Cut id separator parts.length pieces) :
    split id separator parts = .error { id, separator, parts } := by
  cases hsplit : split id separator parts with
  | ok pieces => exact absurd ⟨pieces, (split_eq_ok_iff_cut hparts).1 hsplit⟩ h
  | error malformed =>
    unfold split at hsplit
    dsimp only at hsplit
    split at hsplit
    · rw [hsplit]
    · cases hsplit

/-- Pieces joined by one character that only the last one may hold are what the id is split into. -/
theorem split_intercalate {c : Char} (hlength : pieces.length = parts.length) (hparts : parts ≠ [])
    (hnonempty : ∀ piece ∈ pieces, piece ≠ "")
    (hfree : ∀ piece ∈ pieces.dropLast, c ∉ piece.toList) :
    split ((String.singleton c).intercalate pieces) (String.singleton c) parts = .ok pieces := by
  refine (split_eq_ok_iff_cut hparts).2 ⟨hlength, hnonempty, rfl, ?_⟩
  intro piece hmem
  rw [String.toList_singleton, Text.endsAtFirst_singleton_iff]
  exact hfree piece hmem

end ImportId

namespace LocalUser

/-! ## Imports -/

/-- The import of a user: a look for the organization of a name, and then one for the user of a name
in it. -/
def importOf (client : Client) (orgName username : String) : Action (Kept LocalUserState) := do
  let org ← Action.attempt (.ofError "Failed to import user") (Org.find client orgName)
  let user ← Action.attempt (.ofError "Failed to import user") (find client org.id username)
  return imported org user

variable {client : Client} {orgName username : String}

/-- The request asks for what has the value in the field. -/
def Seeks (field value : String) (request : Request) : Prop :=
  request.parameter? "filter" = some (Utf8.encode (field ++ "==" ++ value))

/-- An import asks for the organization by its name, then for the user by theirs. -/
theorem sends_importOf (client : Client) (orgName username : String) :
    (importOf client orgName username).Sends
      fun request => Seeks "name" orgName request ∨ Seeks "username" username request := by
  refine .bind (.attempt _ ?_) fun org => .bind (.attempt _ ?_) fun user => .pure _
  · exact Call.Sends.mono (Client.sends_filter Client.isPlain_orgsPath) fun _ => .inl
  · exact Call.Sends.mono (Client.sends_filter Client.isPlain_usersPath) fun _ => .inr

/-- The names in an import id that was joined from them are the ones that are looked for. -/
theorem perform_importState_of_joined {c : Char}
    (hseparator : client.importSeparator = .singleton c) (horg : orgName ≠ "")
    (husername : username ≠ "") (hfree : c ∉ orgName.toList) (start : ActionState) :
    (importState (some client) (orgName ++ String.singleton c ++ username)).perform start =
      (importOf client orgName username).perform start := by
  have hjoined : orgName ++ String.singleton c ++ username =
      (String.singleton c).intercalate [orgName, username] := by
    simp [String.intercalate_cons_cons]
  have hsplit : ImportId.split (orgName ++ String.singleton c ++ username) client.importSeparator
      importParts = .ok [orgName, username] := by
    rw [hseparator, hjoined]
    exact ImportId.split_intercalate rfl (by simp [importParts]) (by simp [horg, husername])
      (by simpa using hfree)
  rw [perform_importState hsplit]
  rfl

theorem sends_importState_of_joined {c : Char} (hseparator : client.importSeparator = .singleton c)
    (horg : orgName ≠ "") (husername : username ≠ "") (hfree : c ∉ orgName.toList) :
    (importState (some client) (orgName ++ String.singleton c ++ username)).Sends
      fun request => Seeks "name" orgName request ∨ Seeks "username" username request := by
  intro start
  rw [perform_importState_of_joined hseparator horg husername hfree]
  exact sends_importOf client orgName username start

end LocalUser

/-- **Import ids.** An id is split into exactly the pieces that it can be cut into, if there are
such, and there is one way to cut it. Only the last piece may hold the separator. What is joined by
one character that only the last piece holds is split into the same pieces. So an import by the
names of organization and user, joined by such a separator, looks for these two and for nothing
else. -/
theorem import_ids_split_where_joined :
    (∀ (id separator : String) (parts : List String), parts ≠ [] →
      (∀ pieces, ImportId.split id separator parts = .ok pieces ↔
        ImportId.Cut id separator parts.length pieces) ∧
      (∀ pieces others, ImportId.Cut id separator parts.length pieces →
        ImportId.Cut id separator parts.length others → pieces = others) ∧
      ((¬∃ pieces, ImportId.Cut id separator parts.length pieces) →
        ImportId.split id separator parts = .error { id, separator, parts }) ∧
      (separator ≠ "" → ∀ pieces, ImportId.Cut id separator parts.length pieces →
        ∀ piece ∈ pieces.dropLast, ¬ separator.toList <:+: piece.toList)) ∧
    (∀ (c : Char) (parts pieces : List String), pieces.length = parts.length → parts ≠ [] →
      (∀ piece ∈ pieces, piece ≠ "") → (∀ piece ∈ pieces.dropLast, c ∉ piece.toList) →
      ImportId.split ((String.singleton c).intercalate pieces) (.singleton c) parts = .ok pieces) ∧
    ∀ (client : Client) (c : Char) (orgName username : String),
      client.importSeparator = .singleton c → orgName ≠ "" → username ≠ "" →
      c ∉ orgName.toList →
      (∀ start, (LocalUser.importState (some client)
          (orgName ++ String.singleton c ++ username)).perform start =
        (LocalUser.importOf client orgName username).perform start) ∧
      (LocalUser.importState (some client) (orgName ++ String.singleton c ++ username)).Sends
        fun request => LocalUser.Seeks "name" orgName request ∨
          LocalUser.Seeks "username" username request := by
  refine ⟨fun id separator parts hparts => ⟨?_, ?_, ?_, ?_⟩, ?_, ?_⟩
  · intro pieces
    exact ImportId.split_eq_ok_iff_cut hparts
  · intro pieces others hpieces hothers
    exact hpieces.unique hparts hothers
  · exact ImportId.split_of_not_cut hparts
  · intro hseparator pieces hcut piece hmem
    exact (hcut.first piece hmem).not_isInfix (by simpa using hseparator)
  · intro c parts pieces hlength hparts hnonempty hfree
    exact ImportId.split_intercalate hlength hparts hnonempty hfree
  · intro client c orgName username hseparator horg husername hfree
    exact ⟨LocalUser.perform_importState_of_joined hseparator horg husername hfree,
      LocalUser.sends_importState_of_joined hseparator horg husername hfree⟩

/-- A separator that overlaps with the end of a piece: `a-` and `b` joined by `--` are not split
where they were joined. A user whose name holds the separator is looked for all the same, by one
request for the organization and one for the user. -/
theorem import_ids_split_where_joined_of_samples :
    (ImportId.Cut "a---b" "--" 2 ["a", "-b"] ∧
      ImportId.split "a---b" "--" LocalUser.importParts = .ok ["a", "-b"] ∧
      "--".intercalate ["a-", "b"] = "a---b" ∧ ¬ ImportId.Cut "a---b" "--" 2 ["a-", "b"]) ∧
    ∃ org user,
      ((LocalUser.importState (some (Client.sample "t" 3)) ("acme" ++ "." ++ "alice.smith")).perform
        { network := LocalUser.household }).2.network.arrived = [org, user] ∧
      org.url.path.text = "/cloudapi/1.0.0/orgs" ∧ LocalUser.Seeks "name" "acme" org ∧
      user.url.path.text = "/cloudapi/1.0.0/users" ∧
      LocalUser.Seeks "username" "alice.smith" user := by
  obtain ⟨hsplit, hunique, -, -⟩ := import_ids_split_where_joined.1 "a---b" "--"
    LocalUser.importParts (by decide)
  have hfound : ImportId.split "a---b" "--" LocalUser.importParts = .ok ["a", "-b"] := by rfl
  have hcut := (hsplit ["a", "-b"]).1 hfound
  refine ⟨⟨hcut, hfound, by decide, fun hother => ?_⟩, ?_⟩
  · exact absurd (hunique _ _ hcut hother) (by decide)
  · -- The id that was joined leads to the same lookups as the two names.
    have hnames : (LocalUser.importState (some (Client.sample "t" 3))
        ("acme" ++ "." ++ "alice.smith")).perform { network := LocalUser.household } =
          (LocalUser.importOf (Client.sample "t" 3) "acme" "alice.smith").perform
            { network := LocalUser.household } :=
      (import_ids_split_where_joined.2.2 (Client.sample "t" 3) '.' "acme" "alice.smith" rfl
        (by decide) (by decide) (by decide)).1 _
    have hlookups : ((LocalUser.importOf (Client.sample "t" 3) "acme" "alice.smith").perform
        { network := LocalUser.household }).2.network.arrived.map
          (fun request => (request.url.path.text, request.parameter? "filter")) =
        [("/cloudapi/1.0.0/orgs", some (Utf8.encode "name==acme")),
          ("/cloudapi/1.0.0/users", some (Utf8.encode "username==alice.smith"))] := by
      decide +kernel
    rw [← hnames] at hlookups
    obtain ⟨org, rest, harrived, horg, hrest⟩ := List.map_eq_cons_iff.1 hlookups
    obtain ⟨user, rfl, huser⟩ := List.map_eq_singleton_iff.1 hrest
    obtain ⟨horgs, hname⟩ := Prod.mk.inj horg
    obtain ⟨husers, husername⟩ := Prod.mk.inj huser
    exact ⟨org, user, harrived, horgs, hname, husers, husername⟩

end CloudTenancy

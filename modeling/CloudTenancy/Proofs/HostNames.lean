import CloudTenancy.Url.Parser

/-!
CloudTenancy.Proofs.HostNames — no host of a web address ends in a blank.

* `Text.Normal.mem_normalize_of_blank` — no composition takes a blank away.
* `Domain.toAscii?_of_blank` — no domain name holds a blank.
* `Percent.mem_of_decodeText?` — resolving encoded bytes takes no blank away.

Here blanks are the space and the control characters in front of it. None of them is composed with
another character or comes of one, none is a hexadecimal digit, and none stands for another one in
names. So a blank in a host is still there when the name is checked. Behind a colon it is no digit
of a port, and behind an address in brackets it is not the closing bracket.

Main statement: `Authority.not_blank_of_parse`.
-/

namespace CloudTenancy

theorem toNat_le_of_isOuterBlank {c : Char} (h : isOuterBlank c = true) : c.toNat ≤ 0x20 := by
  simpa [isOuterBlank] using h

theorem ne_of_isOuterBlank {c d : Char} (h : isOuterBlank c = true) (hd : isOuterBlank d = false) :
    c ≠ d := by
  rintro rfl
  rw [h] at hd
  cases hd

/-! ## Composition -/

namespace Text.Normal

/-- Every composed character and each of its parts is above the blanks. -/
theorem above_blanks_of_mem_pairs :
    ∀ pair ∈ pairs, 0x20 < pair.1 ∧ 0x20 < pair.2.1 ∧ 0x20 < pair.2.2 := by
  have hrows : ∀ row ∈ Rows.parse pairRows,
      (decide (0x20 < row.headD 0) && decide (0x20 < row.getD 1 0) &&
        decide (0x20 < row.getD 2 0)) = true := by
    unfold pairRows
    repeat refine Rows.all_parse_cons (by decide +kernel) ?_
    exact fun row hmem => nomatch hmem
  intro pair hmem
  obtain ⟨row, hrow, rfl⟩ := List.mem_map.1 hmem
  simpa [and_assoc] using hrows row hrow

variable {c : Char} {cs : List Char}

theorem not_isSyllable {n : Nat} (h : n ≤ 0x20) : isSyllable n = false := by
  have hbound : ¬firstSyllable ≤ n := by
    rw [firstSyllable]
    omega
  rw [isSyllable, decide_eq_false hbound]
  rfl

/-- The control characters and the blank take no part in a syllable. -/
theorem composeHangul?_of_le {a b : Nat} (h : a ≤ 0x20 ∨ b ≤ 0x20) : composeHangul? a b = none := by
  rw [composeHangul?, if_neg, if_neg]
  · rintro ⟨hsyllable, -, htrail, -⟩
    rw [beforeTrail] at htrail
    have ha : a ≤ 0x20 := by omega
    rw [not_isSyllable ha] at hsyllable
    cases hsyllable
  · rintro ⟨hlead, -, hvowel, -⟩
    rw [firstLead] at hlead
    rw [firstVowel] at hvowel
    omega

/-- A blank is no part of a composed character. -/
theorem compose?_of_blank {a b : Char} (h : isOuterBlank a = true ∨ isOuterBlank b = true) :
    compose? a b = none := by
  have hle : a.toNat ≤ 0x20 ∨ b.toNat ≤ 0x20 :=
    h.imp toNat_le_of_isOuterBlank toNat_le_of_isOuterBlank
  have hnone : pairs.find? (fun pair => pair.2 = (a.toNat, b.toNat)) = none := by
    refine List.find?_eq_none.2 fun pair hmem heq => ?_
    obtain ⟨-, hfirst, hsecond⟩ := above_blanks_of_mem_pairs pair hmem
    rw [of_decide_eq_true heq] at hfirst hsecond
    dsimp only at hfirst hsecond
    omega
  rw [compose?, composeHangul?_of_le hle, hnone]
  rfl

/-- A blank has no parts. -/
theorem expand_of_blank (h : isOuterBlank c = true) : expand c = [c] := by
  have hle := toNat_le_of_isOuterBlank h
  have hnone : pairs.find? (fun pair => pair.1 = c.toNat) = none := by
    refine List.find?_eq_none.2 fun pair hmem heq => ?_
    have habove := (above_blanks_of_mem_pairs pair hmem).1
    rw [of_decide_eq_true heq] at habove
    omega
  rw [expand, not_isSyllable hle, hnone]
  rfl

/-- Decomposition keeps the blanks. -/
theorem mem_decompose_of_blank (h : isOuterBlank c = true) (hmem : c ∈ cs) : c ∈ decompose cs := by
  have hlevel : ∀ ds : List Char, c ∈ ds → c ∈ ds.flatMap expand := fun ds hds =>
    List.mem_flatMap.2 ⟨c, hds, by rw [expand_of_blank h]; exact List.mem_singleton_self c⟩
  exact hlevel _ (hlevel _ (hlevel _ (hlevel _ hmem)))

/-- So does composition: a blank is the first of no pair, and no second. -/
theorem mem_composeOnto_of_blank (h : isOuterBlank c = true) {starter : Char} {pending : List Char}
    (hmem : c = starter ∨ c ∈ pending ∨ c ∈ cs) : c ∈ composeOnto starter pending cs := by
  induction cs generalizing starter pending with
  | nil => simpa [composeOnto] using hmem
  | cons d ds ih =>
    rw [composeOnto]
    split
    · rename_i composed hcompose
      -- Neither of the two that are composed is the blank, so it is further on.
      have hne : c ≠ starter ∧ c ≠ d := by
        split at hcompose
        · cases hcompose
        · constructor <;> rintro rfl
          · rw [compose?_of_blank (.inl h)] at hcompose
            cases hcompose
          · rw [compose?_of_blank (.inr h)] at hcompose
            cases hcompose
      refine ih (.inr ?_)
      simpa [hne.1, hne.2] using hmem
    · split
      · rcases hmem with rfl | hpending | hmem
        · simp
        · simp [hpending]
        · refine List.mem_append_right _ (ih ?_)
          exact (List.mem_cons.1 hmem).imp_right .inr
      · refine ih ?_
        rcases hmem with rfl | hpending | hmem
        · exact .inl rfl
        · exact .inr (.inl (List.mem_cons_of_mem d hpending))
        · rcases List.mem_cons.1 hmem with rfl | hmem
          · exact .inr (.inl List.mem_cons_self)
          · exact .inr (.inr hmem)

/-- Normalization keeps the blanks. -/
theorem mem_normalize_of_blank (h : isOuterBlank c = true) (hmem : c ∈ cs) : c ∈ normalize cs := by
  have hall : ∀ ds : List Char, c ∈ ds → c ∈ composeAll ds := by
    intro ds
    induction ds with
    | nil => exact id
    | cons d ds ih =>
      intro hds
      rw [composeAll]
      split
      · exact mem_composeOnto_of_blank h ((List.mem_cons.1 hds).imp_right .inr)
      · exact List.mem_cons.2 ((List.mem_cons.1 hds).imp_right ih)
  exact hall _ ((perm_arrange _).mem_iff.2 (mem_decompose_of_blank h hmem))

end Text.Normal

/-! ## Names -/

variable {c : Char} {cs : List Char}

namespace Domain

theorem toLower_of_blank (h : isOuterBlank c = true) : c.isUpper = false ∧ c.toLower = c := by
  have hupper : c.isUpper = false := by
    have hval : c.val.toNat ≤ 0x20 := toNat_le_of_isOuterBlank h
    refine decide_eq_false fun hbounds => ?_
    have hlarge := UInt32.le_iff_toNat_le.1 hbounds.1
    rw [show 'A'.val.toNat = 65 from rfl] at hlarge
    omega
  have hbounds : ¬(c.val ≥ 'A'.val ∧ c.val ≤ 'Z'.val) := of_decide_eq_false hupper
  exact ⟨hupper, dif_neg hbounds⟩

/-- A name with a blank is refused. -/
theorem toAscii?_of_blank (h : isOuterBlank c = true) (hmem : c ∈ cs) : toAscii? cs = none := by
  have hforbidden : isForbidden c = true := by
    simp [isForbidden, toNat_le_of_isOuterBlank h]
  have hmapped : c ∈ (if cs.all isAscii then cs.map Char.toLower else mapChars cs) := by
    split
    · exact List.mem_map.2 ⟨c, hmem, (toLower_of_blank h).2⟩
    · refine Text.Normal.mem_normalize_of_blank h (List.mem_flatMap.2 ⟨c, hmem, ?_⟩)
      have hle := toNat_le_of_isOuterBlank h
      have hnone : Mapping.of? c = none := by
        rw [Mapping.of?, (toLower_of_blank h).1, if_neg (by decide), if_pos (by omega)]
      rw [hnone]
      exact List.mem_singleton_self c
  rw [toAscii?, if_pos (List.any_eq_true.2 ⟨c, hmapped, hforbidden⟩)]

end Domain

namespace Percent

theorem hexValue?_of_blank (h : isOuterBlank c = true) : hexValue? c = none := by
  have hle := toNat_le_of_isOuterBlank h
  simp only [hexValue?]
  rw [if_neg, if_neg, if_neg] <;> omega

/-- A blank stands for itself among encoded bytes. -/
theorem mem_decode_of_blank (h : isOuterBlank c = true) (hmem : c ∈ cs) :
    c.toNat.toUInt8 ∈ decode cs := by
  have hascii : c.toNat < 0x80 := Nat.lt_of_le_of_lt (toNat_le_of_isOuterBlank h) (by decide)
  induction cs using decode.induct with
  | case1 => cases hmem
  | case2 a b rest high low hb ha ih =>
    have hne : c ≠ '%' ∧ c ≠ a ∧ c ≠ b := by
      refine ⟨ne_of_isOuterBlank h (by decide), ?_, ?_⟩ <;> rintro rfl
      · rw [hexValue?_of_blank h] at ha
        cases ha
      · rw [hexValue?_of_blank h] at hb
        cases hb
    rw [decode, ha, hb]
    exact List.mem_cons_of_mem _ (ih (by simpa [hne.1, hne.2] using hmem))
  | case3 a b rest hnone ih =>
    have hne : c ≠ '%' := ne_of_isOuterBlank h (by decide)
    have hrest := ih ((List.mem_cons.1 hmem).resolve_left hne)
    rw [decode]
    split
    · rename_i high low ha hb
      exact absurd hb (hnone high low ha)
    · exact List.mem_cons_of_mem _ hrest
  | case4 d rest hnone ih =>
    rw [decode, List.mem_append]
    · rcases List.mem_cons.1 hmem with rfl | hmem
      · left
        rw [Utf8.encode_eq_flatMap, String.toList_singleton, List.flatMap_singleton,
          Utf8.encode_ascii hascii]
        exact List.mem_singleton_self _
      · exact .inr (ih hmem)
    · exact hnone

/-- Resolving encoded bytes takes no blank away. -/
theorem mem_of_decodeText? {s : String} (h : isOuterBlank c = true) (hmem : c ∈ cs)
    (hdecode : decodeText? cs = some s) : c ∈ s.toList := by
  have hascii : c.toNat < 0x80 := Nat.lt_of_le_of_lt (toNat_le_of_isOuterBlank h) (by decide)
  refine Utf8.mem_of_mem_encode hascii ?_
  rw [Utf8.encode_of_decode? hdecode]
  exact mem_decode_of_blank h hmem

end Percent

/-! ## Hosts and authorities -/

namespace Host

/-- A host that ends in a blank is refused. -/
theorem parse_of_blank {kind : Scheme} (hkind : kind.isSpecial = true)
    (hlast : cs.getLast? = some c) (h : isOuterBlank c = true) (host : Host) :
    Host.parse kind cs ≠ .ok host := by
  have hmem : c ∈ cs := List.mem_of_getLast? hlast
  have hdomain : ∀ host, parseDomain cs ≠ .ok host := by
    intro host hparse
    have hnone : (Percent.decodeText? cs).bind (fun s => Domain.toAscii? s.toList) = none := by
      cases hdecode : Percent.decodeText? cs with
      | none => rfl
      | some s => exact Domain.toAscii?_of_blank h (Percent.mem_of_decodeText? h hmem hdecode)
    rw [parseDomain, hnone] at hparse
    cases hparse
  intro hparse
  unfold Host.parse at hparse
  split at hparse
  · rename_i rest
    -- Behind the opening bracket the last character is the blank, and not the closing bracket.
    have hclosing : rest.getLast? ≠ some ']' := by
      intro hclosing
      rw [List.getLast?_cons, hclosing] at hlast
      cases hlast
      cases h
    unfold parseBracketed at hparse
    split at hparse
    · rename_i hend
      exact hclosing hend
    · cases hparse
  · rw [if_pos hkind] at hparse
    exact hdomain host hparse

end Host

/-- A host and what follows it make up the text. -/
theorem spanHost_append (inBrackets : Bool) (cs : List Char) :
    (spanHost inBrackets cs).1 ++ (spanHost inBrackets cs).2 = cs := by
  induction cs generalizing inBrackets with
  | nil => rfl
  | cons c cs ih =>
    rw [spanHost]
    split
    · rfl
    · simp [ih]

/-- What follows a host starts with a colon. -/
theorem head?_spanHost (inBrackets : Bool) (cs : List Char) :
    ∀ c ∈ (spanHost inBrackets cs).2.head?, c = ':' := by
  induction cs generalizing inBrackets with
  | nil => simp [spanHost]
  | cons c cs ih =>
    rw [spanHost]
    split
    · rename_i hcolon
      simp [hcolon.1]
    · exact ih _

/-- A port with a blank is refused. -/
theorem parsePort_of_blank {kind : Scheme} (h : isOuterBlank c = true) (hmem : c ∈ cs)
    (port? : Option Nat) : parsePort kind cs ≠ .ok port? := by
  have hdigit : c.isDigit = false := by
    have hval : c.val.toNat ≤ 0x20 := toNat_le_of_isOuterBlank h
    have hsmall : ¬c.val ≥ '0'.val := by
      rw [ge_iff_le, UInt32.le_iff_toNat_le, show '0'.val.toNat = 48 from rfl]
      omega
    rw [Char.isDigit, decide_eq_false hsmall]
    rfl
  have hall : cs.all Char.isDigit = false :=
    List.all_eq_false.2 ⟨c, hmem, by simp [hdigit]⟩
  intro hparse
  rw [parsePort, hall] at hparse
  cases hparse

namespace Authority

variable {kind : Scheme}

/-- An authority that ends in a blank is refused, be the blank in the name or in the port. -/
theorem parseHost_of_blank (hkind : kind.isSpecial = true) (hlast : cs.getLast? = some c)
    (h : isOuterBlank c = true) (read : Host × Option Nat) : parseHost kind cs ≠ .ok read := by
  intro hparse
  have hspan := spanHost_append false cs
  have hcolon := head?_spanHost false cs
  unfold parseHost at hparse
  generalize spanHost false cs = span at hspan hcolon hparse
  obtain ⟨host, rest⟩ := span
  dsimp only at hspan hcolon hparse
  split at hparse
  · cases hparse
  · cases hhost : Host.parse kind host with
    | error error =>
      rw [hhost] at hparse
      cases hparse
    | ok name =>
      cases hport : parsePort kind (rest.drop 1) with
      | error error =>
        rw [hhost, hport] at hparse
        cases hparse
      | ok port? =>
        -- The blank is at the end of the host or of the port.
        cases rest with
        | nil =>
          rw [List.append_nil] at hspan
          exact Host.parse_of_blank hkind (hspan ▸ hlast) h name hhost
        | cons d port =>
          have hne : c ≠ d := by
            rw [hcolon d rfl]
            exact ne_of_isOuterBlank h (by decide)
          have hmem : c ∈ d :: port := by
            rw [← hspan, List.getLast?_append, List.getLast?_cons] at hlast
            exact List.mem_of_getLast? (by simpa [List.getLast?_cons] using hlast)
          exact parsePort_of_blank h ((List.mem_cons.1 hmem).resolve_left hne) port? hport

/-- **No authority of a web address ends in a blank.** -/
theorem not_blank_of_parse {authority : Authority} (hkind : kind.isSpecial = true)
    (hparse : Authority.parse kind cs = .ok authority) :
    ∀ c ∈ cs.getLast?, isOuterBlank c = false := by
  intro c hlast
  refine Bool.eq_false_iff.2 fun h => ?_
  have hrefused : ∀ {ds : List Char}, ds.getLast? = some c →
      ∃ error, parseHost kind ds = .error error := by
    intro ds hds
    cases hread : parseHost kind ds with
    | error error => exact ⟨error, rfl⟩
    | ok read => exact absurd hread (parseHost_of_blank hkind hds h read)
  have hsplit : ∀ {userinfo rest : List Char}, splitUserinfo cs = some (userinfo, rest) →
      rest.getLast? = some c := by
    intro userinfo rest hsplit
    unfold splitUserinfo at hsplit
    split at hsplit
    · cases hsplit
      cases hreverse : cs.reverse with
      | nil =>
        rw [List.reverse_eq_nil_iff.1 hreverse] at hlast
        cases hlast
      | cons d ds =>
        obtain rfl : d = c := by
          rw [← List.head?_reverse, hreverse] at hlast
          exact Option.some.inj hlast
        have hne : d ≠ '@' := ne_of_isOuterBlank h (by decide)
        rw [List.takeWhile_cons, if_pos (by simpa using hne), List.getLast?_reverse]
        rfl
    · cases hsplit
  -- With user info or without, what is read as the host ends as the whole text does.
  unfold Authority.parse at hparse
  split at hparse
  · obtain ⟨error, herror⟩ := hrefused hlast
    rw [herror] at hparse
    cases hparse
  · rename_i rest heq
    obtain ⟨error, herror⟩ := hrefused (hsplit heq)
    rw [herror] at hparse
    split at hparse <;> cases hparse
  · rename_i userinfo rest _ heq
    obtain ⟨error, herror⟩ := hrefused (hsplit heq)
    rw [herror] at hparse
    cases hparse

end Authority

end CloudTenancy

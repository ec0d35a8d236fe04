import BrowserPolicy.Proofs.Header.LegacyLanguage
import BrowserPolicy.Proofs.Header.StructuredDecoding

namespace BrowserPolicy.Compile

open AllowList Grammar

theorem isDoubleQuoted_of_mem_reserved {token : String}
    (h : token ∈ Grammar.feature.reserved) : isDoubleQuoted token = false := by
  have hall : ∀ token ∈ Grammar.feature.reserved, isDoubleQuoted token = false := by
    decide
  exact hall token h

/-- A bare origin holds no double quote. -/
theorem not_isBareOrigin_of_isDoubleQuoted {token : String} (h : isDoubleQuoted token = true) :
    ¬ isBareOrigin token = true := by
  intro hbare
  obtain ⟨inner, htoken, -⟩ := isDoubleQuoted_iff.1 h
  have hquote : '"' ∈ token.toList := by simp [htoken]
  have hsplits := (isBareOrigin_iff.1 hbare).2 '"' hquote
  exact absurd hsplits (by decide)

/-- Double quotes rule out a bare origin, and the keywords of the dialects differ in all but the
wildcard. -/
theorem eq_wildcard_of_accepts {token : String} (hnew : Grammar.permissions.Accepts token)
    (hold : Grammar.feature.Accepts token) : token = "*" := by
  rcases hnew.reserved_or_quoted with hreserved | hquoted
  · -- The keywords of the newer dialect, the wildcard apart, are those that the older one refuses.
    have hbare : ∀ token ∈ Grammar.permissions.reserved,
        token = "*" ∨ ∃ row ∈ Grammar.feature.misquoted, row.form = token := by
      decide
    rcases hbare token hreserved with hwildcard | ⟨row, hrow, hform⟩
    · exact hwildcard
    · exact absurd hform (hold.not_misquoted row hrow)
  · rcases hold.reserved_or_quoted with hkeyword | hbare
    · have hplain : ¬ isDoubleQuoted token = true := by
        rw [isDoubleQuoted_of_mem_reserved hkeyword]
        decide
      exact absurd hquoted hplain
    · exact absurd hbare (not_isBareOrigin_of_isDoubleQuoted hquoted)

theorem accepts_wildcard (dialect : Dialect) : dialect.grammar.Accepts "*" := by
  cases dialect with
  | permissions => exact ⟨by decide, Or.inl (by decide)⟩
  | feature => exact ⟨by decide, Or.inl (by decide)⟩

theorem allowed_both_iff {tokens : List String} :
    Allowed Grammar.permissions tokens ∧ Allowed Grammar.feature tokens ↔
      tokens = [] ∨ tokens = ["*"] := by
  constructor
  · intro h
    obtain ⟨hnew, hold⟩ := h
    have hwildcard : ∀ token ∈ tokens, token = "*" := by
      intro token htoken
      exact eq_wildcard_of_accepts (hnew.accepts token htoken) (hold.accepts token htoken)
    match tokens, hnew.nodup with
    | [], _ => exact Or.inl rfl
    | [token], _ => exact Or.inr (by rw [hwildcard token (by simp)])
    | first :: second :: _, hnodup =>
      have hsame : first = second := by
        rw [hwildcard first (by simp), hwildcard second (by simp)]
      simp [hsame] at hnodup
  · intro h
    have hdialect (dialect : Dialect) : Allowed dialect.grammar tokens := by
      rcases h with rfl | rfl
      · exact ⟨by simp, by simp, by simp⟩
      · exact ⟨by simp, by simpa using accepts_wildcard dialect, by simp⟩
    exact ⟨hdialect .permissions, hdialect .feature⟩

/-- The table of the older dialect spells its features as the newer one does. -/
theorem eq_dashify_of_mem_legacyFeatures {row : String × String} (h : row ∈ legacyFeatures) :
    row.2 = dashify row.1 := by
  have hall : ∀ row ∈ legacyFeatures, row.2 = dashify row.1 := by
    decide +kernel
  exact hall row h

def InCommon (e : String × Value) : Prop :=
  e.1 ∈ legacyFeatures.map Prod.fst ∧ (e.2 = .array [] ∨ e.2 = .array [.string "*"])

theorem inCommon_of_states {e : String × Value} {new old : String × List String}
    (hnew : States Grammar.permissions e new) (hold : States Grammar.feature e old) :
    InCommon e := by
  obtain ⟨-, hlist, hallowed⟩ := hnew
  obtain ⟨hspells, hlist', hallowed'⟩ := hold
  have htokens : new.2 = old.2 := stated_tokens_eq (hlist.symm.trans hlist')
  rw [← htokens] at hallowed'
  refine ⟨List.mem_map_of_mem (KeyVocabulary.mem_of_spells hspells), ?_⟩
  rw [hlist]
  rcases allowed_both_iff.1 ⟨hallowed, hallowed'⟩ with htokens | htokens
  · exact Or.inl (by rw [htokens]; rfl)
  · exact Or.inr (by rw [htokens]; rfl)

/-- Either dialect states a member in common under its dashed key. -/
theorem InCommon.states {e : String × Value} (h : InCommon e) (dialect : Dialect) :
    ∃ tokens, (tokens = [] ∨ tokens = ["*"]) ∧
      States dialect.grammar e (dashify e.1, tokens) := by
  obtain ⟨hlisted, hvalue⟩ := h
  have hspells : dialect.grammar.keys.Spells e.1 (dashify e.1) := by
    cases dialect with
    | permissions => exact .unrestricted e.1
    | feature =>
      obtain ⟨row, hrow, hname⟩ := List.mem_map.1 hlisted
      have hspells := Header.Legacy.spells_of_mem_legacyFeatures hrow
      rwa [eq_dashify_of_mem_legacyFeatures hrow, hname] at hspells
  have hallowed (tokens : List String) (htokens : tokens = [] ∨ tokens = ["*"]) :
      Allowed dialect.grammar tokens := by
    obtain ⟨hnew, hold⟩ := allowed_both_iff.2 htokens
    cases dialect with
    | permissions => exact hnew
    | feature => exact hold
  rcases hvalue with hvalue | hvalue
  · exact ⟨[], Or.inl rfl, hspells, hvalue, hallowed _ (Or.inl rfl)⟩
  · exact ⟨["*"], Or.inr rfl, hspells, hvalue, hallowed _ (Or.inr rfl)⟩

theorem exists_compiled_by_both_iff {v : Value} :
    (∃ p, (compileFeatures .permissions v).outcome = .ok p) ∧
        (∃ p, (compileFeatures .feature v).outcome = .ok p) ↔
      ∃ members, v = .object members ∧ members ≠ [] ∧ ∀ e ∈ members, InCommon e := by
  rw [exists_compiled_iff, exists_compiled_iff]
  constructor
  · intro h
    obtain ⟨⟨members, rfl, hne, hnew⟩, ⟨_, hmembers, -, hold⟩⟩ := h
    cases hmembers
    refine ⟨members, rfl, hne, ?_⟩
    intro e he
    obtain ⟨new, hnew⟩ := hnew e he
    obtain ⟨old, hold⟩ := hold e he
    exact inCommon_of_states hnew hold
  · intro h
    obtain ⟨members, rfl, hne, hcommon⟩ := h
    have hdialect (dialect : Dialect) : ∃ members', Value.object members = .object members' ∧
        members' ≠ [] ∧ ∀ e ∈ members', ∃ stated, States dialect.grammar e stated := by
      refine ⟨members, rfl, hne, ?_⟩
      intro e he
      obtain ⟨tokens, -, hstates⟩ := (hcommon e he).states dialect
      exact ⟨_, hstates⟩
    exact ⟨hdialect .permissions, hdialect .feature⟩

/-- The key is that of a listed feature, and the list is one that both dialects take. -/
structure StatedInCommon (stated : String × List String) : Prop where
  listed : ∃ row ∈ legacyFeatures, stated.1 = dashify row.1
  tokens : stated.2 = [] ∨ stated.2 = ["*"]

theorem InCommon.stated {e : String × Value} (h : InCommon e) {dialect : Dialect}
    {stated : String × List String} (hstates : States dialect.grammar e stated) :
    stated.1 = dashify e.1 ∧ StatedInCommon stated := by
  obtain ⟨tokens, htokens, hstates'⟩ := h.states dialect
  obtain rfl : stated = (dashify e.1, tokens) := states_unique hstates hstates'
  obtain ⟨row, hrow, hname⟩ := List.mem_map.1 h.1
  exact ⟨rfl, ⟨row, hrow, congrArg dashify hname.symm⟩, htokens⟩

theorem isIdentifier_of_mem_legacyFeatures {row : String × String} (h : row ∈ legacyFeatures) :
    Header.Structured.IsIdentifier row.1 := by
  have hall : ∀ row ∈ legacyFeatures,
      row.1 ≠ "" ∧ (row.1.toList.all fun c => c.isAlphanum) = true := by
    decide +kernel
  obtain ⟨hne, hletters⟩ := hall row h
  exact ⟨hne, List.all_eq_true.1 hletters⟩

/-- Of its punctuation an entry of the newer dialect has only the sign behind its key. -/
theorem StatedInCommon.structured_entry {stated : String × List String}
    (h : StatedInCommon stated) :
    ',' ∉ (Header.renderEntry Grammar.permissions stated.1 stated.2).toList ∧
      '"' ∉ (Header.renderEntry Grammar.permissions stated.1 stated.2).toList ∧
      (Header.Structured.splitFeature?
        (Header.renderEntry Grammar.permissions stated.1 stated.2).toList).map
          (fun parts => String.ofList parts.1) = some stated.1 := by
  obtain ⟨⟨row, hrow, hkey⟩, htokens⟩ := h
  have hpunctuation (c : Char) (halphanum : c.isAlphanum = false) (hdash : c ≠ '-') :
      c ∉ stated.1.toList := by
    rw [hkey]
    have hidentifier := isIdentifier_of_mem_legacyFeatures hrow
    exact Header.Structured.not_mem_dashify hidentifier halphanum hdash
  have hcomma := hpunctuation ',' (by decide) (by decide)
  have hquote := hpunctuation '"' (by decide) (by decide)
  have hequals := hpunctuation '=' (by decide) (by decide)
  have hinner : ',' ∉ (" ".intercalate stated.2).toList ∧
      '"' ∉ (" ".intercalate stated.2).toList := by
    rcases htokens with htokens | htokens <;> simp [htokens]
  rw [Header.Structured.toList_renderEntry, Header.Structured.splitFeature?_append hequals]
  generalize (" ".intercalate stated.2).toList = inner at hinner
  simp [hcomma, hquote, hinner]

/-- An entry of the older dialect has no semicolon, and its first word is the key. -/
theorem StatedInCommon.legacy_entry {stated : String × List String} (h : StatedInCommon stated) :
    ';' ∉ (Header.renderEntry Grammar.feature stated.1 stated.2).toList ∧
      (Header.Legacy.words
        (Header.renderEntry Grammar.feature stated.1 stated.2).toList).head? = some stated.1 := by
  obtain ⟨⟨row, hrow, hkey⟩, htokens⟩ := h
  have hword : Header.Legacy.IsWord stated.1 := by
    rw [hkey, ← eq_dashify_of_mem_legacyFeatures hrow]
    exact Header.Legacy.isWord_of_mem_legacyFeatures hrow
  have hallowed : Allowed Grammar.feature stated.2 := (allowed_both_iff.2 htokens).2
  obtain ⟨hend, hwords⟩ := Header.Legacy.words_renderEntry hword
    (Header.Legacy.isWord_of_mem_spelledOut hallowed.accepts)
  rw [hwords]
  exact ⟨hend, rfl⟩

theorem structured_keys?_of_stated {stated : List (String × List String)} (hne : stated ≠ [])
    (h : ∀ w ∈ stated, StatedInCommon w) :
    Header.Structured.keys? (", ".intercalate
      (stated.map fun w => Header.renderEntry Grammar.permissions w.1 w.2)) =
      some (stated.map Prod.fst) := by
  have hpieces : Header.Structured.Pieces [',', ' '] false
      (stated.map fun w => (Header.renderEntry Grammar.permissions w.1 w.2).toList) := by
    rw [Header.Structured.pieces_false_iff]
    refine ⟨by simpa using hne, List.forall_mem_map.2 ?_, ?_⟩
    · intro w hw
      exact Header.Structured.unbroken_of_not_mem (h w hw).structured_entry.1
    · intro text htext
      obtain ⟨w, hw, rfl⟩ := List.mem_map.1 (List.mem_of_mem_dropLast htext)
      exact Header.Structured.insideAfter_of_not_mem (h w hw).structured_entry.2.1
  have hentries : Header.Structured.entries (", ".intercalate
      (stated.map fun w => Header.renderEntry Grammar.permissions w.1 w.2)) =
      stated.map fun w => (Header.renderEntry Grammar.permissions w.1 w.2).toList := by
    have hcomma : (", " : String).toList = [',', ' '] := rfl
    rw [Header.Structured.entries, String.toList_intercalate, hcomma, List.map_map]
    exact (Header.Structured.splitOutside_intercalate_iff (by decide)).2 hpieces
  rw [Header.Structured.keys?, hentries, mapM_eq_some_iff_forall₂,
    List.forall₂_map_left_iff, List.forall₂_map_right_iff, List.forall₂_same]
  intro w hw
  exact (h w hw).structured_entry.2.2

theorem legacy_keys?_of_stated {stated : List (String × List String)} (hne : stated ≠ [])
    (h : ∀ w ∈ stated, StatedInCommon w) :
    Header.Legacy.keys? (";".intercalate
      (stated.map fun w => Header.renderEntry Grammar.feature w.1 w.2)) =
      some (stated.map Prod.fst) := by
  have hsemicolon : ∀ text ∈ stated.map (fun w => Header.renderEntry Grammar.feature w.1 w.2),
      ';' ∉ text.toList := by
    refine List.forall_mem_map.2 ?_
    intro w hw
    exact (h w hw).legacy_entry.1
  rw [Header.Legacy.keys?, Header.splitOn_toList_intercalate rfl (by simpa using hne) hsemicolon,
    mapM_eq_some_iff_forall₂, List.map_map, List.forall₂_map_left_iff, List.forall₂_map_right_iff,
    List.forall₂_same]
  intro w hw
  exact (h w hw).legacy_entry.2

/-- The header of either dialect states the dashed keys of the features in common, in order. -/
theorem exists_stated_in_common {members : List (String × Value)}
    (hcommon : ∀ e ∈ members, InCommon e) {dialect : Dialect} {p : CompiledPolicy}
    (h : (compileFeatures dialect (.object members)).outcome = .ok p) :
    ∃ stated, stated ≠ [] ∧ (∀ w ∈ stated, StatedInCommon w) ∧
      stated.map Prod.fst = members.map (fun e => dashify e.1) ∧
      p.value = dialect.grammar.entrySeparator.intercalate
        (stated.map fun w => Header.renderEntry dialect.grammar w.1 w.2) := by
  obtain ⟨_, hmembers, hne, -⟩ := exists_compiled_iff.1 ⟨p, h⟩
  cases hmembers
  obtain ⟨stated, hstated, hvalue⟩ := exists_stated_of_compileFeatures h
  have hboth : List.Forall₂ (fun (w : String × List String) (e : String × Value) =>
      w.1 = dashify e.1 ∧ StatedInCommon w) stated members := by
    apply List.Forall₂.flip
    apply ((List.forall₂_and_left _ _).2 ⟨hcommon, hstated⟩).imp
    intro e w hew
    exact hew.1.stated hew.2
  refine ⟨stated, ?_, forall_mem_of_forall₂ hboth fun w e hwe => hwe.2, ?_, hvalue⟩
  · rintro rfl
    exact hne (List.forall₂_nil_right_iff.1 hstated)
  · rw [map_eq_map_iff_forall₂]
    exact hboth.imp fun w e hwe => hwe.1

theorem keys_of_compiled_by_both {members : List (String × Value)}
    (hcommon : ∀ e ∈ members, InCommon e) {p q : CompiledPolicy}
    (hp : (compileFeatures .permissions (.object members)).outcome = .ok p)
    (hq : (compileFeatures .feature (.object members)).outcome = .ok q) :
    Header.Structured.keys? p.value = some (members.map fun e => dashify e.1) ∧
      Header.Legacy.keys? q.value = some (members.map fun e => dashify e.1) := by
  constructor
  · obtain ⟨stated, hne, hstated, hkeys, hvalue⟩ := exists_stated_in_common hcommon hp
    rw [hvalue, ← hkeys]
    exact structured_keys?_of_stated hne hstated
  · obtain ⟨stated, hne, hstated, hkeys, hvalue⟩ := exists_stated_in_common hcommon hq
    rw [hvalue, ← hkeys]
    exact legacy_keys?_of_stated hne hstated

/-- Both dialects compile an object exactly when it gives listed features to nobody or to everyone.
The two headers then list the same dashed keys in the same order. No token but the wildcard passes
in both dialects. -/
theorem dialects_share_wildcard_policies_only (v : Value) :
    ((∃ p, (compileFeatures .permissions v).outcome = .ok p) ∧
        (∃ p, (compileFeatures .feature v).outcome = .ok p) ↔
      ∃ members, v = .object members ∧ members ≠ [] ∧
        ∀ e ∈ members, e.1 ∈ legacyFeatures.map Prod.fst ∧
          (e.2 = .array [] ∨ e.2 = .array [.string "*"])) ∧
      (∀ p q, (compileFeatures .permissions v).outcome = .ok p →
        (compileFeatures .feature v).outcome = .ok q →
        ∃ members, v = .object members ∧
          Header.Structured.keys? p.value = some (members.map fun e => dashify e.1) ∧
          Header.Legacy.keys? q.value = some (members.map fun e => dashify e.1)) ∧
      ∀ feature feature' raw raw' tokens tokens',
        validate Grammar.permissions feature raw = .ok tokens →
        validate Grammar.feature feature' raw' = .ok tokens' →
        ∀ token ∈ tokens, token ∈ tokens' → token = "*" := by
  refine ⟨exists_compiled_by_both_iff, ?_, ?_⟩
  · intro p q hp hq
    obtain ⟨members, rfl, -, hcommon⟩ := exists_compiled_by_both_iff.1 ⟨⟨p, hp⟩, ⟨q, hq⟩⟩
    exact ⟨members, rfl, keys_of_compiled_by_both hcommon hp hq⟩
  · intro feature feature' raw raw' tokens tokens' hnew hold token htoken htoken'
    exact eq_wildcard_of_accepts ((validate_eq_ok_iff.1 hnew).2.accepts token htoken)
      ((validate_eq_ok_iff.1 hold).2.accepts token htoken')

theorem dialects_share_syncXhr_for_everyone :
    (compileFeatures .permissions
        (.object [("syncXhr", .array [.string "*"]), ("usb", .array [])])).outcome =
      .ok ⟨.permissions, "sync-xhr=(*), usb=()"⟩ ∧
    (compileFeatures .feature
        (.object [("syncXhr", .array [.string "*"]), ("usb", .array [])])).outcome =
      .ok ⟨.feature, "sync-xhr *;usb 'none'"⟩ ∧
    Header.Structured.keys? "sync-xhr=(*), usb=()" = some ["sync-xhr", "usb"] ∧
    Header.Legacy.keys? "sync-xhr *;usb 'none'" = some ["sync-xhr", "usb"] := by
  have hp : (compileFeatures .permissions
      (.object [("syncXhr", .array [.string "*"]), ("usb", .array [])])).outcome =
      .ok ⟨.permissions, "sync-xhr=(*), usb=()"⟩ := by decide
  have hq : (compileFeatures .feature
      (.object [("syncXhr", .array [.string "*"]), ("usb", .array [])])).outcome =
      .ok ⟨.feature, "sync-xhr *;usb 'none'"⟩ := by decide
  have hdashed : ([("syncXhr", Value.array [.string "*"]), ("usb", .array [])].map
      fun e => dashify e.1) = ["sync-xhr", "usb"] := by decide
  obtain ⟨-, hkeys, -⟩ := dialects_share_wildcard_policies_only
    (.object [("syncXhr", .array [.string "*"]), ("usb", .array [])])
  obtain ⟨members, hmembers, hnew, hold⟩ := hkeys _ _ hp hq
  cases hmembers
  exact ⟨hp, hq, hnew.trans (congrArg some hdashed), hold.trans (congrArg some hdashed)⟩

end BrowserPolicy.Compile

import BrowserPolicy.Header.Reading
import BrowserPolicy.Proofs.Compile.Accepted
import BrowserPolicy.Proofs.Header.Pieces

namespace BrowserPolicy.Compile

open AllowList Grammar

/-- The entry of an object as a header states it: a key and its tokens. -/
def States (g : Grammar) (e : String × Value) (stated : String × List String) : Prop :=
  g.keys.Spells e.1 stated.1 ∧ e.2 = .array (stated.2.map .string) ∧ Allowed g stated.2

theorem entry_ofValue_eq_ok_iff {g : Grammar} {e : String × Value} {text : String} :
    entry g e.1 (RawList.ofValue e.2) = .ok text ↔
      ∃ w, States g e w ∧ text = Header.renderEntry g w.1 w.2 := by
  rw [entry_eq_ok_iff]
  simp only [ofValue_eq_ofTokens_iff]
  constructor
  · intro h
    obtain ⟨key, tokens, hspells, htokens, hallowed, rfl⟩ := h
    exact ⟨(key, tokens), ⟨hspells, htokens, hallowed⟩, rfl⟩
  · intro h
    obtain ⟨w, ⟨hspells, htokens, hallowed⟩, rfl⟩ := h
    exact ⟨w.1, w.2, hspells, htokens, hallowed, rfl⟩

theorem renderEntry_eq_empty_iff {g : Grammar} {key : String} {tokens : List String} :
    Header.renderEntry g key tokens = "" ↔
      g.valueWrap = .bare ∧ g.valueSeparator = "" ∧ key = "" ∧
        (tokens = [] ∧ g.noneKeyword = "" ∨ tokens ≠ [] ∧ ∀ token ∈ tokens, token = "") := by
  cases hwrap : g.valueWrap with
  | parenthesized => simp [Header.renderEntry, hwrap]
  | bare =>
    simp only [Header.renderEntry, hwrap, String.append_eq_empty_iff, true_and]
    cases tokens with
    | nil => simp [and_left_comm, and_assoc]
    | cons token rest =>
      -- The separator also stands between the tokens, and is empty there as well.
      simp only [List.isEmpty_cons, Bool.false_eq_true, if_false, Header.intercalate_eq_empty_iff]
      tauto

/-- An entry of a built-in dialect always has a sign of its own. -/
theorem renderEntry_ne_empty (dialect : Dialect) (key : String) (tokens : List String) :
    Header.renderEntry dialect.grammar key tokens ≠ "" := by
  intro hempty
  obtain ⟨hwrap, hseparator, -⟩ := renderEntry_eq_empty_iff.1 hempty
  cases dialect with
  | permissions => cases hwrap
  | feature => exact absurd hseparator (by decide)

/-- An object compiles exactly when it has members and each of them can be stated; its header is
the join of what states them. -/
theorem compileFeatures_eq_ok_iff_states {dialect : Dialect} {members : List (String × Value)}
    {p : CompiledPolicy} :
    (compileFeatures dialect (.object members)).outcome = .ok p ↔
      p.dialect = dialect ∧ members ≠ [] ∧
        ∃ stated, List.Forall₂ (States dialect.grammar) members stated ∧
          p.value = dialect.grammar.entrySeparator.intercalate
            (stated.map fun w => Header.renderEntry dialect.grammar w.1 w.2) := by
  simp only [compileFeatures_object, finish_outcome_eq_ok_iff, headerText_eq_ok_iff_forall₂,
    List.forall₂_map_left_iff, entry_ofValue_eq_ok_iff, forall₂_exists_map_iff, ne_eq,
    List.map_eq_nil_iff]
  constructor
  · intro h
    obtain ⟨hdialect, hne, -, _, ⟨stated, hstated, rfl⟩, hvalue⟩ := h
    exact ⟨hdialect, hne, stated, hstated, hvalue⟩
  · intro h
    obtain ⟨hdialect, hne, stated, hstated, hvalue⟩ := h
    refine ⟨hdialect, hne, ?_, _, ⟨stated, hstated, rfl⟩, hvalue⟩
    cases hstated with
    | nil => exact absurd rfl hne
    | cons =>
      rw [hvalue]
      exact Header.intercalate_cons_ne_empty (renderEntry_ne_empty dialect _ _) _

theorem exists_stated_of_compileFeatures {dialect : Dialect} {members : List (String × Value)}
    {p : CompiledPolicy} (h : (compileFeatures dialect (.object members)).outcome = .ok p) :
    ∃ stated, List.Forall₂ (States dialect.grammar) members stated ∧
      p.value = dialect.grammar.entrySeparator.intercalate
        (stated.map fun w => Header.renderEntry dialect.grammar w.1 w.2) := by
  obtain ⟨-, -, hstated⟩ := compileFeatures_eq_ok_iff_states.1 h
  exact hstated

theorem stated_tokens_eq {tokens tokens' : List String}
    (h : Value.array (tokens.map .string) = .array (tokens'.map .string)) : tokens = tokens' := by
  have hinjective : Function.Injective Value.string := fun a b hab => Value.string.inj hab
  exact List.map_injective_iff.2 hinjective (Value.array.inj h)

theorem states_unique {g : Grammar} {e : String × Value} {a b : String × List String}
    (ha : States g e a) (hb : States g e b) : a = b := by
  obtain ⟨hspells, hlist, -⟩ := ha
  obtain ⟨hspells', hlist', -⟩ := hb
  rw [← KeyVocabulary.normalize_eq_ok_iff] at hspells hspells'
  have hkey : a.1 = b.1 := Except.ok.inj (hspells.symm.trans hspells')
  exact Prod.ext hkey (stated_tokens_eq (hlist.symm.trans hlist'))

/-- An object compiles exactly when it has members and each of them can be stated on its own. -/
theorem exists_compiled_iff {dialect : Dialect} {v : Value} :
    (∃ p, (compileFeatures dialect v).outcome = .ok p) ↔
      ∃ members, v = .object members ∧ members ≠ [] ∧
        ∀ e ∈ members, ∃ stated, States dialect.grammar e stated := by
  constructor
  · intro h
    obtain ⟨p, hp⟩ := h
    obtain ⟨members, rfl, -⟩ := compileFeatures_outcome_eq_ok_iff.1 hp
    obtain ⟨-, hne, stated, hstated, -⟩ := compileFeatures_eq_ok_iff_states.1 hp
    exact ⟨members, rfl, hne, exists_forall₂_iff.1 ⟨stated, hstated⟩⟩
  · intro h
    obtain ⟨members, rfl, hne, hmembers⟩ := h
    obtain ⟨stated, hstated⟩ := exists_forall₂_iff.2 hmembers
    exact ⟨⟨dialect, _⟩, compileFeatures_eq_ok_iff_states.2 ⟨rfl, hne, stated, hstated, rfl⟩⟩

/-- In the older dialect a key belongs to one feature and a feature has one key. -/
theorem biUnique_spells_legacyFeatures :
    Relator.BiUnique (KeyVocabulary.listed legacyFeatures).Spells := by
  constructor
  · intro a b dashed ha hb
    have hleft := Header.Legacy.featureOfKey?_of_mem (KeyVocabulary.mem_of_spells ha)
    have hright := Header.Legacy.featureOfKey?_of_mem (KeyVocabulary.mem_of_spells hb)
    apply Option.some.inj
    calc
      some a = Header.Legacy.featureOfKey? dashed := hleft.symm
      _ = some b := hright
  · intro key a b ha hb
    rw [← KeyVocabulary.normalize_eq_ok_iff] at ha hb
    exact Except.ok.inj (ha.symm.trans hb)

theorem nodup_legacy_keys {members : List (String × Value)} {stated : List (String × List String)}
    (h : List.Forall₂ (States Grammar.feature) members stated)
    (hmembers : (members.map Prod.fst).Nodup) : (stated.map Prod.fst).Nodup := by
  have hspells : List.Forall₂ (KeyVocabulary.listed legacyFeatures).Spells
      (members.map Prod.fst) (stated.map Prod.fst) := by
    rw [List.forall₂_map_left_iff, List.forall₂_map_right_iff]
    apply h.imp
    intro e w hstates
    exact hstates.1
  exact (List.rel_nodup biUnique_spells_legacyFeatures hspells).1 hmembers

/-- In the newer dialect it is the camel-case readings that have to differ. -/
theorem nodup_dashed_keys_iff {members : List (String × Value)}
    {stated : List (String × List String)}
    (h : List.Forall₂ (States Grammar.permissions) members stated) :
    (stated.map Prod.fst).Nodup ↔ (members.map fun e => undash e.1).Nodup := by
  have hkeys : stated.map Prod.fst = members.map fun e => dashify e.1 := by
    rw [map_eq_map_iff_forall₂]
    apply List.Forall₂.flip
    apply h.imp
    intro e w hstates
    exact KeyVocabulary.spells_unrestricted_iff.1 hstates.1
  rw [hkeys]
  unfold List.Nodup
  rw [List.pairwise_map, List.pairwise_map]
  simp only [ne_eq, dashify_eq_dashify_iff]

/-- A compiled header states no key twice exactly when it is one of the older dialect or no two of
its features are one in camel case. -/
theorem stated_keys_nodup_iff {dialect : Dialect} {members : List (String × Value)}
    {p : CompiledPolicy} (hmembers : (members.map Prod.fst).Nodup)
    (h : (compileFeatures dialect (.object members)).outcome = .ok p) :
    ∃ stated, List.Forall₂ (States dialect.grammar) members stated ∧
      p.value = dialect.grammar.entrySeparator.intercalate
        (stated.map fun w => Header.renderEntry dialect.grammar w.1 w.2) ∧
      ((stated.map Prod.fst).Nodup ↔
        dialect = .feature ∨ (members.map fun e => undash e.1).Nodup) := by
  obtain ⟨stated, hstated, hvalue⟩ := exists_stated_of_compileFeatures h
  refine ⟨stated, hstated, hvalue, ?_⟩
  cases dialect with
  | permissions => simpa using nodup_dashed_keys_iff hstated
  | feature => simpa using nodup_legacy_keys hstated hmembers

theorem stated_keys_nodup_of_camera_and_syncXhr :
    (compileFeatures .permissions
        (.object [("camera", .array []), ("syncXhr", .array [.string "*"])])).outcome =
      .ok ⟨.permissions, "camera=(), sync-xhr=(*)"⟩ ∧
    ∃ stated, List.Forall₂ (States Grammar.permissions)
        [("camera", .array []), ("syncXhr", .array [.string "*"])] stated ∧
      (stated.map Prod.fst).Nodup := by
  have h : (compileFeatures .permissions
      (.object [("camera", .array []), ("syncXhr", .array [.string "*"])])).outcome =
      .ok ⟨.permissions, "camera=(), sync-xhr=(*)"⟩ := by decide +kernel
  obtain ⟨stated, hstated, -, hnodup⟩ := stated_keys_nodup_iff (by decide) h
  exact ⟨h, stated, hstated, hnodup.2 (.inr (by decide +kernel))⟩

/-- Two features of one object can be stated under one key, with different lists. -/
theorem header_states_key_twice :
    (compileFeatures .permissions
        (.object [("aB", .array []), ("a-b", .array [.string "*"])])).outcome =
      .ok ⟨.permissions, "a-b=(), a-b=(*)"⟩ ∧
    ¬ ∀ (dialect : Dialect) (members : List (String × Value)) (p : CompiledPolicy)
        (stated : List (String × List String)), (members.map Prod.fst).Nodup →
      (compileFeatures dialect (.object members)).outcome = .ok p →
      List.Forall₂ (States dialect.grammar) members stated → (stated.map Prod.fst).Nodup := by
  have h : (compileFeatures .permissions
      (.object [("aB", .array []), ("a-b", .array [.string "*"])])).outcome =
      .ok ⟨.permissions, "a-b=(), a-b=(*)"⟩ := by decide +kernel
  refine ⟨h, fun hall => ?_⟩
  obtain ⟨stated, hstated, -⟩ := exists_stated_of_compileFeatures h
  have hnodup := hall _ _ _ _ (by decide) h hstated
  rw [nodup_dashed_keys_iff hstated] at hnodup
  exact absurd hnodup (by decide +kernel)

end BrowserPolicy.Compile

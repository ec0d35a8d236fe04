import BrowserPolicy.Proofs.Compile.HeaderKeys

namespace BrowserPolicy.Compile

open Entries

/-- Writing features down as an object changes neither their result nor its event. -/
theorem compileFeatures_toValue (dialect : Dialect) (m : FeatureMap) :
    compileFeatures dialect m.toValue = compile dialect m := by
  have hlists : (m.entries.map fun e => (e.1, Value.array (e.2.map .string))).map
      (fun e => (e.1, RawList.ofValue e.2)) =
      m.entries.map fun e => (e.1, RawList.ofTokens e.2) := by
    rw [List.map_map]
    apply List.map_congr_left
    intro e _
    exact congrArg (Prod.mk e.1) (ofValue_eq_ofTokens_iff.2 rfl)
  simp only [FeatureMap.toValue, compileFeatures_object, compile_eq, hlists, List.length_map,
    FeatureMap.size]

theorem compileOptions_of_mem {members : List (String × Value)} (hnames : (names members).Nodup)
    {features : Value} (h : ("features", features) ∈ members) (dialect : Dialect) :
    compileOptions dialect (.object members) = compileFeatures dialect features := by
  have hget : get? members "features" = some features := (get?_eq_some_iff hnames).2 h
  exact compileOptions_of_get? hget dialect

theorem exists_tokens_of_compileFeatures {dialect : Dialect} {members : List (String × Value)}
    {p : CompiledPolicy} (h : (compileFeatures dialect (.object members)).outcome = .ok p) :
    ∀ e ∈ members, ∃ tokens : List String, e.2 = .array (tokens.map .string) := by
  obtain ⟨stated, hstated, -⟩ := exists_stated_of_compileFeatures h
  refine forall_mem_of_forall₂ hstated ?_
  intro e w hstates
  exact ⟨w.2, hstates.2.1⟩

/-- An object that compiles writes features down. -/
theorem exists_toValue_of_compileFeatures {dialect : Dialect} {v : Value} (hv : v.KeysDistinct)
    {p : CompiledPolicy} (h : (compileFeatures dialect v).outcome = .ok p) :
    ∃ m : FeatureMap, v = m.toValue := by
  obtain ⟨members, rfl, -⟩ := compileFeatures_outcome_eq_ok_iff.1 h
  -- Every member that compiles is an array of strings, and these are the tokens of its feature.
  have htokens := exists_tokens_of_compileFeatures h
  choose! tokens htokens using htokens
  have hnames : names (members.map fun e => (e.1, tokens e)) = members.map Prod.fst := by
    simp [names]
  refine ⟨⟨members.map fun e => (e.1, tokens e), ?_⟩, ?_⟩
  · rw [hnames]
    exact hv.1
  · have hmember : ∀ e ∈ members, e = (e.1, Value.array ((tokens e).map .string)) := by
      intro e he
      exact congrArg (Prod.mk e.1) (htokens e he)
    rw [FeatureMap.toValue, List.map_map]
    exact congrArg Value.object (calc
      members = members.map id := (List.map_id _).symm
      _ = members.map fun e => (e.1, Value.array ((tokens e).map .string)) :=
        List.map_congr_left hmember)

theorem compileFeatures_eq_ok_iff_toValue {dialect : Dialect} {v : Value} (hv : v.KeysDistinct)
    {p : CompiledPolicy} :
    (compileFeatures dialect v).outcome = .ok p ↔
      ∃ m : FeatureMap, v = m.toValue ∧ (compile dialect m).outcome = .ok p := by
  constructor
  · intro h
    obtain ⟨m, rfl⟩ := exists_toValue_of_compileFeatures hv h
    rw [compileFeatures_toValue] at h
    exact ⟨m, rfl, h⟩
  · intro h
    obtain ⟨m, rfl, hm⟩ := h
    rwa [compileFeatures_toValue]

/-- A policy gives one result and one event, whether it comes as features, as the object that
writes them down or as a member of a larger object; and an object that compiles writes features
down. -/
theorem ways_in_agree (dialect : Dialect) :
    (∀ m : FeatureMap, compileFeatures dialect m.toValue = compile dialect m) ∧
      (∀ members features, (names members).Nodup → ("features", features) ∈ members →
        compileOptions dialect (.object members) = compileFeatures dialect features) ∧
      ∀ v p, v.KeysDistinct → ((compileFeatures dialect v).outcome = .ok p ↔
        ∃ m : FeatureMap, v = m.toValue ∧ (compile dialect m).outcome = .ok p) := by
  refine ⟨compileFeatures_toValue dialect, ?_, ?_⟩
  · intro members features hnames h
    exact compileOptions_of_mem hnames h dialect
  · intro v p hv
    exact compileFeatures_eq_ok_iff_toValue hv

theorem ways_in_agree_on_camera :
    compileOptions .permissions (.object [("version", .int 1),
        ("features", .object [("camera", .array [.string "self"])])]) =
      compileFeatures .permissions (.object [("camera", .array [.string "self"])]) ∧
    (compileFeatures .permissions (.object [("camera", .array [.string "self"])])).outcome =
      .ok ⟨.permissions, "camera=(self)"⟩ ∧
    ∃ m : FeatureMap, .object [("camera", .array [.string "self"])] = m.toValue ∧
      (compile .permissions m).outcome = .ok ⟨.permissions, "camera=(self)"⟩ := by
  obtain ⟨-, hoptions, hfeatures⟩ := ways_in_agree .permissions
  have hcompiled : (compileFeatures .permissions
      (.object [("camera", .array [.string "self"])])).outcome =
      .ok ⟨.permissions, "camera=(self)"⟩ := by decide +kernel
  have hdistinct : (Value.object [("camera", .array [.string "self"])]).KeysDistinct := by
    simp [Value.KeysDistinct, Value.membersDistinct, Value.itemsDistinct]
  refine ⟨hoptions _ _ (by decide) (by simp), hcompiled, ?_⟩
  exact (hfeatures _ _ hdistinct).1 hcompiled

end BrowserPolicy.Compile

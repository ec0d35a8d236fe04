import BrowserPolicy.Proofs.Compile.HeaderKeys

namespace BrowserPolicy

def FeatureMap.single (e : String × List String) : FeatureMap :=
  ⟨[e], by simp⟩

/-- The other policy has some of the features, in any order, each with some of its tokens, in any
order. -/
def FeatureMap.Leaves (m rest : FeatureMap) : Prop :=
  ∃ kept, List.Subperm kept m.entries ∧
    List.Forall₂ (fun e e' => e'.1 = e.1 ∧ List.Subperm e'.2 e.2) kept rest.entries

/-- A list that is allowed stays so in any order and without some of its tokens. -/
theorem AllowList.Allowed.of_subperm {g : Grammar} {tokens fewer : List String}
    (h : AllowList.Allowed g tokens) (hfewer : List.Subperm fewer tokens) :
    AllowList.Allowed g fewer where
  nodup := by
    obtain ⟨same, hperm, hsublist⟩ := hfewer
    have hsame : same.Nodup := h.nodup.sublist hsublist
    exact hperm.nodup_iff.1 hsame
  accepts token htoken := h.accepts token (hfewer.subset htoken)
  exclusive htwo := by
    have hlength := hfewer.length_le
    obtain ⟨hwildcard, hnone⟩ := h.exclusive (by omega)
    exact ⟨fun hmem => hwildcard (hfewer.subset hmem), fun hmem => hnone (hfewer.subset hmem)⟩

namespace Compile

theorem compile_single_eq_ok_iff {dialect : Dialect} {e : String × List String} {text : String} :
    (compile dialect (.single e)).outcome = .ok ⟨dialect, text⟩ ↔
      Writes dialect.grammar e text := by
  rw [compile_outcome_eq_ok_iff]
  constructor
  · intro h
    obtain ⟨-, -, -, texts, hall, htext⟩ := h
    obtain ⟨written, rest, hwrites, hnil, rfl⟩ := List.forall₂_cons_left_iff.1 hall
    obtain rfl := List.forall₂_nil_left_iff.1 hnil
    have hsame : text = written := by simpa using htext
    rwa [hsame]
  · intro h
    have hne : text ≠ "" := by
      obtain ⟨key, -, -, rfl⟩ := h
      exact renderEntry_ne_empty dialect key e.2
    have hentries : (FeatureMap.single e).entries ≠ [] := by simp [FeatureMap.single]
    exact ⟨rfl, hentries, hne, [text], .cons h .nil, by simp⟩

/-- A policy compiles exactly when it has features and each of them compiles alone; its header is
the join of theirs. -/
theorem compile_eq_ok_iff_singles {dialect : Dialect} {m : FeatureMap} {p : CompiledPolicy} :
    (compile dialect m).outcome = .ok p ↔
      p.dialect = dialect ∧ m.entries ≠ [] ∧
        ∃ texts, List.Forall₂ (fun e text =>
            (compile dialect (.single e)).outcome = .ok ⟨dialect, text⟩) m.entries texts ∧
          p.value = dialect.grammar.entrySeparator.intercalate texts := by
  have hsingle : (fun (e : String × List String) text =>
      (compile dialect (.single e)).outcome = .ok ⟨dialect, text⟩) = Writes dialect.grammar := by
    funext e text
    exact propext compile_single_eq_ok_iff
  rw [compile_outcome_eq_ok_iff, hsingle]
  constructor
  · intro h
    obtain ⟨hdialect, hne, -, htexts⟩ := h
    exact ⟨hdialect, hne, htexts⟩
  · intro h
    obtain ⟨hdialect, hne, texts, hall, hvalue⟩ := h
    refine ⟨hdialect, hne, ?_, texts, hall, hvalue⟩
    obtain ⟨e, more, hentries⟩ := List.exists_cons_of_ne_nil hne
    rw [hentries] at hall
    obtain ⟨first, rest, hwrites, -, rfl⟩ := List.forall₂_cons_left_iff.1 hall
    obtain ⟨key, -, -, rfl⟩ := hwrites
    rw [hvalue]
    exact Header.intercalate_cons_ne_empty (renderEntry_ne_empty dialect key e.2) rest

/-- A feature that compiles alone compiles with fewer tokens too. -/
theorem exists_compiled_single_of_subperm {dialect : Dialect} {e e' : String × List String}
    {text : String} (h : (compile dialect (.single e)).outcome = .ok ⟨dialect, text⟩)
    (hkey : e'.1 = e.1) (hfewer : List.Subperm e'.2 e.2) :
    ∃ text', (compile dialect (.single e')).outcome = .ok ⟨dialect, text'⟩ := by
  obtain ⟨key, hspells, hallowed, -⟩ := compile_single_eq_ok_iff.1 h
  refine ⟨Header.renderEntry dialect.grammar key e'.2, compile_single_eq_ok_iff.2 ?_⟩
  exact ⟨key, hkey ▸ hspells, hallowed.of_subperm hfewer, rfl⟩

theorem exists_compiled_single_of_leaves {dialect : Dialect} {m rest : FeatureMap}
    {p : CompiledPolicy} (h : (compile dialect m).outcome = .ok p) (hleaves : m.Leaves rest) :
    ∀ e ∈ rest.entries, ∃ text, (compile dialect (.single e)).outcome = .ok ⟨dialect, text⟩ := by
  obtain ⟨-, -, texts, hall, -⟩ := compile_eq_ok_iff_singles.1 h
  have heach := exists_forall₂_iff.1 ⟨texts, hall⟩
  obtain ⟨kept, hkept, htokens⟩ := hleaves
  -- What is left of a feature comes from a feature that was kept, and that compiles alone.
  have hboth : List.Forall₂ (fun e e' => (∃ text,
      (compile dialect (.single e)).outcome = .ok ⟨dialect, text⟩) ∧
        e'.1 = e.1 ∧ List.Subperm e'.2 e.2) kept rest.entries :=
    (List.forall₂_and_left _ _).2 ⟨fun e he => heach e (hkept.subset he), htokens⟩
  refine forall_mem_of_forall₂ hboth.flip ?_
  intro e' e hleft
  obtain ⟨⟨text, htext⟩, hkey, hfewer⟩ := hleft
  exact exists_compiled_single_of_subperm htext hkey hfewer

/-- What is left of a policy that compiles compiles too, as long as a feature is left: its header is
the join of the entries that its features compile to alone, in their order. -/
theorem rest_of_compiled_policy_compiles {dialect : Dialect} {m rest : FeatureMap}
    {p : CompiledPolicy} (h : (compile dialect m).outcome = .ok p) (hleaves : m.Leaves rest)
    (hsome : rest.entries ≠ []) :
    ∃ texts, List.Forall₂ (fun e text =>
        (compile dialect (.single e)).outcome = .ok ⟨dialect, text⟩) rest.entries texts ∧
      (compile dialect rest).outcome =
        .ok ⟨dialect, dialect.grammar.entrySeparator.intercalate texts⟩ := by
  have heach := exists_compiled_single_of_leaves h hleaves
  obtain ⟨texts, hall⟩ := exists_forall₂_iff.2 heach
  exact ⟨texts, hall, compile_eq_ok_iff_singles.2 ⟨rfl, hsome, texts, hall, rfl⟩⟩

/-- The features in another order, one of them gone and with it a token of another. -/
theorem rest_of_camera_policy_compiles :
    (compile .permissions (.ofList [("camera", ["self", "\"https://a.example\"", "src"]),
        ("syncXhr", ["*"]), ("usb", [])])).outcome =
      .ok ⟨.permissions, "camera=(self \"https://a.example\" src), sync-xhr=(*), usb=()"⟩ ∧
    (FeatureMap.ofList [("camera", ["self", "\"https://a.example\"", "src"]),
        ("syncXhr", ["*"]), ("usb", [])]).Leaves
      (.ofList [("usb", []), ("camera", ["\"https://a.example\"", "self"])]) ∧
    ∃ texts, List.Forall₂ (fun e text =>
        (compile .permissions (.single e)).outcome = .ok ⟨.permissions, text⟩)
        [("usb", []), ("camera", ["\"https://a.example\"", "self"])] texts ∧
      (compile .permissions
        (.ofList [("usb", []), ("camera", ["\"https://a.example\"", "self"])])).outcome =
          .ok ⟨.permissions, ", ".intercalate texts⟩ := by
  have hcompiled : (compile .permissions (.ofList [("camera",
      ["self", "\"https://a.example\"", "src"]), ("syncXhr", ["*"]), ("usb", [])])).outcome =
      .ok ⟨.permissions, "camera=(self \"https://a.example\" src), sync-xhr=(*), usb=()"⟩ := by
    decide +kernel
  have hleaves : (FeatureMap.ofList [("camera", ["self", "\"https://a.example\"", "src"]),
      ("syncXhr", ["*"]), ("usb", [])]).Leaves
      (.ofList [("usb", []), ("camera", ["\"https://a.example\"", "self"])]) := by
    refine ⟨[("usb", []), ("camera", ["self", "\"https://a.example\"", "src"])], by decide, ?_⟩
    exact .cons ⟨rfl, by decide⟩ (.cons ⟨rfl, by decide⟩ .nil)
  have hsome : (FeatureMap.ofList
      [("usb", []), ("camera", ["\"https://a.example\"", "self"])]).entries ≠ [] := by
    simp [FeatureMap.ofList, Entries.ofList, Entries.put]
  exact ⟨hcompiled, hleaves, rest_of_compiled_policy_compiles hcompiled hleaves hsome⟩

end Compile

end BrowserPolicy

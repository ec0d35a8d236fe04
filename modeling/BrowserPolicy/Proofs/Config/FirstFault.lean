import BrowserPolicy.Proofs.Config.Sound
import BrowserPolicy.Proofs.Ranked

namespace BrowserPolicy.Config

/-- The configuration breaks a condition, and this is the fault. The conditions are ranked: the
version is known, there is a policy, no dialect has two of them, the address can be read. -/
inductive Breaks (c : Config) : Nat → ConfigFault → Prop where
  | version (unknown : c.version ≠ 1) : Breaks c 0 (.unsupportedVersion c.version)
  | noPolicies (nothing : c.policies = []) : Breaks c 1 .noPolicies
  | repeatedDialect {dialect : Dialect} (before after : List Dialect)
      (dialects : c.policies.map PolicyConfig.dialect = before ++ dialect :: after)
      (distinct : before.Nodup) (again : dialect ∈ before) : Breaks c 2 (.repeatedDialect dialect)
  | address (unreadable : Net.SocketAddress.parse? c.listen = none) : Breaks c 3 .badListenAddress

/-- The dialect that is found is the first to come again. -/
theorem repeated?_eq_some_iff {seen dialects : List Dialect} {d : Dialect} :
    repeated? seen dialects = some d ↔
      ∃ before after, dialects = before ++ d :: after ∧ before.Nodup ∧ (∀ x ∈ before, x ∉ seen) ∧
        (d ∈ seen ∨ d ∈ before) := by
  induction dialects generalizing seen with
  | nil => simp [repeated?]
  | cons first rest ih =>
    rw [repeated?]
    constructor
    · intro h
      split at h
      · next hseen =>
        cases h
        exact ⟨[], rest, rfl, List.nodup_nil, by simp, Or.inl hseen⟩
      · next hseen =>
        obtain ⟨before, after, rfl, hdistinct, hfresh, hagain⟩ := ih.1 h
        have hfirst : first ∉ before := fun hmem => hfresh first hmem (List.mem_cons_self ..)
        refine ⟨first :: before, after, rfl, List.nodup_cons.2 ⟨hfirst, hdistinct⟩, ?_, ?_⟩
        · refine List.forall_mem_cons.2 ⟨hseen, ?_⟩
          intro x hx hmem
          exact hfresh x hx (List.mem_cons_of_mem _ hmem)
        · simp only [List.mem_cons] at hagain ⊢
          tauto
    · intro h
      obtain ⟨before, after, hsplit, hdistinct, hfresh, hagain⟩ := h
      cases before with
      | nil =>
        obtain ⟨rfl, rfl⟩ := List.cons.inj hsplit
        have hseen : first ∈ seen := by simpa using hagain
        rw [if_pos hseen]
      | cons x before =>
        obtain ⟨rfl, rfl⟩ := List.cons.inj hsplit
        obtain ⟨hx, hdistinct⟩ := List.nodup_cons.1 hdistinct
        obtain ⟨hseen, hfresh⟩ := List.forall_mem_cons.1 hfresh
        rw [if_neg hseen]
        refine ih.2 ⟨before, after, rfl, hdistinct, ?_, ?_⟩
        · intro y hy hmem
          rcases List.mem_cons.1 hmem with rfl | hmem
          · exact hx hy
          · exact hfresh y hy hmem
        · simp only [List.mem_cons] at hagain ⊢
          tauto

theorem repeated?_nil_eq_some_iff {dialects : List Dialect} {d : Dialect} :
    repeated? [] dialects = some d ↔
      ∃ before after, dialects = before ++ d :: after ∧ before.Nodup ∧ d ∈ before := by
  simp [repeated?_eq_some_iff]

theorem listenAddress_eq_ok_iff {c : Config} {a : Net.SocketAddress} :
    c.listenAddress = .ok a ↔ Net.SocketAddress.parse? c.listen = some a := by
  unfold listenAddress
  cases Net.SocketAddress.parse? c.listen <;> simp

theorem Breaks.unique {c : Config} (rank : Nat) (fault fault' : ConfigFault)
    (h : c.Breaks rank fault) (h' : c.Breaks rank fault') : fault = fault' := by
  cases h with
  | version =>
    cases h'
    rfl
  | noPolicies =>
    cases h'
    rfl
  | repeatedDialect before after dialects distinct again =>
    cases h' with
    | repeatedDialect before' after' dialects' distinct' again' =>
      have hfound := repeated?_nil_eq_some_iff.2 ⟨before, after, dialects, distinct, again⟩
      have hfound' := repeated?_nil_eq_some_iff.2 ⟨before', after', dialects', distinct', again'⟩
      cases hfound.symm.trans hfound'
      rfl
  | address =>
    cases h'
    rfl

theorem Sound.not_breaks {c : Config} (h : c.Sound) {rank : Nat} {fault : ConfigFault} :
    ¬ c.Breaks rank fault := by
  intro hbreaks
  cases hbreaks with
  | version unknown => exact unknown h.version
  | noPolicies nothing => exact h.some_policy nothing
  | repeatedDialect before after dialects distinct again =>
    have hnodup := h.nodup_dialects
    rw [dialects, List.nodup_append] at hnodup
    exact hnodup.2.2 _ again _ (by simp) rfl
  | address unreadable =>
    obtain ⟨a, ha⟩ := h.address
    rw [listenAddress_eq_ok_iff, unreadable] at ha
    cases ha

theorem firstBroken_of_fault? {c : Config} {fault : ConfigFault} (h : c.fault? = some fault) :
    FirstBroken c.Breaks fault := by
  simp only [fault?] at h
  split at h
  · next hversion =>
    cases h
    exact ⟨0, .version hversion, fun _ _ _ => Nat.zero_le _⟩
  · next hversion =>
    split at h
    · next hnothing =>
      cases h
      refine ⟨1, .noPolicies (by simpa using hnothing), ?_⟩
      intro rank' fault' h'
      cases h' with
      | version unknown => exact absurd unknown hversion
      | _ => omega
    · next hsome =>
      split at h
      · next d hrepeated =>
        cases h
        obtain ⟨before, after, hdialects, hdistinct, hagain⟩ :=
          repeated?_nil_eq_some_iff.1 hrepeated
        refine ⟨2, .repeatedDialect before after hdialects hdistinct hagain, ?_⟩
        intro rank' fault' h'
        cases h' with
        | version unknown => exact absurd unknown hversion
        | noPolicies nothing => simp [nothing] at hsome
        | _ => omega
      · next hdistinct =>
        have hunreadable : Net.SocketAddress.parse? c.listen = none ∧ fault = .badListenAddress := by
          unfold listenAddress at h
          cases hparse : Net.SocketAddress.parse? c.listen <;> simp_all
        obtain ⟨hunreadable, rfl⟩ := hunreadable
        refine ⟨3, .address hunreadable, ?_⟩
        intro rank' fault' h'
        cases h' with
        | version unknown => exact absurd unknown hversion
        | noPolicies nothing => simp [nothing] at hsome
        | repeatedDialect before after hdialects hbefore hagain =>
          have hfound := repeated?_nil_eq_some_iff.2 ⟨before, after, hdialects, hbefore, hagain⟩
          rw [hdistinct] at hfound
          cases hfound
        | address => exact Nat.le_refl _

/-- The fault of a configuration is that of the first condition it breaks. -/
theorem fault?_eq_some_iff {c : Config} {fault : ConfigFault} :
    c.fault? = some fault ↔ FirstBroken c.Breaks fault := by
  apply FirstBroken.iff_of_answers Breaks.unique fun _ => firstBroken_of_fault?
  intro rank broken hbreaks
  apply Option.ne_none_iff_exists'.1
  intro hnone
  exact absurd hbreaks (fault?_eq_none_iff.1 hnone).not_breaks

theorem validate_eq_error_iff {c : Config} {error : PolicyError} :
    c.validate = .error error ↔ ∃ fault, error = .config fault ∧ FirstBroken c.Breaks fault := by
  simp only [← fault?_eq_some_iff, validate]
  cases c.fault? <;> simp [eq_comm]

/-- The fault is one of what stands around the features. -/
theorem fault?_congr {c c' : Config} (hversion : c.version = c'.version)
    (hlisten : c.listen = c'.listen)
    (hdialects : c.policies.map PolicyConfig.dialect = c'.policies.map PolicyConfig.dialect) :
    c.fault? = c'.fault? := by
  have hempty : c.policies.isEmpty = c'.policies.isEmpty := by
    rw [← List.isEmpty_map (f := PolicyConfig.dialect), hdialects, List.isEmpty_map]
  simp only [fault?, listenAddress, hversion, hlisten, hdialects, hempty]

/-- There are two dialects. -/
theorem length_le_two_of_nodup {dialects : List Dialect} (h : dialects.Nodup) :
    dialects.length ≤ 2 := by
  have hall : dialects ⊆ [.permissions, .feature] := by
    intro d _
    cases d <;> simp
  exact (h.subperm hall).length_le

/-- Policies for different dialects have different names, in whatever case they are compared. -/
theorem nodup_headerNames {policies : List PolicyConfig}
    (h : (policies.map PolicyConfig.dialect).Nodup) :
    (policies.map fun p => p.dialect.headerName.toLower).Nodup := by
  have hnames : (policies.map fun p => p.dialect.headerName.toLower) =
      (policies.map PolicyConfig.dialect).map Dialect.fieldName := by
    rw [List.map_map]
    apply List.map_congr_left
    intro p _
    exact (Dialect.fieldName_eq_toLower p.dialect).symm
  rw [hnames]
  exact h.map fun _ _ => Dialect.fieldName_injective

theorem Sound.length_policies {c : Config} (h : c.Sound) :
    c.policies.length = 1 ∨ c.policies.length = 2 := by
  have hsome : 0 < c.policies.length := List.length_pos_iff.2 h.some_policy
  have hmost : c.policies.length ≤ 2 := by simpa using length_le_two_of_nodup h.nodup_dialects
  omega

/-- A configuration is accepted when it breaks none of four conditions, and else refused for the
first that it breaks. Its features have no part in that. What loads has one or two policies, for
different dialects and so under different names, and an address to listen on. -/
theorem config_refused_for_first_fault (c : Config) :
    (c.validate = .ok c ↔
      c.version = 1 ∧ c.policies ≠ [] ∧ (c.policies.map PolicyConfig.dialect).Nodup ∧
        ∃ a, Net.SocketAddress.parse? c.listen = some a) ∧
    (∀ error, c.validate = .error error ↔
      ∃ fault, error = .config fault ∧ FirstBroken c.Breaks fault) ∧
    (∀ c' : Config, c'.version = c.version → c'.listen = c.listen →
      c'.policies.map PolicyConfig.dialect = c.policies.map PolicyConfig.dialect →
      c'.validate.map (fun _ => ()) = c.validate.map fun _ => ()) ∧
    ∀ text, ofText text = .ok c →
      (c.policies.length = 1 ∨ c.policies.length = 2) ∧
      (c.policies.map PolicyConfig.dialect).Nodup ∧
      (c.policies.map fun p => p.dialect.headerName.toLower).Nodup ∧
      ∃ a, c.listenAddress = .ok a := by
  refine ⟨?_, fun error => validate_eq_error_iff, ?_, ?_⟩
  · rw [validate_eq_ok_iff]
    simp only [true_and, ← listenAddress_eq_ok_iff]
    constructor
    · intro h
      exact ⟨h.version, h.some_policy, h.nodup_dialects, h.address⟩
    · intro h
      obtain ⟨hversion, hsome, hnodup, haddress⟩ := h
      exact ⟨hversion, hsome, hnodup, haddress⟩
  · intro c' hversion hlisten hdialects
    simp only [validate, fault?_congr hversion hlisten hdialects]
    cases c.fault? <;> rfl
  · intro text hload
    have hsound := sound_of_ofText hload
    exact ⟨hsound.length_policies, hsound.nodup_dialects, nodup_headerNames hsound.nodup_dialects,
      hsound.address⟩

/-- No policy of this configuration compiles, yet it loads, and it would with other features. -/
theorem config_loads_whatever_its_features :
    ∃ c, ofText ("version: 1\npolicies:\n- dialect: feature\n  features: ~\n" ++
          "- dialect: permissions\n  features: 1\n") = .ok c ∧
      c.validate = .ok c ∧ (c.policies.length = 1 ∨ c.policies.length = 2) ∧
      (∃ a, c.listenAddress = .ok a) ∧
      (validate ⟨1, "0.0.0.0:8080", [⟨.feature, .object []⟩, ⟨.permissions, .null⟩]⟩).map
        (fun _ => ()) = c.validate.map fun _ => () := by
  have hload : ofText ("version: 1\npolicies:\n- dialect: feature\n  features: ~\n" ++
      "- dialect: permissions\n  features: 1\n") =
      .ok ⟨1, "0.0.0.0:8080", [⟨.feature, .null⟩, ⟨.permissions, .int 1⟩]⟩ := by cbv
  obtain ⟨haccepted, -, hfeatures, hloaded⟩ := config_refused_for_first_fault
    ⟨1, "0.0.0.0:8080", [⟨.feature, .null⟩, ⟨.permissions, .int 1⟩]⟩
  obtain ⟨hlength, hdistinct, -, haddress⟩ := hloaded _ hload
  have hparse : Net.SocketAddress.parse? "0.0.0.0:8080" = some (.v4 ⟨0, 0, 0, 0⟩ 8080) := by decide
  exact ⟨_, hload, haccepted.2 ⟨rfl, by simp, hdistinct, _, hparse⟩, hlength, haddress,
    hfeatures _ rfl rfl rfl⟩

/-- The address is bad too, but the dialect that comes again is told first. -/
example : validate ⟨1, "nowhere", [⟨.feature, .null⟩, ⟨.permissions, .null⟩, ⟨.feature, .null⟩]⟩ =
    .error (.config (.repeatedDialect .feature)) := by rfl

end BrowserPolicy.Config

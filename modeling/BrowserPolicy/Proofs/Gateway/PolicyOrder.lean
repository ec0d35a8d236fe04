import BrowserPolicy.Proofs.Gateway.Serving

namespace BrowserPolicy

open Http

namespace Http

variable {fields fields' : List HeaderField}

/-- Under distinct names there is one field to find, wherever it stands. -/
theorem lastValue?_perm (hperm : fields'.Perm fields)
    (hnames : (fields.map HeaderField.name).Nodup) (name : String) :
    lastValue? fields' name = lastValue? fields name := by
  have hnames' : (fields'.map HeaderField.name).Nodup :=
    (hperm.map HeaderField.name).nodup_iff.2 hnames
  by_cases hgiven : ∃ field ∈ fields, field.name = name
  · -- Where no two fields have one name, the last of a name is the only one.
    obtain ⟨field, hfield, rfl⟩ := hgiven
    calc
      lastValue? fields' field.name = some field.value :=
        lastValue?_of_mem hnames' (hperm.mem_iff.2 hfield)
      _ = lastValue? fields field.name := (lastValue?_of_mem hnames hfield).symm
  · have hother : ∀ field ∈ fields, field.name ≠ name := by simpa using hgiven
    have hother' : ∀ field ∈ fields', field.name ≠ name := by
      intro field hfield
      exact hother field (hperm.mem_iff.1 hfield)
    rw [lastValue?_eq_none_iff.2 hother, lastValue?_eq_none_iff.2 hother']

theorem values_layer_perm (hperm : fields'.Perm fields)
    (hnames : (fields.map HeaderField.name).Nodup) (service : Request → Response)
    (request : Request) (name : String) :
    (layer service fields' request).values name = (layer service fields request).values name := by
  rw [layer, layer, Response.values_setAll, Response.values_setAll, lastValue?_perm hperm hnames]

end Http

/-- No condition on a configuration depends on the order of its policies. -/
theorem Config.Sound.perm {c : Config} (h : c.Sound) {policies : List PolicyConfig}
    (hperm : policies.Perm c.policies) : Sound { c with policies := policies } where
  version := h.version
  some_policy := by
    rintro rfl
    exact h.some_policy hperm.symm.eq_nil
  nodup_dialects := (hperm.map PolicyConfig.dialect).nodup_iff.2 h.nodup_dialects
  address := h.address

namespace PolicyConfig

theorem Installs.unique {p : PolicyConfig} {field field' : HeaderField} (h : p.Installs field)
    (h' : p.Installs field') : field = field' :=
  Except.ok.inj (h.symm.trans h')

/-- Policies in another order are installed as the same fields in another order. -/
theorem perm_of_installs {policies policies' : List PolicyConfig}
    {fields fields' : List HeaderField} (hperm : policies'.Perm policies)
    (h : List.Forall₂ Installs policies fields) (h' : List.Forall₂ Installs policies' fields') :
    fields'.Perm fields := by
  obtain ⟨permuted, hpermuted, hfields⟩ := List.perm_comp_forall₂ hperm h
  -- A policy installs one field at most, so there are no other fields than the permuted ones.
  have hunique : Relator.RightUnique Installs := fun _ _ _ => Installs.unique
  obtain rfl : fields' = permuted := hunique.forall₂ h' hpermuted
  exact hfields

end PolicyConfig

namespace Gateway

open PolicyConfig Installation

/-- An accepted configuration is accepted with its policies in any other order too. They can be
installed exactly when they could before, and then each name has the same values on every answer of
every service. -/
theorem policies_serve_in_any_order {c : Config} (hc : c.validate = .ok c)
    {policies : List PolicyConfig} (hperm : policies.Perm c.policies) :
    { c with policies := policies }.validate = .ok { c with policies := policies } ∧
      ((∃ fields, (ofPolicies c.policies).outcome = .ok fields) ↔
        ∃ fields', (ofPolicies policies).outcome = .ok fields') ∧
      ∀ fields fields', (ofPolicies c.policies).outcome = .ok fields →
        (ofPolicies policies).outcome = .ok fields' →
        ∀ (service : Request → Response) (request : Request) (name : String),
          (layer service fields' request).values name =
            (layer service fields request).values name := by
  obtain ⟨-, hsound⟩ := Config.validate_eq_ok_iff.1 hc
  refine ⟨Config.validate_eq_ok_iff.2 ⟨rfl, hsound.perm hperm⟩, ?_, ?_⟩
  · -- Whether all can be installed is a question about each of them.
    simp only [ofPolicies_outcome_eq_ok_iff, exists_forall₂_iff, hperm.mem_iff]
  · intro fields fields' hfields hfields'
    have hinstalls := ofPolicies_outcome_eq_ok_iff.1 hfields
    have hinstalls' := ofPolicies_outcome_eq_ok_iff.1 hfields'
    have hnames : (fields.map HeaderField.name).Nodup :=
      nodup_names_of_installs hinstalls hsound.nodup_dialects
    exact values_layer_perm (perm_of_installs hperm hinstalls hinstalls') hnames

/-- In whichever order the two policies come, the header of the older dialect takes the place of the
one that the service sets itself. -/
theorem camera_policies_serve_in_either_order :
    ∃ permissions feature : PolicyConfig,
      Config.validate ⟨1, "0.0.0.0:8080", [permissions, feature]⟩ =
        .ok ⟨1, "0.0.0.0:8080", [permissions, feature]⟩ ∧
      Config.validate ⟨1, "0.0.0.0:8080", [feature, permissions]⟩ =
        .ok ⟨1, "0.0.0.0:8080", [feature, permissions]⟩ ∧
      ∃ fields, (ofPolicies [feature, permissions]).outcome = .ok fields ∧
        ∀ request, ((layer (fun _ => ⟨200, [⟨"feature-policy", ⟨"usb *", by decide⟩⟩], ""⟩) fields
          request).values "feature-policy").map HeaderValue.text = ["camera 'none'"] := by
  let permissions : PolicyConfig := ⟨.permissions, .object [("camera", .array [])]⟩
  let feature : PolicyConfig := ⟨.feature, .object [("camera", .array [])]⟩
  have hc : Config.validate ⟨1, "0.0.0.0:8080", [permissions, feature]⟩ =
      .ok ⟨1, "0.0.0.0:8080", [permissions, feature]⟩ := by cbv
  have hfields : (ofPolicies [permissions, feature]).outcome =
      .ok [⟨"permissions-policy", ⟨"camera=()", by decide⟩⟩,
        ⟨"feature-policy", ⟨"camera 'none'", by decide⟩⟩] := by decide +kernel
  have hperm : List.Perm [feature, permissions] [permissions, feature] := .swap _ _ _
  obtain ⟨haccepted, hinstalled, hserved⟩ := policies_serve_in_any_order hc hperm
  obtain ⟨fields', hfields'⟩ := hinstalled.1 ⟨_, hfields⟩
  refine ⟨permissions, feature, hc, haccepted, fields', hfields', ?_⟩
  intro request
  rw [hserved _ _ hfields hfields']
  rfl

end Gateway

end BrowserPolicy

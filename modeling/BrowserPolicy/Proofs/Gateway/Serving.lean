import BrowserPolicy.Gateway.Service
import BrowserPolicy.Proofs.Config.Sound
import BrowserPolicy.Proofs.Gateway.InstallationLog
import BrowserPolicy.Proofs.Http.Fields

namespace BrowserPolicy

open Http

namespace Http

theorem Response.values_withLength {r : Response} {name : String} (h : name ≠ "content-length") :
    r.withLength.values name = r.values name := by
  unfold withLength
  split
  · rfl
  · simp [values, Ne.symm h]

/-- A route adds the length and the allowed methods to its response, and no other field. -/
theorem Route.values_answer {route : Route} {name : String} (hlength : name ≠ "content-length")
    (hallow : name ≠ "allow") (hroute : route.response.values name = []) (method : String) :
    (route.answer method).values name = [] := by
  have hanswer : route.response.withLength.values name = [] := by
    rw [Response.values_withLength hlength, hroute]
  have hrefused : Response.methodNotAllowed.withLength.values name = [] := by
    rw [Response.values_withLength hlength]
    simp [Response.values, Response.methodNotAllowed, Ne.symm hallow]
  unfold Route.answer
  split
  · exact hanswer
  · split
    · exact hanswer
    · split
      · -- Without the body the fields are the same.
        exact hanswer
      · exact hrefused

theorem values_answer {routes : List Route} {name : String} (hlength : name ≠ "content-length")
    (hallow : name ≠ "allow") (hroutes : ∀ route ∈ routes, route.response.values name = [])
    (request : Request) : (answer routes request).values name = [] := by
  unfold answer
  split
  · next route hfind =>
    exact Route.values_answer hlength hallow (hroutes route (List.mem_of_find?_eq_some hfind)) _
  · rw [Response.values_withLength hlength]
    rfl

end Http

namespace Gateway

open PolicyConfig

/-- The routes of the gateway set no field of a dialect themselves. -/
theorem values_answer_routes (dialect : Dialect) (request : Request) :
    (answer routes request).values dialect.fieldName = [] := by
  have hroutes : ∀ route ∈ routes, route.response.values dialect.fieldName = [] := by
    cases dialect <;> decide
  cases dialect with
  | permissions => exact values_answer (by decide) (by decide) hroutes request
  | feature => exact values_answer (by decide) (by decide) hroutes request

/-- What a response has for a dialect comes from the layer. -/
theorem values_service (fields : List HeaderField) (dialect : Dialect) (request : Request) :
    (service fields request).values dialect.fieldName =
      (lastValue? fields dialect.fieldName).toList := by
  rw [service, layer, Response.values_setAll, values_answer_routes]
  cases lastValue? fields dialect.fieldName <;> rfl

theorem nodup_names_of_installs {policies : List PolicyConfig} {fields : List HeaderField}
    (h : List.Forall₂ Installs policies fields)
    (hdialects : (policies.map PolicyConfig.dialect).Nodup) :
    (fields.map HeaderField.name).Nodup := by
  have hnames : fields.map HeaderField.name =
      (policies.map PolicyConfig.dialect).map Dialect.fieldName := by
    rw [List.map_map, map_eq_map_iff_forall₂]
    apply h.flip.imp
    intro field p hp
    exact Installs.name_eq hp
  have hinjective : Function.Injective Dialect.fieldName := fun _ _ => Dialect.fieldName_injective
  rw [hnames]
  exact hdialects.map hinjective

theorem lastValue?_of_installs {policies : List PolicyConfig} {fields : List HeaderField}
    (h : List.Forall₂ Installs policies fields)
    (hdialects : (policies.map PolicyConfig.dialect).Nodup) {p : PolicyConfig}
    (hp : p ∈ policies) :
    ∃ field, p.Installs field ∧
      lastValue? fields p.dialect.fieldName = some field.value := by
  obtain ⟨i, hi, rfl⟩ := List.getElem_of_mem hp
  have hlength : i < fields.length := h.length_eq ▸ hi
  have hinstalls : policies[i].Installs fields[i] := List.Forall₂.get h hi hlength
  refine ⟨fields[i], hinstalls, ?_⟩
  rw [← hinstalls.name_eq]
  exact lastValue?_of_mem (nodup_names_of_installs h hdialects) (List.getElem_mem hlength)

theorem lastValue?_eq_none_of_installs {policies : List PolicyConfig} {fields : List HeaderField}
    (h : List.Forall₂ Installs policies fields) {dialect : Dialect}
    (hother : ∀ p ∈ policies, p.dialect ≠ dialect) :
    lastValue? fields dialect.fieldName = none := by
  rw [lastValue?_eq_none_iff]
  intro field hfield hname
  obtain ⟨i, hi, rfl⟩ := List.getElem_of_mem hfield
  have hlength : i < policies.length := h.length_eq ▸ hi
  have hinstalls : policies[i].Installs fields[i] := List.Forall₂.get h hlength hi
  rw [hinstalls.name_eq] at hname
  exact hother _ (List.getElem_mem hlength) (Dialect.fieldName_injective hname)

/-- Every response to every request carries for each dialect the one header that its policy in the
configuration compiles to, and none when the configuration has no policy for it. -/
theorem responses_carry_configured_policies {text : String} {config : Config}
    {fields : List HeaderField} (hconfig : Config.ofText text = .ok config)
    (hfields : (Installation.ofPolicies config.policies).outcome = .ok fields) (request : Request)
    (dialect : Dialect) :
    (∀ p ∈ config.policies, p.dialect = dialect →
      ∃ policy, (compileFeatures dialect p.features).outcome = .ok policy ∧
        ((service fields request).values dialect.headerName.toLower).map HeaderValue.text =
          [policy.value]) ∧
      ((∀ p ∈ config.policies, p.dialect ≠ dialect) →
        (service fields request).values dialect.headerName.toLower = []) := by
  have hinstalls := Installation.ofPolicies_outcome_eq_ok_iff.1 hfields
  have hsound := Config.sound_of_ofText hconfig
  rw [← Dialect.fieldName_eq_toLower, values_service]
  constructor
  · intro p hp hdialect
    subst hdialect
    obtain ⟨field, hfield, hlast⟩ :=
      lastValue?_of_installs hinstalls hsound.nodup_dialects hp
    obtain ⟨policy, hpolicy, hvalue⟩ := Compilation.toField_eq_ok_iff.1 hfield
    refine ⟨policy, hpolicy, ?_⟩
    rw [hlast, ← (CompiledPolicy.toField_eq_ok_iff.1 hvalue).2]
    rfl
  · intro hother
    rw [lastValue?_eq_none_of_installs hinstalls hother]
    rfl

/-- A request with a method that no route takes is refused under the header of the configuration. -/
theorem refused_request_carries_usb_policy :
    ∃ config fields,
      Config.ofText
          "version: 1\npolicies:\n- dialect: permissions\n  features:\n    usb: []\n" = .ok config ∧
        (Installation.ofPolicies config.policies).outcome = .ok fields ∧
        (service fields ⟨"POST", "/healthz", [], ""⟩).status = 405 ∧
        ((service fields ⟨"POST", "/healthz", [], ""⟩).values
          Dialect.permissions.headerName.toLower).map HeaderValue.text = ["usb=()"] ∧
        (service fields ⟨"POST", "/healthz", [], ""⟩).values
          Dialect.feature.headerName.toLower = [] := by
  have hconfig : Config.ofText
      "version: 1\npolicies:\n- dialect: permissions\n  features:\n    usb: []\n" =
      .ok ⟨1, "0.0.0.0:8080", [⟨.permissions, .object [("usb", .array [])]⟩]⟩ := by cbv
  have hfields : (Installation.ofPolicies
      [⟨.permissions, .object [("usb", .array [])]⟩]).outcome =
      .ok [⟨"permissions-policy", ⟨"usb=()", by decide⟩⟩] := by decide +kernel
  have hcompiled : (compileFeatures .permissions (.object [("usb", .array [])])).outcome =
      .ok ⟨.permissions, "usb=()"⟩ := by decide
  obtain ⟨hpolicy, -⟩ := responses_carry_configured_policies hconfig hfields
    ⟨"POST", "/healthz", [], ""⟩ .permissions
  obtain ⟨-, hnone⟩ := responses_carry_configured_policies hconfig hfields
    ⟨"POST", "/healthz", [], ""⟩ .feature
  obtain ⟨policy, hsame, hvalue⟩ := hpolicy _ (List.mem_singleton_self _) rfl
  cases hcompiled.symm.trans hsame
  exact ⟨_, _, hconfig, hfields, by decide, hvalue, hnone (by simp)⟩

end Gateway

end BrowserPolicy

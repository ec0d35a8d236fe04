import BrowserPolicy.Http.Router
import BrowserPolicy.Proofs.Http.Fields

namespace BrowserPolicy.Http

/-- The last field of each name, in the order in which these are given. -/
def lastOfEach (fields : List HeaderField) : List HeaderField :=
  fields.pwFilter fun f g => f.name ≠ g.name

theorem lastOfEach_cons (field : HeaderField) (rest : List HeaderField) :
    lastOfEach (field :: rest) =
      if ∀ g ∈ rest, field.name ≠ g.name then field :: lastOfEach rest else lastOfEach rest := by
  have hkept : (∀ g ∈ lastOfEach rest, field.name ≠ g.name) ↔ ∀ g ∈ rest, field.name ≠ g.name := by
    apply List.forall_mem_pwFilter
    intro f g h hne
    by_cases hfg : f.name = g.name
    · exact Or.inr fun hgh => hne (hfg.trans hgh)
    · exact Or.inl hfg
  split
  · next h => exact List.pwFilter_cons_of_pos (hkept.2 h)
  · next h => exact List.pwFilter_cons_of_neg (mt hkept.1 h)

theorem subset_of_mem_lastOfEach {fields : List HeaderField} : lastOfEach fields ⊆ fields :=
  (List.pwFilter_sublist fields).subset

theorem lastValue?_append (a b : List HeaderField) (name : String) :
    lastValue? (a ++ b) name = (lastValue? b name).or (lastValue? a name) := by
  induction a with
  | nil => simp [lastValue?]
  | cons field rest ih =>
    rw [List.cons_append, lastValue?_cons, lastValue?_cons, ih, Option.or_assoc]

namespace Response

attribute [ext] Response

theorem status_setAll (r : Response) (fields : List HeaderField) :
    (r.setAll fields).status = r.status := by
  induction fields generalizing r with
  | nil => rfl
  | cons field rest ih => exact ih (r.set field)

theorem body_setAll (r : Response) (fields : List HeaderField) :
    (r.setAll fields).body = r.body := by
  induction fields generalizing r with
  | nil => rfl
  | cons field rest ih => exact ih (r.set field)

/-- The fields after setting: the old ones under other names, and the last given of each name. -/
theorem headers_setAll (r : Response) (fields : List HeaderField) :
    (r.setAll fields).headers =
      (r.headers.filter fun f => ∀ g ∈ fields, f.name ≠ g.name) ++ lastOfEach fields := by
  induction fields generalizing r with
  | nil => simp [setAll, lastOfEach]
  | cons field rest ih =>
    have hstep : r.setAll (field :: rest) = (r.set field).setAll rest := rfl
    have hothers : ((r.headers.filter fun f => f.name != field.name).filter
        fun f => ∀ g ∈ rest, f.name ≠ g.name) =
        r.headers.filter fun f => ∀ g ∈ field :: rest, f.name ≠ g.name := by
      rw [List.filter_filter]
      apply List.filter_congr
      intro f _
      rw [Bool.eq_iff_iff]
      simp [and_comm]
    rw [hstep, ih, set, List.filter_append, hothers, lastOfEach_cons, List.append_assoc]
    -- The field stays only when no later one has its name.
    by_cases hlast : ∀ g ∈ rest, field.name ≠ g.name
    · rw [if_pos hlast, List.filter_cons_of_pos (by simpa using hlast)]
      rfl
    · rw [if_neg hlast, List.filter_cons_of_neg (by simpa using hlast)]
      rfl

theorem setAll_append (r : Response) (a b : List HeaderField) :
    r.setAll (a ++ b) = (r.setAll a).setAll b :=
  List.foldl_append

/-- Fields whose names are all set again leave nothing behind. -/
theorem setAll_setAll_of_names (r : Response) {a b : List HeaderField}
    (h : ∀ f ∈ a, ∃ g ∈ b, f.name = g.name) : (r.setAll a).setAll b = r.setAll b := by
  have hgone : (lastOfEach a).filter (fun f => ∀ g ∈ b, f.name ≠ g.name) = [] := by
    rw [List.filter_eq_nil_iff]
    intro f hf
    simpa using h f (subset_of_mem_lastOfEach hf)
  have hkept : ((r.headers.filter fun f => ∀ g ∈ a, f.name ≠ g.name).filter
      fun f => ∀ g ∈ b, f.name ≠ g.name) =
      r.headers.filter fun f => ∀ g ∈ b, f.name ≠ g.name := by
    rw [List.filter_filter]
    apply List.filter_congr
    intro f _
    rw [← Bool.decide_and, decide_eq_decide, and_iff_left_iff_imp]
    intro hb g hg hname
    obtain ⟨k, hk, hsame⟩ := h g hg
    exact hb k hk (hname.trans hsame)
  ext1
  · rw [status_setAll, status_setAll, status_setAll]
  · rw [headers_setAll, headers_setAll, headers_setAll, List.filter_append, hgone, hkept,
      List.append_nil]
  · rw [body_setAll, body_setAll, body_setAll]

theorem values_setAll_of_last (r : Response) (before : List HeaderField) (field : HeaderField)
    {after : List HeaderField} (h : ∀ f ∈ after, f.name ≠ field.name) :
    (r.setAll (before ++ field :: after)).values field.name = [field.value] := by
  have hlast : lastValue? (before ++ field :: after) field.name = some field.value := by
    rw [lastValue?_append, lastValue?_cons, lastValue?_eq_none_iff.2 h]
    simp
  simp [values_setAll, hlast]

theorem values_setAll_of_not_mem (r : Response) {fields : List HeaderField} {name : String}
    (h : ∀ f ∈ fields, f.name ≠ name) : (r.setAll fields).values name = r.values name := by
  simp [values_setAll, lastValue?_eq_none_iff.2 h]

end Response

/-- Two layers are one with the fields of both, the inner first. -/
theorem layer_layer (service : Request → Response) (a b : List HeaderField) :
    layer (layer service a) b = layer service (a ++ b) := by
  funext request
  exact ((service request).setAll_append a b).symm

theorem layer_layer_self (service : Request → Response) (fields : List HeaderField) :
    layer (layer service fields) fields = layer service fields := by
  funext request
  exact (service request).setAll_setAll_of_names fun f hf => ⟨f, hf, rfl⟩

/-- Under a layer of fields every name among them has one value, that of the last field of the name,
whatever the service answers; all else of the answer stays as it is. Two layers are one layer of
both their fields, and the same layer twice is the layer once. -/
theorem layer_sets_last_fields_only (service : Request → Response) (fields : List HeaderField) :
    (∀ request,
      (∀ before field after, fields = before ++ field :: after →
        (∀ f ∈ after, f.name ≠ field.name) →
        (layer service fields request).values field.name = [field.value]) ∧
      (∀ name, (∀ f ∈ fields, f.name ≠ name) →
        (layer service fields request).values name = (service request).values name) ∧
      (layer service fields request).status = (service request).status ∧
      (layer service fields request).body = (service request).body) ∧
    (∀ more, layer (layer service fields) more = layer service (fields ++ more)) ∧
    layer (layer service fields) fields = layer service fields := by
  refine ⟨?_, layer_layer service fields, layer_layer_self service fields⟩
  intro request
  refine ⟨?_, ?_, (service request).status_setAll fields, (service request).body_setAll fields⟩
  · rintro before field after rfl hlater
    exact (service request).values_setAll_of_last before field hlater
  · intro name hother
    exact (service request).values_setAll_of_not_mem hother

/-- The service sets a policy of its own twice, and the layer sets it twice too. -/
theorem layer_sets_camera_policy_once :
    ∃ (service : Request → Response) (fields : List HeaderField) (request : Request),
      (service request).headers.map HeaderField.name =
        ["permissions-policy", "content-type", "permissions-policy"] ∧
      fields.map HeaderField.name =
        ["permissions-policy", "feature-policy", "permissions-policy"] ∧
      ((layer service fields request).values "permissions-policy").map HeaderValue.text =
        ["camera=()"] ∧
      ((layer service fields request).values "content-type").map HeaderValue.text =
        ["text/plain"] ∧
      layer (layer service fields) fields = layer service fields := by
  let service : Request → Response := fun _ =>
    ⟨200, [⟨"permissions-policy", ⟨"camera=*", by decide⟩⟩,
      ⟨"content-type", ⟨"text/plain", by decide⟩⟩,
      ⟨"permissions-policy", ⟨"usb=*", by decide⟩⟩], "hi"⟩
  let usb : HeaderField := ⟨"permissions-policy", ⟨"usb=()", by decide⟩⟩
  let legacy : HeaderField := ⟨"feature-policy", ⟨"camera *", by decide⟩⟩
  let camera : HeaderField := ⟨"permissions-policy", ⟨"camera=()", by decide⟩⟩
  obtain ⟨hanswer, -, htwice⟩ := layer_sets_last_fields_only service [usb, legacy, camera]
  obtain ⟨hlast, hother, -, -⟩ := hanswer ⟨"GET", "/", [], ""⟩
  have hcamera := hlast [usb, legacy] camera [] rfl (by simp)
  have htype := hother "content-type" (by decide)
  refine ⟨service, [usb, legacy, camera], ⟨"GET", "/", [], ""⟩, rfl, rfl, ?_, ?_, htwice⟩
  · exact congrArg (List.map HeaderValue.text) hcamera
  · rw [htype]
    rfl

end BrowserPolicy.Http

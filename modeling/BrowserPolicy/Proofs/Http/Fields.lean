import BrowserPolicy.Http.Router
import Mathlib

namespace BrowserPolicy.Http

def lastValue? (fields : List HeaderField) (name : String) : Option HeaderValue :=
  ((fields.filter fun f => f.name == name).getLast?).map HeaderField.value

theorem lastValue?_cons (field : HeaderField) (rest : List HeaderField) (name : String) :
    lastValue? (field :: rest) name =
      (lastValue? rest name).or (if field.name = name then some field.value else none) := by
  by_cases hname : field.name = name
  · simp only [lastValue?, hname, beq_self_eq_true, List.filter_cons_of_pos, if_pos]
    cases hrest : rest.filter fun f => f.name == name with
    | nil => simp
    | cons f more => simp [List.getLast?_cons]
  · simp [lastValue?, hname]

theorem lastValue?_eq_none_iff {fields : List HeaderField} {name : String} :
    lastValue? fields name = none ↔ ∀ f ∈ fields, f.name ≠ name := by
  simp [lastValue?]

/-- Under distinct names every field counts. -/
theorem lastValue?_of_mem {fields : List HeaderField}
    (hnames : (fields.map HeaderField.name).Nodup) {field : HeaderField} (h : field ∈ fields) :
    lastValue? fields field.name = some field.value := by
  induction fields with
  | nil => cases h
  | cons first rest ih =>
    rw [List.map_cons, List.nodup_cons] at hnames
    obtain ⟨hfresh, hrest⟩ := hnames
    rw [lastValue?_cons]
    rcases List.mem_cons.1 h with rfl | hmem
    · have hnone : lastValue? rest field.name = none := by
        rw [lastValue?_eq_none_iff]
        intro f hf hname
        exact hfresh (List.mem_map.2 ⟨f, hf, hname⟩)
      simp [hnone]
    · simp [ih hrest hmem]

namespace Response

theorem values_set_self (r : Response) (field : HeaderField) :
    (r.set field).values field.name = [field.value] := by
  simp [values, set, List.filter_filter]

theorem values_set_of_ne (r : Response) {field : HeaderField} {name : String}
    (h : field.name ≠ name) : (r.set field).values name = r.values name := by
  have hkept : ∀ f ∈ r.headers, (f.name == name && f.name != field.name) = (f.name == name) := by
    intro f _
    by_cases hf : f.name = name
    · simp [hf, Ne.symm h]
    · simp [hf]
  simp only [values, set, List.filter_append, List.filter_filter]
  rw [List.filter_congr hkept]
  simp [h]

/-- Setting fields one after the other gives a name its last value and keeps all others. -/
theorem values_setAll (r : Response) (fields : List HeaderField) (name : String) :
    (r.setAll fields).values name = ((lastValue? fields name).map ([·])).getD (r.values name) := by
  induction fields generalizing r with
  | nil => rfl
  | cons field rest ih =>
    have hstep : r.setAll (field :: rest) = (r.set field).setAll rest := rfl
    rw [hstep, ih, lastValue?_cons]
    cases lastValue? rest name with
    | some value => rfl
    | none =>
      by_cases hname : field.name = name
      · subst hname
        simp [values_set_self]
      · simp [hname, values_set_of_ne r hname]

end Response

end BrowserPolicy.Http

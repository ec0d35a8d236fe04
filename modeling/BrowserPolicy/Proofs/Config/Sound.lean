import BrowserPolicy.Config.File
import Mathlib

namespace BrowserPolicy.Config

structure Sound (c : Config) : Prop where
  version : c.version = 1
  some_policy : c.policies ≠ []
  nodup_dialects : (c.policies.map PolicyConfig.dialect).Nodup
  address : ∃ a, c.listenAddress = .ok a

theorem repeated?_eq_none_iff {seen dialects : List Dialect} :
    repeated? seen dialects = none ↔ dialects.Nodup ∧ ∀ d ∈ dialects, d ∉ seen := by
  induction dialects generalizing seen with
  | nil => simp [repeated?]
  | cons d rest ih =>
    rw [repeated?, List.nodup_cons, List.forall_mem_cons]
    by_cases hseen : d ∈ seen
    · simp [hseen]
    · rw [if_neg hseen, ih]
      constructor
      · intro h
        obtain ⟨hrest, hfresh⟩ := h
        have hd : d ∉ rest := fun hmem => hfresh d hmem (List.mem_cons_self ..)
        exact ⟨⟨hd, hrest⟩, hseen, fun x hx hmem => hfresh x hx (List.mem_cons_of_mem _ hmem)⟩
      · intro h
        obtain ⟨⟨hd, hrest⟩, -, hfresh⟩ := h
        refine ⟨hrest, ?_⟩
        intro x hx hmem
        rcases List.mem_cons.1 hmem with rfl | hmem
        · exact hd hx
        · exact hfresh x hx hmem

theorem fault?_eq_none_iff {c : Config} : c.fault? = none ↔ c.Sound := by
  constructor
  · intro h
    simp only [fault?] at h
    split at h
    · cases h
    · next hversion =>
      split at h
      · cases h
      · next hsome =>
        split at h
        · cases h
        · next hrepeated =>
          split at h
          · next a haddress =>
            exact ⟨by simpa using hversion, by simpa using hsome,
              (repeated?_eq_none_iff.1 hrepeated).1, a, haddress⟩
          · cases h
  · intro h
    obtain ⟨hversion, hsome, hnodup, a, haddress⟩ := h
    have hrepeated : repeated? [] (c.policies.map PolicyConfig.dialect) = none :=
      repeated?_eq_none_iff.2 ⟨hnodup, by simp⟩
    simp [fault?, hversion, hsome, hrepeated, haddress]

theorem validate_eq_ok_iff {c c' : Config} : c.validate = .ok c' ↔ c' = c ∧ c.Sound := by
  rw [← fault?_eq_none_iff]
  unfold validate
  cases c.fault? <;> simp [eq_comm]

/-- What loads is sound. -/
theorem sound_of_ofText {text : String} {c : Config} (h : ofText text = .ok c) : c.Sound := by
  simp only [ofText] at h
  split at h
  · obtain ⟨rfl, hsound⟩ := validate_eq_ok_iff.1 h
    exact hsound
  · cases h

end BrowserPolicy.Config

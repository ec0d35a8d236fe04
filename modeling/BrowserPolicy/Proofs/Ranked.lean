/-!
Rules that are looked at in an order. A family `breaks` says for each rank which error the rule of
this rank gives, if it is broken; the error that counts is the one of the least rank.
-/

namespace BrowserPolicy

/-- Of the rules that are broken, the first gives this error. -/
def FirstBroken {ε : Type} (breaks : Nat → ε → Prop) (error : ε) : Prop :=
  ∃ rank, breaks rank error ∧ ∀ rank' error', breaks rank' error' → rank ≤ rank'

theorem FirstBroken.unique {ε : Type} {breaks : Nat → ε → Prop}
    (hunique : ∀ rank error error', breaks rank error → breaks rank error' → error = error')
    {error error' : ε} (h : FirstBroken breaks error) (h' : FirstBroken breaks error') :
    error = error' := by
  obtain ⟨rank, hbreaks, hleast⟩ := h
  obtain ⟨rank', hbreaks', hleast'⟩ := h'
  obtain rfl : rank = rank' :=
    Nat.le_antisymm (hleast rank' error' hbreaks') (hleast' rank error hbreaks)
  exact hunique rank error error' hbreaks hbreaks'

/-- A check that answers with the error of the first broken rule, and answers whenever a rule is
broken, answers with nothing else. -/
theorem FirstBroken.iff_of_answers {ε : Type} {breaks : Nat → ε → Prop} {Answers : ε → Prop}
    (hunique : ∀ rank error error', breaks rank error → breaks rank error' → error = error')
    (hfirst : ∀ error, Answers error → FirstBroken breaks error)
    (hanswers : ∀ rank error, breaks rank error → ∃ error', Answers error') (error : ε) :
    Answers error ↔ FirstBroken breaks error := by
  constructor
  · exact hfirst error
  · intro h
    obtain ⟨rank, hbreaks, hleast⟩ := h
    obtain ⟨error', hanswer⟩ := hanswers rank error hbreaks
    obtain rfl : error' = error :=
      FirstBroken.unique hunique (hfirst error' hanswer) ⟨rank, hbreaks, hleast⟩
    exact hanswer

end BrowserPolicy

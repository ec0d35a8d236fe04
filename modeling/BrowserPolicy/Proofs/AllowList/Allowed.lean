import BrowserPolicy.AllowList

namespace BrowserPolicy

structure Grammar.Accepts (g : Grammar) (token : String) : Prop where
  not_misquoted : ∀ row ∈ g.misquoted, row.form ≠ token
  reserved_or_quoted : token ∈ g.reserved ∨ g.quoteRule token = true

theorem Grammar.misquoted?_eq_none_iff {g : Grammar} {token : String} :
    g.misquoted? token = none ↔ ∀ row ∈ g.misquoted, row.form ≠ token := by
  simp [Grammar.misquoted?]

namespace AllowList

structure Allowed (g : Grammar) (tokens : List String) : Prop where
  nodup : tokens.Nodup
  accepts : ∀ token ∈ tokens, g.Accepts token
  exclusive : 2 ≤ tokens.length → g.wildcard ∉ tokens ∧ g.noneKeyword ∉ tokens

theorem check_eq_ok_iff {g : Grammar} {feature : String} {seen : List String} {raw : RawToken}
    {token : String} :
    check g feature seen raw = .ok token ↔ raw = .text token ∧ token ∉ seen ∧ g.Accepts token := by
  cases raw with
  | notText => simp [check]
  | text t =>
    constructor
    · intro h
      simp only [check] at h
      split at h
      · cases h
      · next hseen =>
        split at h
        · cases h
        · next hnone =>
          split at h
          · next hquoted =>
            cases h
            refine ⟨rfl, hseen, Grammar.misquoted?_eq_none_iff.1 hnone, ?_⟩
            simpa [Grammar.isReserved] using hquoted
          · cases h
    · rintro ⟨ht, hseen, hmis, hquoted⟩
      cases ht
      have hnone : g.misquoted? token = none := Grammar.misquoted?_eq_none_iff.2 hmis
      have htaken : (g.isReserved token || g.quoteRule token) = true := by
        simpa [Grammar.isReserved] using hquoted
      simp [check, hseen, hnone, htaken]

/-- The tokens seen before the list only matter as what must not come again. -/
theorem checkAll_eq_ok_iff {g : Grammar} {feature : String} {seen : List String}
    {raw : List RawToken} {tokens : List String} :
    checkAll g feature seen raw = .ok tokens ↔
      raw = tokens.map .text ∧ tokens.Nodup ∧ (∀ token ∈ tokens, token ∉ seen) ∧
        ∀ token ∈ tokens, g.Accepts token := by
  induction raw generalizing seen tokens with
  | nil =>
    cases tokens <;> simp [checkAll]
  | cons r rest ih =>
    constructor
    · intro h
      simp only [checkAll] at h
      split at h
      · cases h
      · next t hcheck =>
        split at h
        · cases h
        · next ts hrest =>
          cases h
          obtain ⟨rfl, hseen, haccepts⟩ := check_eq_ok_iff.1 hcheck
          obtain ⟨rfl, hnodup, hfresh, hall⟩ := ih.1 hrest
          -- The rest was checked with `t` among the tokens seen.
          have ht : t ∉ ts := fun hmem => hfresh t hmem (List.mem_cons_self ..)
          refine ⟨rfl, List.nodup_cons.2 ⟨ht, hnodup⟩, List.forall_mem_cons.2 ⟨hseen, ?_⟩,
            List.forall_mem_cons.2 ⟨haccepts, hall⟩⟩
          exact fun u hu hmem => hfresh u hu (List.mem_cons_of_mem _ hmem)
    · rintro ⟨hraw, hnodup, hfresh, hall⟩
      cases tokens with
      | nil => simp at hraw
      | cons t ts =>
        obtain ⟨rfl, rfl⟩ := List.cons.inj hraw
        obtain ⟨ht, hts⟩ := List.nodup_cons.1 hnodup
        obtain ⟨htseen, hfresh⟩ := List.forall_mem_cons.1 hfresh
        obtain ⟨htaccepts, hall⟩ := List.forall_mem_cons.1 hall
        have hcheck : check g feature seen (.text t) = .ok t :=
          check_eq_ok_iff.2 ⟨rfl, htseen, htaccepts⟩
        have hrest : checkAll g feature (t :: seen) (ts.map .text) = .ok ts := by
          refine ih.2 ⟨rfl, hts, fun u hu hmem => ?_, hall⟩
          rcases List.mem_cons.1 hmem with rfl | hmem
          · exact ht hu
          · exact hfresh u hu hmem
        simp only [checkAll, hcheck, hrest]

/-- Keywords that stand alone do not mix with others only in a list of two or more. -/
theorem mixedKeyword?_eq_none_iff {g : Grammar} {tokens : List String} :
    mixedKeyword? g tokens = none ↔
      (2 ≤ tokens.length → g.wildcard ∉ tokens ∧ g.noneKeyword ∉ tokens) := by
  unfold mixedKeyword?
  split
  · next hle =>
    have hlt : ¬ 2 ≤ tokens.length := by omega
    simp [hlt]
  · next hgt =>
    have hle : 2 ≤ tokens.length := by omega
    simp [hle]

/-- The check lets through exactly the allowed lists, and gives them back as they are. -/
theorem validate_eq_ok_iff {g : Grammar} {feature : String} {raw : List RawToken}
    {tokens : List String} :
    validate g feature raw = .ok tokens ↔ raw = tokens.map .text ∧ Allowed g tokens := by
  constructor
  · intro h
    simp only [validate] at h
    split at h
    · cases h
    · next ts hall =>
      split at h
      · cases h
      · next hmixed =>
        cases h
        obtain ⟨hraw, hnodup, -, haccepts⟩ := checkAll_eq_ok_iff.1 hall
        exact ⟨hraw, hnodup, haccepts, mixedKeyword?_eq_none_iff.1 hmixed⟩
  · rintro ⟨hraw, hallowed⟩
    have hall : checkAll g feature [] raw = .ok tokens :=
      checkAll_eq_ok_iff.2 ⟨hraw, hallowed.nodup, by simp, hallowed.accepts⟩
    have hmixed : mixedKeyword? g tokens = none :=
      mixedKeyword?_eq_none_iff.2 hallowed.exclusive
    simp only [validate, hall, hmixed]

end AllowList

end BrowserPolicy

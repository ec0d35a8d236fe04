import BrowserPolicy.Proofs.Compile.Accepted

namespace BrowserPolicy

def PolicyError.feature? : PolicyError → Option String
  | .unsupportedFeature feature | .notAnArray feature | .nonString feature | .duplicate feature =>
    some feature
  | .mixed feature _ => some feature
  | .notAnObject | .featuresNotAnObject | .noFeatures | .misquotedKeyword _ _ | .unquoted _
  | .emptyHeader | .invalidHeader _ | .config _ => none

def PolicyError.NamesOnly (feature : String) (error : PolicyError) : Prop :=
  ∀ name, error.feature? = some name → name = feature

theorem PolicyError.NamesOnly.of_some {feature : String} {error : PolicyError}
    (h : error.feature? = some feature) : error.NamesOnly feature := by
  intro name hname
  rw [h] at hname
  exact (Option.some.inj hname).symm

theorem PolicyError.NamesOnly.of_none {feature : String} {error : PolicyError}
    (h : error.feature? = none) : error.NamesOnly feature := by
  intro name hname
  rw [h] at hname
  cases hname

namespace AllowList

inductive ListFault (feature : String) : PolicyError → Prop where
  | nonString : ListFault feature (.nonString feature)
  | duplicate : ListFault feature (.duplicate feature)
  | misquoted (keyword : String) (required : KeywordForm) :
      ListFault feature (.misquotedKeyword keyword required)
  | unquoted (token : String) : ListFault feature (.unquoted token)
  | mixed (keyword : String) : ListFault feature (.mixed feature keyword)

theorem listFault_of_check {g : Grammar} {feature : String} {seen : List String} {raw : RawToken}
    {error : PolicyError} (h : check g feature seen raw = .error error) :
    ListFault feature error := by
  cases raw with
  | notText =>
    cases h
    exact .nonString
  | text token =>
    simp only [check] at h
    split at h
    · cases h
      exact .duplicate
    · split at h
      · cases h
        exact .misquoted _ _
      · split at h
        · cases h
        · cases h
          exact .unquoted token

theorem listFault_of_checkAll {g : Grammar} {feature : String} {seen : List String}
    {raw : List RawToken} {error : PolicyError} (h : checkAll g feature seen raw = .error error) :
    ListFault feature error := by
  induction raw generalizing seen with
  | nil => cases h
  | cons r rest ih =>
    simp only [checkAll] at h
    split at h
    · next hcheck =>
      cases h
      exact listFault_of_check hcheck
    · split at h
      · next hrest =>
        cases h
        exact ih hrest
      · cases h

theorem listFault_of_validate {g : Grammar} {feature : String} {raw : List RawToken}
    {error : PolicyError} (h : validate g feature raw = .error error) :
    ListFault feature error := by
  simp only [validate] at h
  split at h
  · next hall =>
    cases h
    exact listFault_of_checkAll hall
  · split at h
    · cases h
      exact .mixed _
    · cases h

/-- Whatever is wrong with a list is told of its feature. -/
theorem ListFault.namesOnly {feature : String} {error : PolicyError}
    (h : ListFault feature error) : error.NamesOnly feature := by
  cases h with
  | nonString => exact .of_some rfl
  | duplicate => exact .of_some rfl
  | misquoted keyword required => exact .of_none rfl
  | unquoted token => exact .of_none rfl
  | mixed keyword => exact .of_some rfl

end AllowList

namespace Compile

open AllowList Grammar

inductive Fails (g : Grammar) : String × RawList → PolicyError → Prop where
  | unsupported {feature : String} {raw : RawList} (unknown : ∀ key, ¬ g.keys.Spells feature key) :
      Fails g (feature, raw) (.unsupportedFeature feature)
  | notAnArray {feature key : String} (known : g.keys.Spells feature key) :
      Fails g (feature, .notList) (.notAnArray feature)
  | refused {feature key : String} {tokens : List RawToken} {error : PolicyError}
      (known : g.keys.Spells feature key) (invalid : validate g feature tokens = .error error) :
      Fails g (feature, .tokens tokens) error

def Passes (g : Grammar) (e : String × RawList) : Prop :=
  ∀ error, ¬ Fails g e error

def FirstFault (g : Grammar) (entries : List (String × RawList)) (error : PolicyError) : Prop :=
  ∃ before e after, entries = before ++ e :: after ∧ (∀ x ∈ before, Passes g x) ∧ Fails g e error

/-- The program refuses an entry for the documented reason. -/
theorem entry_eq_error_iff {g : Grammar} {e : String × RawList} {error : PolicyError} :
    entry g e.1 e.2 = .error error ↔ Fails g e error := by
  obtain ⟨feature, raw⟩ := e
  constructor
  · intro h
    simp only [entry] at h
    split at h
    · next hkey =>
      cases h
      obtain ⟨hunknown, rfl⟩ := KeyVocabulary.normalize_eq_error_iff.1 hkey
      exact .unsupported hunknown
    · next key hkey =>
      have hknown : g.keys.Spells feature key := KeyVocabulary.normalize_eq_ok_iff.1 hkey
      split at h
      · cases h
        exact .notAnArray hknown
      · split at h
        · next hvalid =>
          cases h
          exact .refused hknown hvalid
        · cases h
  · intro h
    cases h with
    | unsupported hunknown =>
      have hkey : g.keys.normalize feature = .error (.unsupportedFeature feature) :=
        KeyVocabulary.normalize_eq_error_iff.2 ⟨hunknown, rfl⟩
      simp only [entry, hkey]
    | notAnArray hknown =>
      simp only [entry, KeyVocabulary.normalize_eq_ok_iff.2 hknown]
    | refused hknown hvalid =>
      simp only [entry, KeyVocabulary.normalize_eq_ok_iff.2 hknown, hvalid]

theorem compiles_iff {g : Grammar} {e : String × RawList} {text : String} :
    Compiles g e text ↔ entry g e.1 e.2 = .ok text := by
  rw [entry_eq_ok_iff, Compiles]
  simp only [entryText_iff]

theorem passes_iff {g : Grammar} {e : String × RawList} :
    Passes g e ↔ ∃ text, entry g e.1 e.2 = .ok text := by
  simp only [Passes, ← entry_eq_error_iff]
  cases entry g e.1 e.2 <;> simp

theorem Fails.namesOnly {g : Grammar} {e : String × RawList} {error : PolicyError}
    (h : Fails g e error) : error.NamesOnly e.1 := by
  cases h with
  | unsupported _ => exact .of_some rfl
  | notAnArray _ => exact .of_some rfl
  | refused _ hvalid => exact (listFault_of_validate hvalid).namesOnly

/-- The first fault is that of the first entry, or of the rest when the first entry passes. -/
theorem firstFault_cons_iff {g : Grammar} {first : String × RawList}
    {rest : List (String × RawList)} {error : PolicyError} :
    FirstFault g (first :: rest) error ↔
      Fails g first error ∨ Passes g first ∧ FirstFault g rest error := by
  constructor
  · intro h
    obtain ⟨before, e, after, hsplit, hbefore, hfails⟩ := h
    cases before with
    | nil =>
      obtain ⟨rfl, -⟩ := List.cons.inj hsplit
      exact Or.inl hfails
    | cons x before =>
      obtain ⟨rfl, rfl⟩ := List.cons.inj hsplit
      obtain ⟨hpasses, hbefore⟩ := List.forall_mem_cons.1 hbefore
      exact Or.inr ⟨hpasses, before, e, after, rfl, hbefore, hfails⟩
  · intro h
    rcases h with hfails | ⟨hpasses, before, e, after, rfl, hbefore, hfails⟩
    · exact ⟨[], first, rest, rfl, by simp, hfails⟩
    · exact ⟨first :: before, e, after, rfl, List.forall_mem_cons.2 ⟨hpasses, hbefore⟩, hfails⟩

/-- The entries are refused for the first of them that fails. -/
theorem entryTexts_eq_error_iff {g : Grammar} {entries : List (String × RawList)}
    {error : PolicyError} : entryTexts g entries = .error error ↔ FirstFault g entries error := by
  induction entries with
  | nil => simp [entryTexts, FirstFault]
  | cons first rest ih =>
    rw [firstFault_cons_iff, passes_iff, ← entry_eq_error_iff, ← ih]
    simp only [entryTexts]
    cases entry g first.1 first.2 with
    | error error' => simp
    | ok text => cases entryTexts g rest <;> simp

theorem entryTexts_eq_ok_iff_compiles {g : Grammar} {entries : List (String × RawList)}
    {texts : List String} :
    entryTexts g entries = .ok texts ↔ List.Forall₂ (Compiles g) entries texts := by
  rw [entryTexts_eq_ok_iff]
  constructor
  · intro h
    exact h.imp fun e text => compiles_iff.2
  · intro h
    exact h.imp fun e text => compiles_iff.1

theorem passes_of_entryTexts {g : Grammar} {entries : List (String × RawList)}
    {texts : List String} (h : entryTexts g entries = .ok texts) : ∀ e ∈ entries, Passes g e := by
  refine forall_mem_of_forall₂ (entryTexts_eq_ok_iff.1 h) ?_
  intro e text hentry
  exact passes_iff.2 ⟨text, hentry⟩

/-- Beside the faults of entries a header has two of its own. -/
theorem headerText_eq_error_iff {g : Grammar} {entries : List (String × RawList)}
    {error : PolicyError} :
    headerText g entries = .error error ↔
      entryTexts g entries = .error error ∨
        ∃ texts, entryTexts g entries = .ok texts ∧
          (texts = [] ∧ error = .noFeatures ∨
            texts ≠ [] ∧ error = .emptyHeader ∧ g.entrySeparator.intercalate texts = "") := by
  cases hall : entryTexts g entries with
  | error error' => simp [headerText, hall]
  | ok texts =>
    cases texts with
    | nil => simp [headerText, hall, eq_comm (a := error)]
    | cons text more =>
      by_cases hempty : g.entrySeparator.intercalate (text :: more) = ""
      · simp [headerText, hall, Header.joinEntries, hempty, eq_comm (a := error)]
      · simp [headerText, hall, Header.joinEntries, hempty]

theorem Fails.error_cases {g : Grammar} {e : String × RawList} {error : PolicyError}
    (h : Fails g e error) :
    error = .unsupportedFeature e.1 ∨ error = .notAnArray e.1 ∨ ListFault e.1 error := by
  cases h with
  | unsupported _ => exact .inl rfl
  | notAnArray _ => exact .inr (.inl rfl)
  | refused _ hinvalid => exact .inr (.inr (listFault_of_validate hinvalid))

theorem entryTexts_error_cases {g : Grammar} {entries : List (String × RawList)}
    {error : PolicyError} (h : entryTexts g entries = .error error) :
    ∃ feature, error = .unsupportedFeature feature ∨ error = .notAnArray feature ∨
      ListFault feature error := by
  obtain ⟨_, e, _, _, _, hfails⟩ := entryTexts_eq_error_iff.1 h
  exact ⟨e.1, hfails.error_cases⟩

/-- Whether a text can be sent is not asked while it is compiled. -/
theorem headerText_ne_invalidHeader (g : Grammar) (entries : List (String × RawList))
    (detail : String) : headerText g entries ≠ .error (.invalidHeader detail) := by
  intro h
  rcases headerText_eq_error_iff.1 h with hentries | ⟨_, _, ⟨_, hnone⟩ | ⟨_, hempty, _⟩⟩
  · obtain ⟨_, hkey | hshape | hlist⟩ := entryTexts_error_cases hentries
    · cases hkey
    · cases hshape
    · cases hlist
  · cases hnone
  · cases hempty

theorem finish_outcome_eq_error_iff {dialect : Dialect} {features : Nat}
    {result : Except PolicyError String} {error : PolicyError} :
    (finish dialect features result).outcome = .error error ↔ result = .error error := by
  cases result <;> simp

theorem event_finish_of_ok {dialect : Dialect} {features : Nat}
    {result : Except PolicyError String} {p : CompiledPolicy}
    (h : (finish dialect features result).outcome = .ok p) :
    (finish dialect features result).event = .compiled dialect features := by
  obtain ⟨-, rfl⟩ := finish_outcome_eq_ok_iff.1 h
  rfl

theorem event_finish_of_error {dialect : Dialect} {features : Nat}
    {result : Except PolicyError String} {error : PolicyError}
    (h : (finish dialect features result).outcome = .error error) :
    (finish dialect features result).event = .rejected dialect features error := by
  obtain rfl := finish_outcome_eq_error_iff.1 h
  rfl

theorem compileFeatures_outcome_eq_error_iff {dialect : Dialect} {v : Value}
    {error : PolicyError} :
    (compileFeatures dialect v).outcome = .error error ↔
      (∃ members, v = .object members ∧
        headerText dialect.grammar (members.map fun e => (e.1, RawList.ofValue e.2)) =
          .error error) ∨
        (∀ members, v ≠ .object members) ∧ error = .featuresNotAnObject := by
  cases v with
  | object members => simp [compileFeatures_object, finish_outcome_eq_error_iff]
  | _ => simp [compileFeatures_of_ne_object, eq_comm (a := error)]

theorem compileFeatures_ne_invalidHeader (dialect : Dialect) (v : Value) (detail : String) :
    (compileFeatures dialect v).outcome ≠ .error (.invalidHeader detail) := by
  intro h
  rcases compileFeatures_outcome_eq_error_iff.1 h with ⟨_, _, hentries⟩ | ⟨_, hshape⟩
  · exact headerText_ne_invalidHeader _ _ _ hentries
  · cases hshape

/-- A configuration is refused for the first of its entries that fails on its own, whatever comes
behind it. When none fails, it is refused for having no entries or for a header without text. An
error of an entry names no feature but the one that the configuration gives. -/
theorem error_of_first_fault (g : Grammar) (entries : List (String × RawList))
    (error : PolicyError) :
    (headerText g entries = .error error ↔
      FirstFault g entries error ∨
        (∀ e ∈ entries, Passes g e) ∧
          (entries = [] ∧ error = .noFeatures ∨
            entries ≠ [] ∧ error = .emptyHeader ∧
              ∃ texts, List.Forall₂ (Compiles g) entries texts ∧
                g.entrySeparator.intercalate texts = "")) ∧
      ∀ e, Fails g e error → error.NamesOnly e.1 := by
  refine ⟨?_, fun e hfails => hfails.namesOnly⟩
  rw [headerText_eq_error_iff, entryTexts_eq_error_iff]
  apply or_congr_right
  simp only [entryTexts_eq_ok_iff_compiles]
  constructor
  · intro h
    obtain ⟨texts, hall, hnothing⟩ := h
    refine ⟨passes_of_entryTexts (entryTexts_eq_ok_iff_compiles.2 hall), ?_⟩
    rcases hnothing with ⟨rfl, herror⟩ | ⟨hsome, herror, hempty⟩
    · exact Or.inl ⟨List.forall₂_nil_right_iff.1 hall, herror⟩
    · refine Or.inr ⟨?_, herror, texts, hall, hempty⟩
      rintro rfl
      exact hsome (List.forall₂_nil_left_iff.1 hall)
  · intro h
    obtain ⟨-, ⟨rfl, herror⟩ | ⟨hsome, herror, texts, hall, hempty⟩⟩ := h
    · exact ⟨[], .nil, Or.inl ⟨rfl, herror⟩⟩
    · refine ⟨texts, hall, Or.inr ⟨?_, herror, hempty⟩⟩
      rintro rfl
      exact hsome (List.forall₂_nil_right_iff.1 hall)

theorem error_of_syncXhr_fault :
    headerText Grammar.permissions [("camera", .tokens []),
        ("syncXhr", .tokens [.text "self", .notText]), ("usb", .notList)] =
      .error (.nonString "syncXhr") ∧
    (PolicyError.nonString "syncXhr").NamesOnly "syncXhr" := by
  have hcamera : Passes Grammar.permissions ("camera", .tokens []) :=
    passes_iff.2 ⟨"camera=()", by decide +kernel⟩
  have hfails : Fails Grammar.permissions ("syncXhr", .tokens [.text "self", .notText])
      (.nonString "syncXhr") := .refused (.unrestricted "syncXhr") (by decide +kernel)
  obtain ⟨herror, hnames⟩ := error_of_first_fault Grammar.permissions
    [("camera", .tokens []), ("syncXhr", .tokens [.text "self", .notText]), ("usb", .notList)]
    (.nonString "syncXhr")
  refine ⟨herror.2 (Or.inl ⟨[("camera", .tokens [])], _, [("usb", .notList)], rfl, ?_, hfails⟩),
    hnames _ hfails⟩
  simpa using hcamera

end Compile

end BrowserPolicy

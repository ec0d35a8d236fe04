import BrowserPolicy.Proofs.Compile.EmptyHeader

namespace BrowserPolicy.Compile

variable {g : Grammar} {xs ys : List (String × RawList)}

/-- The entries are accepted and joined to the text. A header is such a text that is not empty. -/
def Joins (g : Grammar) (entries : List (String × RawList)) (text : String) : Prop :=
  ∃ texts, entryTexts g entries = .ok texts ∧ texts ≠ [] ∧ text = g.entrySeparator.intercalate texts

/-- The entries of the second part are looked at exactly when all of the first are accepted, and in
the same way as alone. -/
theorem entryTexts_append (g : Grammar) (xs ys : List (String × RawList)) :
    entryTexts g (xs ++ ys) =
      match entryTexts g xs with
      | .error e => .error e
      | .ok texts => (entryTexts g ys).map (texts ++ ·) := by
  induction xs with
  | nil => cases hys : entryTexts g ys <;> simp [entryTexts, hys, Except.map]
  | cons e rest ih =>
    simp only [List.cons_append, entryTexts, ih]
    cases entry g e.1 e.2 with
    | error error => rfl
    | ok text =>
      cases entryTexts g rest with
      | error error => rfl
      | ok texts => cases entryTexts g ys <;> rfl

theorem entryTexts_append_eq_ok_iff {texts : List String} :
    entryTexts g (xs ++ ys) = .ok texts ↔
      ∃ ts us, entryTexts g xs = .ok ts ∧ entryTexts g ys = .ok us ∧ texts = ts ++ us := by
  rw [entryTexts_append]
  cases entryTexts g xs with
  | error error => simp
  | ok ts => cases entryTexts g ys <;> simp [Except.map, eq_comm]

theorem ne_nil_iff_of_entryTexts {entries : List (String × RawList)} {texts : List String}
    (h : entryTexts g entries = .ok texts) : texts ≠ [] ↔ entries ≠ [] := by
  have hlength : entries.length = texts.length := (entryTexts_eq_ok_iff.1 h).length_eq
  rw [← List.length_pos_iff, ← List.length_pos_iff, hlength]

theorem headerText_eq_ok_iff_joins {entries : List (String × RawList)} {value : String} :
    headerText g entries = .ok value ↔ Joins g entries value ∧ value ≠ "" := by
  rw [headerText_eq_ok_iff_forall₂]
  constructor
  · intro h
    obtain ⟨hentries, hvalue, texts, hall, rfl⟩ := h
    have htexts : entryTexts g entries = .ok texts := entryTexts_eq_ok_iff.2 hall
    exact ⟨⟨texts, htexts, (ne_nil_iff_of_entryTexts htexts).2 hentries, rfl⟩, hvalue⟩
  · intro h
    obtain ⟨⟨texts, htexts, hsome, rfl⟩, hvalue⟩ := h
    exact ⟨(ne_nil_iff_of_entryTexts htexts).1 hsome, hvalue, texts,
      entryTexts_eq_ok_iff.1 htexts, rfl⟩

/-- An empty join is the only thing that leaves a header empty. -/
theorem headerText_eq_emptyHeader_iff_joins {entries : List (String × RawList)} :
    headerText g entries = .error .emptyHeader ↔ Joins g entries "" := by
  rw [headerText_eq_emptyHeader_iff_texts]
  constructor
  · intro h
    obtain ⟨texts, hall, hsome, hempty⟩ := h
    exact ⟨texts, entryTexts_eq_ok_iff.2 hall, hsome, hempty.symm⟩
  · intro h
    obtain ⟨texts, htexts, hsome, hempty⟩ := h
    exact ⟨texts, entryTexts_eq_ok_iff.1 htexts, hsome, hempty.symm⟩

/-- The join of two parts is a separator between their joins. -/
theorem joins_append_iff (hxs : xs ≠ []) (hys : ys ≠ []) {text : String} :
    Joins g (xs ++ ys) text ↔
      ∃ a b, Joins g xs a ∧ Joins g ys b ∧ text = a ++ g.entrySeparator ++ b := by
  constructor
  · intro h
    obtain ⟨texts, htexts, -, rfl⟩ := h
    obtain ⟨ts, us, hts, hus, rfl⟩ := entryTexts_append_eq_ok_iff.1 htexts
    -- A separator stands between the parts only because both have something to say.
    have hfirst : ts ≠ [] := (ne_nil_iff_of_entryTexts hts).2 hxs
    have hsecond : us ≠ [] := (ne_nil_iff_of_entryTexts hus).2 hys
    exact ⟨_, _, ⟨ts, hts, hfirst, rfl⟩, ⟨us, hus, hsecond, rfl⟩,
      String.intercalate_append_of_ne_nil hfirst hsecond⟩
  · intro h
    obtain ⟨_, _, ⟨ts, hts, hfirst, rfl⟩, ⟨us, hus, hsecond, rfl⟩, rfl⟩ := h
    refine ⟨ts ++ us, entryTexts_append_eq_ok_iff.2 ⟨ts, us, hts, hus, rfl⟩, by simp [hfirst], ?_⟩
    exact (String.intercalate_append_of_ne_nil hfirst hsecond).symm

theorem headerText_append {a b : String} (ha : headerText g xs = .ok a)
    (hb : headerText g ys = .ok b) :
    headerText g (xs ++ ys) = .ok (a ++ g.entrySeparator ++ b) := by
  have hxs : xs ≠ [] := (headerText_eq_ok_iff_forall₂.1 ha).1
  have hys : ys ≠ [] := (headerText_eq_ok_iff_forall₂.1 hb).1
  obtain ⟨hfirst, hsome⟩ := headerText_eq_ok_iff_joins.1 ha
  obtain ⟨hsecond, -⟩ := headerText_eq_ok_iff_joins.1 hb
  refine headerText_eq_ok_iff_joins.2 ⟨(joins_append_iff hxs hys).2 ⟨a, b, hfirst, hsecond, rfl⟩, ?_⟩
  intro hempty
  obtain ⟨hstart, -⟩ := String.append_eq_empty_iff.1 hempty
  exact hsome (String.append_eq_empty_iff.1 hstart).1

/-- A join of entries of a built-in dialect is never empty, so it is a header. -/
theorem headerText_of_joins {dialect : Dialect} {entries : List (String × RawList)} {text : String}
    (h : Joins dialect.grammar entries text) : headerText dialect.grammar entries = .ok text := by
  refine headerText_eq_ok_iff_joins.2 ⟨h, ?_⟩
  rintro rfl
  exact headerText_dialect_ne_emptyHeader dialect entries (headerText_eq_emptyHeader_iff_joins.2 h)

/-- Under any grammar the headers of two lists of entries, with the separator between them, are the
header of both lists. Under the built-in dialects every header of two such parts is got in this way
alone. -/
theorem header_of_parts :
    (∀ (g : Grammar) (xs ys : List (String × RawList)) (a b : String),
      headerText g xs = .ok a → headerText g ys = .ok b →
        headerText g (xs ++ ys) = .ok (a ++ g.entrySeparator ++ b)) ∧
    ∀ (dialect : Dialect) (xs ys : List (String × RawList)) (c : String), xs ≠ [] → ys ≠ [] →
      (headerText dialect.grammar (xs ++ ys) = .ok c ↔
        ∃ a b, headerText dialect.grammar xs = .ok a ∧ headerText dialect.grammar ys = .ok b ∧
          c = a ++ dialect.grammar.entrySeparator ++ b) := by
  refine ⟨fun g xs ys a b => headerText_append, ?_⟩
  intro dialect xs ys c hxs hys
  constructor
  · intro h
    obtain ⟨hjoins, -⟩ := headerText_eq_ok_iff_joins.1 h
    obtain ⟨a, b, ha, hb, hc⟩ := (joins_append_iff hxs hys).1 hjoins
    exact ⟨a, b, headerText_of_joins ha, headerText_of_joins hb, hc⟩
  · intro h
    obtain ⟨a, b, ha, hb, rfl⟩ := h
    exact headerText_append ha hb

/-- The same token in both parts is no repetition. -/
theorem header_of_camera_and_syncXhr_parts :
    headerText Grammar.feature [("camera", .tokens [.text "'self'"])] = .ok "camera 'self'" ∧
    headerText Grammar.feature [("camera", .tokens [.text "'self'"]),
        ("syncXhr", .tokens [.text "'self'"]), ("usb", .tokens [])] =
      .ok "camera 'self';sync-xhr 'self';usb 'none'" ∧
    ∃ a b, headerText Grammar.feature [("camera", .tokens [.text "'self'"]),
        ("syncXhr", .tokens [.text "'self'"])] = .ok a ∧
      headerText Grammar.feature [("usb", .tokens [])] = .ok b ∧
      "camera 'self';sync-xhr 'self';usb 'none'" = a ++ ";" ++ b := by
  obtain ⟨hwhole, hparts⟩ := header_of_parts
  have hcamera : headerText Grammar.feature [("camera", .tokens [.text "'self'"])] =
      .ok "camera 'self'" := by decide +kernel
  have hrest : headerText Grammar.feature [("syncXhr", .tokens [.text "'self'"]),
      ("usb", .tokens [])] = .ok "sync-xhr 'self';usb 'none'" := by decide +kernel
  have hall := hwhole _ _ _ _ _ hcamera hrest
  have hsplit := (hparts .feature [("camera", .tokens [.text "'self'"]),
    ("syncXhr", .tokens [.text "'self'"])] [("usb", .tokens [])] _ (by simp) (by simp)).1 hall
  exact ⟨hcamera, hall, hsplit⟩

/-- Under a grammar of one's own a part can come out empty where the whole does not. -/
example :
    let g := { Grammar.feature with keys := .unrestricted, noneKeyword := "", valueSeparator := "" }
    headerText g ([("", .tokens [])] ++ [("usb", .tokens [])]) = .ok ";usb" ∧
      headerText g [("", .tokens [])] = .error .emptyHeader := by
  decide +kernel

end BrowserPolicy.Compile

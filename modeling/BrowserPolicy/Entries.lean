namespace BrowserPolicy

abbrev Entries (α : Type) := List (String × α)

namespace Entries

variable {α : Type}

def names (entries : Entries α) : List String :=
  entries.map Prod.fst

def get? (entries : Entries α) (name : String) : Option α :=
  (entries.find? fun e => e.1 == name).map Prod.snd

/-- Gives `name` the value `a`: in its place if the name is there, else at the end. -/
def put (entries : Entries α) (name : String) (a : α) : Entries α :=
  match entries with
  | [] => [(name, a)]
  | e :: rest => if e.1 = name then (name, a) :: rest else e :: put rest name a

def ofList (given : List (String × α)) : Entries α :=
  given.foldl (fun entries e => put entries e.1 e.2) []

@[simp] theorem names_nil : names ([] : Entries α) = [] := rfl

@[simp] theorem names_cons (e : String × α) (rest : List (String × α)) :
    names (e :: rest) = e.1 :: names rest := rfl

/-- Where no name comes twice, looking up finds every entry. -/
theorem get?_eq_some_iff {entries : Entries α} (h : (names entries).Nodup) {name : String} {a : α} :
    get? entries name = some a ↔ (name, a) ∈ entries := by
  induction entries with
  | nil => simp [get?]
  | cons e rest ih =>
    rw [names_cons, List.nodup_cons] at h
    obtain ⟨hfresh, hrest⟩ := h
    by_cases hname : e.1 = name
    · subst hname
      have hother : (e.1, a) ∉ rest := fun hmem => hfresh (List.mem_map.2 ⟨_, hmem, rfl⟩)
      simp [get?, hother, Prod.ext_iff, eq_comm]
    · have hne : (name, a) ≠ e := fun heq => hname (by rw [← heq])
      rw [List.mem_cons, or_iff_right hne, ← ih hrest]
      simp [get?, hname]

/-- A name that is there keeps its place, a new one goes to the end. -/
theorem names_put (entries : Entries α) (name : String) (a : α) :
    names (put entries name a) =
      if name ∈ names entries then names entries else names entries ++ [name] := by
  induction entries with
  | nil => simp [put]
  | cons e rest ih =>
    by_cases h : e.1 = name
    · simp [put, h]
    · have h' : ¬ name = e.1 := fun hn => h hn.symm
      by_cases hm : name ∈ names rest <;> simp [put, h, h', ih, hm]

/-- Putting replaces and never repeats a name. -/
theorem nodup_names_put {entries : Entries α} (h : (names entries).Nodup) (name : String) (a : α) :
    (names (put entries name a)).Nodup := by
  rw [names_put]
  split
  · exact h
  · next hm => exact List.nodup_append.2 ⟨h, by simp, fun x hx y hy => by
      simp only [List.mem_singleton] at hy
      intro hxy
      exact hm (hy ▸ hxy ▸ hx)⟩

/-- A name that is given twice keeps its place and the later value, so no name comes twice. -/
theorem nodup_names_ofList (given : List (String × α)) : (names (ofList given)).Nodup := by
  suffices h : ∀ entries : Entries α, (names entries).Nodup →
      (names (given.foldl (fun entries e => put entries e.1 e.2) entries)).Nodup from
    h [] (by simp)
  induction given with
  | nil => exact fun entries h => h
  | cons e rest ih => exact fun entries h => ih _ (nodup_names_put h e.1 e.2)

end Entries

end BrowserPolicy

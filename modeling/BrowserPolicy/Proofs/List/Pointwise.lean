import Mathlib

namespace BrowserPolicy

theorem forall₂_and_eq_iff {α β : Type} {P : α → Prop} {f : α → β} {xs : List α} {ys : List β} :
    List.Forall₂ (fun x y => P x ∧ f x = y) xs ys ↔ (∀ x ∈ xs, P x) ∧ xs.map f = ys := by
  rw [List.forall₂_and_left, ← List.forall₂_map_left_iff (R := Eq), List.forall₂_eq_eq_eq]

theorem map_eq_map_iff_forall₂ {α β γ : Type} {f : α → γ} {g : β → γ} {xs : List α} {ys : List β} :
    xs.map f = ys.map g ↔ List.Forall₂ (fun x y => f x = g y) xs ys := by
  rw [← List.forall₂_eq_eq_eq, List.forall₂_map_left_iff, List.forall₂_map_right_iff]

theorem forall_mem_of_forall₂ {α β : Type} {R : α → β → Prop} {P : α → Prop} {xs : List α}
    {ys : List β} (h : List.Forall₂ R xs ys) (hP : ∀ x y, R x y → P x) : ∀ x ∈ xs, P x := by
  have hboth : List.Forall₂ (fun x y => P x ∧ R x y) xs ys := by
    apply h.imp
    intro x y hxy
    exact ⟨hP x y hxy, hxy⟩
  exact ((List.forall₂_and_left _ _).1 hboth).1

theorem exists_mem_iff_of_forall₂ {α β : Type} {R : α → β → Prop} {P : α → Prop} {Q : β → Prop}
    {xs : List α} {ys : List β} (h : List.Forall₂ R xs ys) (hPQ : ∀ x y, R x y → (P x ↔ Q y)) :
    (∃ x ∈ xs, P x) ↔ ∃ y ∈ ys, Q y := by
  induction h with
  | nil => simp
  | cons hxy _ ih => simp [hPQ _ _ hxy, ih]

/-- A list has a partner exactly when each of its elements has one. -/
theorem exists_forall₂_iff {α β : Type} {R : α → β → Prop} {xs : List α} :
    (∃ ys, List.Forall₂ R xs ys) ↔ ∀ x ∈ xs, ∃ y, R x y := by
  induction xs with
  | nil => simp
  | cons x rest ih =>
    rw [List.forall_mem_cons, ← ih]
    constructor
    · intro h
      obtain ⟨ys, hys⟩ := h
      obtain ⟨y, more, hy, hmore, rfl⟩ := List.forall₂_cons_left_iff.1 hys
      exact ⟨⟨y, hy⟩, more, hmore⟩
    · intro h
      obtain ⟨⟨y, hy⟩, more, hmore⟩ := h
      exact ⟨y :: more, .cons hy hmore⟩

/-- A list is related to one of its length whose elements are all `c` exactly when each of its
elements is related to `c`. -/
theorem forall₂_iff_of_forall_mem_eq {α β : Type} {R : α → β → Prop} {c : β} {xs : List α}
    {ys : List β} (h : ∀ y ∈ ys, y = c) :
    List.Forall₂ R xs ys ↔ xs.length = ys.length ∧ ∀ x ∈ xs, R x c := by
  induction ys generalizing xs with
  | nil => cases xs <;> simp
  | cons y more ih =>
    obtain ⟨rfl, hmore⟩ := List.forall_mem_cons.1 h
    cases xs with
    | nil => simp
    | cons x rest => simp [ih hmore, and_left_comm]

/-- Two steps for each element, the second by a function, are two steps for the list. -/
theorem forall₂_exists_map_iff {α β γ : Type} {R : α → β → Prop} {f : β → γ} {xs : List α}
    {zs : List γ} :
    List.Forall₂ (fun x z => ∃ y, R x y ∧ z = f y) xs zs ↔
      ∃ ys, List.Forall₂ R xs ys ∧ zs = ys.map f := by
  constructor
  · intro h
    induction h with
    | nil => exact ⟨[], .nil, rfl⟩
    | cons hxz _ ih =>
      obtain ⟨y, hxy, rfl⟩ := hxz
      obtain ⟨ys, hys, rfl⟩ := ih
      exact ⟨y :: ys, .cons hxy hys, rfl⟩
  · intro h
    obtain ⟨ys, hys, rfl⟩ := h
    rw [List.forall₂_map_right_iff]
    apply hys.imp
    intro x y hxy
    exact ⟨y, hxy, rfl⟩

/-- A list is read exactly when each of its elements is. -/
theorem mapM_eq_some_iff_forall₂ {α β : Type} {read? : α → Option β} {xs : List α} {ys : List β} :
    xs.mapM read? = some ys ↔ List.Forall₂ (fun x y => read? x = some y) xs ys := by
  induction xs generalizing ys with
  | nil => simp [eq_comm]
  | cons x rest ih =>
    rw [List.mapM_cons, List.forall₂_cons_left_iff]
    simp only [Option.bind_eq_bind, Option.bind_eq_some_iff, Option.pure_def, Option.some.injEq, ih]
    constructor
    · intro h
      obtain ⟨y, hy, more, hmore, rfl⟩ := h
      exact ⟨y, more, hy, hmore, rfl⟩
    · intro h
      obtain ⟨y, more, hy, hmore, rfl⟩ := h
      exact ⟨y, hy, more, hmore, rfl⟩

end BrowserPolicy

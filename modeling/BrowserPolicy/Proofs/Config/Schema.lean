import BrowserPolicy.Config.OfValue
import BrowserPolicy.Proofs.List.Pointwise

/-!
Which values hold a configuration. A record is written as an object that has its fields and no other
members, or as an array of its fields in order; both ways come to the same entries. A field with a
default may be left out, and nothing that is written counts as left out.
-/

namespace BrowserPolicy.Config

/-- What a value gives for the fields of a record: the members of an object that has no others, or
the elements of an array in the order of the fields. -/
inductive Gives (fields : List String) : Value → Entries Value → Prop where
  | byName {members : Entries Value} (known : ∀ e ∈ members, e.1 ∈ fields) :
      Gives fields (.object members) members
  | byPlace {items : List Value} (room : items.length ≤ fields.length) :
      Gives fields (.array items) (fields.zip items)

inductive Optionally {α : Type} (Holds : Value → α → Prop) (default : α) :
    Option Value → α → Prop where
  | absent : Optionally Holds default none default
  | given {v : Value} {a : α} (holds : Holds v a) : Optionally Holds default (some v) a

def HoldsVersion (v : Value) (version : UInt32) : Prop :=
  v = .int version.toNat

def HoldsText (v : Value) (s : String) : Prop :=
  v = .string s

inductive HoldsDialect : Value → Dialect → Prop where
  | name (d : Dialect) : HoldsDialect (.string d.name) d
  | member (d : Dialect) : HoldsDialect (.object [(d.name, .null)]) d

def HoldsPolicy (v : Value) (p : PolicyConfig) : Prop :=
  ∃ given dialect, Gives ["dialect", "features"] v given ∧
    given.get? "dialect" = some dialect ∧ HoldsDialect dialect p.dialect ∧
    given.get? "features" = some p.features

inductive HoldsPolicies : Value → List PolicyConfig → Prop where
  | array {items : List Value} {policies : List PolicyConfig}
      (each : List.Forall₂ HoldsPolicy items policies) : HoldsPolicies (.array items) policies

def HoldsGateway (v : Value) (listen : String) : Prop :=
  ∃ given, Gives ["listen"] v given ∧
    Optionally HoldsText "0.0.0.0:8080" (given.get? "listen") listen

def configFields : List String := ["version", "gateway", "policies"]

def HoldsConfig (v : Value) (c : Config) : Prop :=
  ∃ given version, Gives configFields v given ∧
    given.get? "version" = some version ∧ HoldsVersion version c.version ∧
    Optionally HoldsGateway "0.0.0.0:8080" (given.get? "gateway") c.listen ∧
    Optionally HoldsPolicies [] (given.get? "policies") c.policies

def record? (fields : List String) : Value → Option (Entries Value)
  | .array items => if items.length ≤ fields.length then some (fields.zip items) else none
  | v => membersAmong? fields v

theorem membersAmong?_eq_some_iff {names : List String} {v : Value} {members : Entries Value} :
    membersAmong? names v = some members ↔ v = .object members ∧ ∀ e ∈ members, e.1 ∈ names := by
  unfold membersAmong?
  split
  · next given =>
    simp only [List.all_eq_true, List.contains_iff_mem, Option.ite_none_right_eq_some,
      Option.some.injEq, Value.object.injEq]
    constructor
    · intro h
      obtain ⟨hknown, rfl⟩ := h
      exact ⟨rfl, hknown⟩
    · intro h
      obtain ⟨rfl, hknown⟩ := h
      exact ⟨hknown, rfl⟩
  · next hobject =>
    constructor
    · intro h
      cases h
    · intro h
      exact absurd h.1 (hobject members)

/-- A value gives the entries of a record as an object or as an array. -/
theorem record?_eq_some_iff {fields : List String} {v : Value} {given : Entries Value} :
    record? fields v = some given ↔ Gives fields v given := by
  unfold record?
  split
  · next items =>
    simp only [Option.ite_none_right_eq_some, Option.some.injEq]
    constructor
    · intro h
      obtain ⟨hroom, rfl⟩ := h
      exact .byPlace hroom
    · intro h
      cases h with
      | byPlace hroom => exact ⟨hroom, rfl⟩
  · next harray =>
    rw [membersAmong?_eq_some_iff]
    constructor
    · intro h
      obtain ⟨rfl, hknown⟩ := h
      exact .byName hknown
    · intro h
      cases h with
      | byName hknown => exact ⟨rfl, hknown⟩
      | byPlace => exact absurd rfl (harray _)

/-- A value gives one thing for a record, since no value is both an object and an array. -/
theorem Gives.unique {fields : List String} {v : Value} {a b : Entries Value}
    (ha : Gives fields v a) (hb : Gives fields v b) : a = b := by
  rw [← record?_eq_some_iff] at ha hb
  exact Option.some.inj (ha.symm.trans hb)

/-- A field with a default is left out or read as its reader has it. -/
theorem optionally_iff {α : Type} {read? : Value → Option α} {Holds : Value → α → Prop}
    (hread : ∀ v a, read? v = some a ↔ Holds v a) {default : α} {field : Option Value} {a : α} :
    field.elim (some default) read? = some a ↔ Optionally Holds default field a := by
  cases field with
  | none =>
    constructor
    · intro h
      cases h
      exact .absent
    · intro h
      cases h
      rfl
  | some v =>
    rw [Option.elim_some, hread]
    constructor
    · intro h
      exact .given h
    · intro h
      cases h with
      | given holds => exact holds

/-- Integers beyond 32 bits are no versions. -/
theorem versionOfValue?_eq_some_iff {v : Value} {version : UInt32} :
    versionOfValue? v = some version ↔ HoldsVersion v version := by
  constructor
  · intro h
    unfold versionOfValue? at h
    split at h
    · next i =>
      split at h
      · next hrange =>
        cases h
        -- A number in this range comes back from its 32 bits.
        have hsize : i.toNat < UInt32.size := by omega
        have hsame : ((i.toNat.toUInt32.toNat : Nat) : Int) = i := by
          rw [UInt32.toNat_ofNat_of_lt' hsize]
          omega
        exact congrArg Value.int hsame.symm
      · cases h
    · cases h
  · intro h
    subst h
    have hrange := version.toNat_lt_size
    simp [versionOfValue?, hrange]

theorem textOfValue?_eq_some_iff {v : Value} {s : String} :
    textOfValue? v = some s ↔ HoldsText v s := by
  cases v <;> simp [textOfValue?, HoldsText]

theorem dialectOfValue?_eq_some_iff {v : Value} {d : Dialect} :
    dialectOfValue? v = some d ↔ HoldsDialect v d := by
  constructor
  · intro h
    unfold dialectOfValue? at h
    split at h
    · rw [Dialect.name_of_ofName? h]
      exact .name d
    · rw [Dialect.name_of_ofName? h]
      exact .member d
    · cases h
  · intro h
    cases h with
    | name => exact Dialect.ofName?_name d
    | member => exact Dialect.ofName?_name d

/-- An array and an object are read alike once their entries are given. -/
theorem policyOfValue?_eq (v : Value) :
    policyOfValue? v = (record? ["dialect", "features"] v).bind fun given =>
      (given.get? "dialect").bind fun dialect => (dialectOfValue? dialect).bind fun d =>
        (given.get? "features").bind fun features => some ⟨d, features⟩ := by
  cases v with
  | array items =>
    match items with
    | [] | [_] => simp [policyOfValue?, record?, Entries.get?]
    | [dialect, features] => simp [policyOfValue?, record?, Entries.get?]
    | _ :: _ :: _ :: _ => simp [policyOfValue?, record?]
  | _ => rfl

theorem policyOfValue?_eq_some_iff {v : Value} {p : PolicyConfig} :
    policyOfValue? v = some p ↔ HoldsPolicy v p := by
  rw [policyOfValue?_eq]
  simp only [Option.bind_eq_some_iff, record?_eq_some_iff, dialectOfValue?_eq_some_iff,
    Option.some.injEq]
  constructor
  · intro h
    obtain ⟨given, hgives, dialect, hdialect, d, hholds, features, hfeatures, rfl⟩ := h
    exact ⟨given, dialect, hgives, hdialect, hholds, hfeatures⟩
  · intro h
    obtain ⟨given, dialect, hgives, hdialect, hholds, hfeatures⟩ := h
    exact ⟨given, hgives, dialect, hdialect, p.dialect, hholds, p.features, hfeatures, rfl⟩

theorem policiesOfValue?_eq_some_iff {v : Value} {policies : List PolicyConfig} :
    policiesOfValue? v = some policies ↔ HoldsPolicies v policies := by
  constructor
  · intro h
    unfold policiesOfValue? at h
    split at h
    · next items =>
      rw [mapM_eq_some_iff_forall₂] at h
      apply HoldsPolicies.array
      exact h.imp fun item p hitem => policyOfValue?_eq_some_iff.1 hitem
    · cases h
  · intro h
    obtain ⟨heach⟩ := h
    rw [policiesOfValue?, mapM_eq_some_iff_forall₂]
    exact heach.imp fun item p hitem => policyOfValue?_eq_some_iff.2 hitem

theorem listenOfValue?_eq (v : Value) :
    listenOfValue? v = (record? ["listen"] v).bind fun given =>
      (given.get? "listen").elim (some defaultListen) textOfValue? := by
  cases v with
  | array items =>
    match items with
    | [] | [_] => simp [listenOfValue?, record?, Entries.get?]
    | _ :: _ :: _ => simp [listenOfValue?, record?]
  | object members =>
    simp only [listenOfValue?, record?, Option.bind_eq_bind]
    congr 1
    funext given
    cases given.get? "listen" <;> rfl
  | _ => rfl

theorem listenOfValue?_eq_some_iff {v : Value} {listen : String} :
    listenOfValue? v = some listen ↔ HoldsGateway v listen := by
  rw [listenOfValue?_eq]
  simp only [Option.bind_eq_some_iff, record?_eq_some_iff,
    optionally_iff fun v s => @textOfValue?_eq_some_iff v s, HoldsGateway, defaultListen]

theorem ofParts?_eq (version gateway policies : Option Value) :
    ofParts? version gateway policies = version.bind fun v => (versionOfValue? v).bind fun n =>
      (gateway.elim (some defaultListen) listenOfValue?).bind fun listen =>
        (policies.elim (some []) policiesOfValue?).bind fun policies =>
          some ⟨n, listen, policies⟩ := by
  cases version <;> cases gateway <;> cases policies <;> rfl

/-- A configuration is read from the entries of its record, however they are written. -/
theorem ofValue?_eq (v : Value) :
    ofValue? v = (record? configFields v).bind fun given =>
      ofParts? (given.get? "version") (given.get? "gateway") (given.get? "policies") := by
  cases v with
  | array items =>
    match items with
    | [] | [_] | [_, _] | [_, _, _] =>
      simp [ofValue?, record?, configFields, Entries.get?, ofParts?]
    | _ :: _ :: _ :: _ :: _ => simp [ofValue?, record?, configFields, Nat.add_assoc]
  | _ => rfl

theorem ofValue?_eq_some_iff {v : Value} {c : Config} : ofValue? v = some c ↔ HoldsConfig v c := by
  rw [ofValue?_eq]
  simp only [ofParts?_eq, Option.bind_eq_some_iff, record?_eq_some_iff,
    versionOfValue?_eq_some_iff, optionally_iff fun v a => @listenOfValue?_eq_some_iff v a,
    optionally_iff fun v a => @policiesOfValue?_eq_some_iff v a, Option.some.injEq, defaultListen]
  constructor
  · intro h
    obtain ⟨given, hgives, version, hversion, n, hholds, listen, hlisten, policies, hpolicies,
      rfl⟩ := h
    exact ⟨given, version, hgives, hversion, hholds, hlisten, hpolicies⟩
  · intro h
    obtain ⟨given, version, hgives, hversion, hholds, hlisten, hpolicies⟩ := h
    exact ⟨given, hgives, version, hversion, c.version, hholds, c.listen, hlisten, c.policies,
      hpolicies, rfl⟩

theorem not_optionally_null {α : Type} {Holds : Value → α → Prop} {default a : α}
    (hnull : ¬ Holds .null a) : ¬ Optionally Holds default (some .null) a := by
  intro h
  cases h with
  | given holds => exact hnull holds

/-- The gateway and the policies may be left out, but `null` is not the same as leaving them out. -/
theorem ofValue?_eq_none_of_null {v : Value} {given : Entries Value}
    (hgives : Gives configFields v given)
    (hnull : given.get? "gateway" = some .null ∨ given.get? "policies" = some .null) :
    ofValue? v = none := by
  rw [Option.eq_none_iff_forall_ne_some]
  intro c hread
  obtain ⟨given', _, hgives', -, -, hlisten, hpolicies⟩ := ofValue?_eq_some_iff.1 hread
  obtain rfl : given' = given := hgives'.unique hgives
  rcases hnull with hnull | hnull
  · rw [hnull] at hlisten
    apply not_optionally_null _ hlisten
    intro hgateway
    obtain ⟨_, hmembers, -⟩ := hgateway
    cases hmembers
  · rw [hnull] at hpolicies
    apply not_optionally_null _ hpolicies
    intro hlist
    cases hlist

/-- A value is read exactly when it holds a configuration, and as the one that it holds. A `null`
in the place of the gateway or of the policies does not stand for the default. -/
theorem value_read_iff_holds_config (v : Value) :
    (∀ c, ofValue? v = some c ↔ HoldsConfig v c) ∧
      ∀ given, Gives configFields v given →
        (given.get? "gateway" = some .null ∨ given.get? "policies" = some .null) →
        ofValue? v = none := by
  refine ⟨fun c => ofValue?_eq_some_iff, ?_⟩
  intro given hgives hnull
  exact ofValue?_eq_none_of_null hgives hnull

/-- Arrays and objects may stand for the records side by side. -/
theorem value_holds_config_in_arrays :
    HoldsConfig (.array [.int 1, .array [],
        .array [.array [.object [("feature", .null)], .object [("usb", .array [])]],
          .object [("features", .null), ("dialect", .string "permissions")]]])
      ⟨1, "0.0.0.0:8080",
        [⟨.feature, .object [("usb", .array [])]⟩, ⟨.permissions, .null⟩]⟩ ∧
      ofValue? (.object [("gateway", .null), ("version", .int 1)]) = none := by
  obtain ⟨hheld, -⟩ := value_read_iff_holds_config (.array [.int 1, .array [],
    .array [.array [.object [("feature", .null)], .object [("usb", .array [])]],
      .object [("features", .null), ("dialect", .string "permissions")]]])
  obtain ⟨-, hnull⟩ := value_read_iff_holds_config
    (.object [("gateway", .null), ("version", .int 1)])
  refine ⟨(hheld _).1 rfl, hnull _ (.byName ?_) (.inl rfl)⟩
  simp [configFields]

end BrowserPolicy.Config

import Mathlib.Tactic
import KeyedRecords.Description.Model
import KeyedRecords.Description.Role

/-!
# What a role says of a declaration

Results:
* `asks_of_role?`: only fields are persisted or ignored, and only key enumerations are keys.
* `withRole_fields_perm`: where every declaration has a role, every field is persisted or ignored.
* `typed_of_find`: the fields of a description that was found have types.
-/

namespace KeyedRecords.Description

open Source

/-! ## Roles -/

/-- What a role asks of a declaration. -/
def Role.Asks (d : Declaration) : Role → Prop
  | storageName => True
  | ignored => d.kind = .field
  | modelKeys => ∃ k, d.keyEnum = some k
  | migrationKeys => ∃ k, d.keyEnum = some k
  | persisted => d.kind = .field

namespace Declaration

variable {d : Declaration} {r r' : Role}

theorem role?_eq_some_iff : d.role? = some r ↔ d.role = .ok r := by
  unfold role?
  cases d.role <;> simp [Except.toOption]

theorem storageNameRole_eq_ok (h : d.storageNameRole = .ok r) : r = .storageName := by
  unfold storageNameRole at h
  split at h <;> cases h
  rfl

theorem fieldRole_eq_ok (h : d.fieldRole r = .ok r') : r' = r ∧ d.kind = .field := by
  unfold fieldRole at h
  split at h
  · next hk => cases h; exact ⟨rfl, hk⟩
  · cases h

theorem keyEnumRole_eq_ok {m : Marker} (h : d.keyEnumRole m r = .ok r') :
    r' = r ∧ ∃ k, d.keyEnum = some k := by
  unfold keyEnumRole at h
  split at h
  · split_ifs at h with hconforms
    cases h
    refine ⟨rfl, ?_⟩
    cases hk : d.keyEnum with
    | none => rw [hk] at hconforms; cases hconforms
    | some k => exact ⟨k, rfl⟩
  · cases h

theorem asks_of_role? (h : d.role? = some r) : r.Asks d := by
  rw [role?_eq_some_iff] at h
  unfold role at h
  split_ifs at h
  · rw [storageNameRole_eq_ok h]; trivial
  · obtain ⟨rfl, hk⟩ := fieldRole_eq_ok h; exact hk
  · obtain ⟨rfl, hk⟩ := keyEnumRole_eq_ok h; exact hk
  · obtain ⟨rfl, hk⟩ := keyEnumRole_eq_ok h; exact hk
  · obtain ⟨rfl, hk⟩ := fieldRole_eq_ok h; exact hk

/-- A field with a role is persisted or ignored. -/
theorem role?_of_field (hk : d.kind = .field) (h : d.role? = some r) :
    r = .persisted ∨ r = .ignored := by
  rw [role?_eq_some_iff] at h
  unfold role at h
  split_ifs at h
  · simp [storageNameRole, hk] at h
  · exact .inr (fieldRole_eq_ok h).1
  · simp [keyEnumRole, hk] at h
  · simp [keyEnumRole, hk] at h
  · exact .inl (fieldRole_eq_ok h).1

end Declaration

theorem roleProblems_eq_nil_iff {ds : List Declaration} :
    roleProblems ds = [] ↔ ∀ d ∈ ds, ∃ r, d.role? = some r := by
  unfold roleProblems
  rw [List.filterMap_eq_nil_iff]
  refine forall₂_congr fun d _ => ?_
  unfold Declaration.roleProblem? Declaration.role?
  cases d.role <;> simp [Except.toOption]

theorem mem_withRole {ds : List Declaration} {r : Role} {d : Declaration} :
    d ∈ withRole ds r ↔ d ∈ ds ∧ d.role? = some r := by
  simp [withRole]

/-- Where every declaration has a role, the persisted and the ignored fields are all fields. -/
theorem withRole_fields_perm {ds : List Declaration} (h : roleProblems ds = []) :
    (withRole ds .persisted ++ withRole ds .ignored).Perm (ds.filter fun d => d.kind = .field) := by
  have hpersisted : withRole ds .persisted =
      (ds.filter fun d => d.kind = .field).filter fun d => d.role? = some .persisted := by
    unfold withRole
    rw [List.filter_filter]
    refine List.filter_congr fun d _ => ?_
    rw [Bool.eq_iff_iff]
    simp only [decide_eq_true_eq, Bool.and_eq_true]
    exact ⟨fun hr => ⟨hr, Declaration.asks_of_role? hr⟩, And.left⟩
  have hignored : withRole ds .ignored =
      (ds.filter fun d => d.kind = .field).filter fun d => !decide (d.role? = some .persisted) := by
    unfold withRole
    rw [List.filter_filter]
    refine List.filter_congr fun d hd => ?_
    rw [Bool.eq_iff_iff]
    simp only [decide_eq_true_eq, Bool.and_eq_true, Bool.not_eq_true', decide_eq_false_iff_not]
    constructor
    · intro hr
      refine ⟨?_, Declaration.asks_of_role? hr⟩
      rw [hr]
      decide
    · rintro ⟨hne, hk⟩
      obtain ⟨r, hr⟩ := roleProblems_eq_nil_iff.mp h d hd
      rcases Declaration.role?_of_field hk hr with rfl | rfl
      · exact absurd hr hne
      · exact hr
  rw [hpersisted, hignored]
  exact List.filter_append_perm _ _

/-- There is a first key enumeration with a role if there is any. -/
theorem exists_keyEnum_withRole {ds : List Declaration} {r : Role}
    (hr : r = .modelKeys ∨ r = .migrationKeys) :
    (∃ d k, (withRole ds r).head? = some d ∧ d.keyEnum = some k) ↔ ∃ d ∈ ds, d.role? = some r := by
  constructor
  · rintro ⟨d, -, hd, -⟩
    exact ⟨d, mem_withRole.mp (List.mem_of_head? hd)⟩
  · rintro ⟨d, hd⟩
    have hmem := mem_withRole.mpr hd
    cases hl : withRole ds r with
    | nil => rw [hl] at hmem; cases hmem
    | cons first others =>
      have hfirst : first ∈ withRole ds r := by rw [hl]; exact List.mem_cons_self
      have hasks := Declaration.asks_of_role? (mem_withRole.mp hfirst).2
      obtain ⟨k, hk⟩ : ∃ k, first.keyEnum = some k := by
        rcases hr with rfl | rfl <;> exact hasks
      exact ⟨first, k, rfl, hk⟩

/-! ## Types of fields -/

/-- A field has a type. -/
def Declaration.Typed (d : Declaration) : Prop := d.kind = .field → ∃ type, d.type = some type

namespace Declaration

theorem typed_ofField (f : Field) : (ofField f).1.Typed := fun _ => ⟨f.type, rfl⟩

theorem kind_ofEnum (e : EnumItem) : (ofEnum e).1.kind = .enum := by
  unfold ofEnum
  dsimp only
  split_ifs <;> rfl

/-- Only the structure has fields. -/
theorem kind_ofMarkedItem_ne_field (i : Item) : (ofMarkedItem i).1.kind ≠ .field := by
  intro hkind
  unfold ofMarkedItem at hkind
  split at hkind
  · cases hkind
  · rw [kind_ofEnum] at hkind; cases hkind
  · cases hkind

theorem typed_ofItem {i : Item} {d : Declaration} (h : (ofItem i).1 = some d) : d.Typed := by
  unfold ofItem at h
  split_ifs at h
  cases h
  exact fun hkind => absurd hkind (kind_ofMarkedItem_ne_field i)

end Declaration

theorem typed_of_describeModel {fallback : Ident} {i : Item} {m : ModelDescription}
    (h : (describeModel fallback i).1 = some m) : ∀ d ∈ m.declarations, d.Typed := by
  unfold describeModel at h
  split at h
  · unfold ModelDescription.ofStruct at h
    split at h
    · cases h
    · cases h
      intro d hd
      obtain ⟨p, hp, rfl⟩ := List.mem_map.mp hd
      obtain ⟨f, -, rfl⟩ := List.mem_map.mp hp
      exact Declaration.typed_ofField f
  · cases h
    intro d hd
    cases hd

theorem typed_of_findInModule {name : Option Ident} {head : ModuleHead} {items : List Item}
    {found : Found} (h : (findInModule name head items).1 = some found) :
    ∀ d ∈ found.model.declarations, d.Typed := by
  unfold findInModule at h
  split at h
  · cases h
  · dsimp only at h
    split at h
    · cases h
    · obtain ⟨m, hm, rfl⟩ := Option.map_eq_some_iff.mp h
      intro d hd
      rcases List.mem_append.mp hd with hd | hd
      · exact typed_of_describeModel hm d hd
      · obtain ⟨around, haround, hsome⟩ := List.mem_filterMap.mp hd
        obtain ⟨i, -, rfl⟩ := List.mem_map.mp haround
        exact Declaration.typed_ofItem hsome

/-- The fields of a description that was found have types. -/
theorem typed_of_find {name : Option Ident} {item : Item} {found : Found}
    (h : (find name item).1 = some found) : ∀ d ∈ found.model.declarations, d.Typed := by
  unfold find at h
  split at h
  · cases h
  · exact typed_of_findInModule h
  · obtain ⟨m, hm, rfl⟩ := Option.map_eq_some_iff.mp h
    exact typed_of_describeModel hm

end KeyedRecords.Description

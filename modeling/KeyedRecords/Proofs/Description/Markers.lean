import KeyedRecords.Description.Plan
import KeyedRecords.Proofs.Description.Role

/-!
# Which marker a declaration carries

A marker gives its declaration a role, or the declaration cannot carry it and that is reported. Of
several markers on one declaration only the first in the order of the roles counts, and the others
are taken off with it.

Results:
* `has_ofAttributes`: the markers of a declaration are those among its attributes.
* `role?_of_first?`: a declaration that has a role has that of the marker that counts.
* `roleProblem?_of_not_carries`: a declaration is refused for a marker that it cannot carry.
* `carries_ofMarkedItem`: what an item next to the model can carry.
-/

namespace KeyedRecords.Description

open Source

/-! ## Markers among attributes -/

section Attributes

variable {attrs : List Attribute} {a : Attribute} {k : Marker} {word : String}

/-- The attributes that are markers by their names. -/
def marked (attrs : List Attribute) : List Attribute :=
  attrs.filter fun a =>
    ["storage_name", "persisted_ignored", "model_coding_key", "migration"].any a.isNamed

/-- The marker that counts among some attributes: of several the first in this order. -/
def firstMarker (attrs : List Attribute) : Option Marker :=
  [Marker.storageName, .ignored, .modelKeys, .migrationKeys].find? fun k =>
    attrs.any fun a => a.isNamed k.name

/-- An attribute has one name. -/
theorem isNamed_of_isNamed (ha : a.isNamed word) (word' : String) :
    a.isNamed word' = (word == word') := by
  unfold Attribute.isNamed Path.isWord at ha ⊢
  obtain ⟨i, hi, hword⟩ := (Option.any_eq_true _ _).mp ha
  simp only [Ident.isWord, Bool.and_eq_true, beq_iff_eq] at hword
  rw [hi, Option.any_some, Ident.isWord, hword.1, hword.2, Bool.true_and]

/-- An attribute is the marker whose name it has. -/
theorem ofAttribute_eq_some_iff : Marker.ofAttribute a = some k ↔ a.isNamed k.name := by
  unfold Marker.ofAttribute
  constructor
  · intro h
    exact List.find?_some (p := fun m : Marker => a.isNamed m.name) h
  · intro h
    simp only [isNamed_of_isNamed h]
    cases k <;> decide

theorem isSome_ofAttribute : (Marker.ofAttribute a).isSome =
    ["storage_name", "persisted_ignored", "model_coding_key", "migration"].any a.isNamed := by
  unfold Marker.ofAttribute
  rw [Bool.eq_iff_iff, List.find?_isSome, ← List.any_eq_true]
  rfl

theorem marked_eq_nil_iff : marked attrs = [] ↔ unmarked attrs = attrs := by
  unfold marked unmarked
  rw [List.filter_eq_nil_iff, List.filter_eq_self]
  refine forall₂_congr fun a _ => ?_
  rw [← isSome_ofAttribute]
  cases Marker.ofAttribute a <;> simp

/-- Attributes without a marker are those of which none has the name of one. -/
theorem marked_eq_nil_iff_forall :
    marked attrs = [] ↔ ∀ k : Marker, ∀ a ∈ attrs, a.isNamed k.name = false := by
  unfold marked
  rw [List.filter_eq_nil_iff]
  simp only [← isSome_ofAttribute, Option.isSome_iff_exists, ofAttribute_eq_some_iff, not_exists,
    Bool.not_eq_true]
  exact ⟨fun h k a ha => h a ha k, fun h a ha k => h k a ha⟩

/-- No marker counts exactly if there is none. -/
theorem firstMarker_eq_none_iff : firstMarker attrs = none ↔ marked attrs = [] := by
  unfold firstMarker
  rw [List.find?_eq_none, marked_eq_nil_iff_forall]
  simp only [List.any_eq_true, not_exists, not_and, Bool.not_eq_true]
  exact ⟨fun h k => h k (by cases k <;> decide), fun h k _ => h k⟩

theorem markerProblems_of_unmarked (h : marked attrs = []) : markerProblems attrs = [] := by
  unfold markerProblems
  rw [List.map_eq_nil_iff, List.filterMap_eq_nil_iff]
  intro a ha
  have hnone : Marker.ofAttribute a = none := by
    rw [Option.eq_none_iff_forall_ne_some]
    intro k hk
    rw [ofAttribute_eq_some_iff, marked_eq_nil_iff_forall.mp h k a ha] at hk
    cases hk
  unfold markerProblem
  rw [hnone]

@[simp] theorem unmarked_unmarked : unmarked (unmarked attrs) = unmarked attrs := by
  unfold unmarked
  rw [List.filter_filter]
  simp only [Bool.and_self]

@[simp] theorem marked_unmarked : marked (unmarked attrs) = [] :=
  marked_eq_nil_iff.mpr unmarked_unmarked

/-- An attribute with another name is no marker. -/
theorem ofAttribute_of_isNamed (ha : a.isNamed word) (hword : ∀ k : Marker, k.name ≠ word) :
    Marker.ofAttribute a = none := by
  rw [Option.eq_none_iff_forall_ne_some]
  intro k hk
  rw [ofAttribute_eq_some_iff, isNamed_of_isNamed ha, beq_iff_eq] at hk
  exact hword k hk.symm

theorem marked_filter_isNamed (hword : ∀ k : Marker, k.name ≠ word) :
    marked (attrs.filter fun a => a.isNamed word) = [] := by
  unfold marked
  rw [List.filter_eq_nil_iff]
  intro a ha
  rw [← isSome_ofAttribute, ofAttribute_of_isNamed (List.mem_filter.mp ha).2 hword]
  exact Bool.false_ne_true

theorem filter_isNamed_unmarked (hword : ∀ k : Marker, k.name ≠ word) :
    (unmarked attrs).filter (fun a => a.isNamed word) = attrs.filter fun a => a.isNamed word := by
  unfold unmarked
  rw [List.filter_filter]
  refine List.filter_congr fun a _ => ?_
  cases ha : a.isNamed word with
  | false => rfl
  | true => rw [ofAttribute_of_isNamed ha hword]; rfl

theorem name_ne_derive (k : Marker) : k.name ≠ "derive" := by cases k <;> decide

theorem derivesCodingKey_unmarked : derivesCodingKey (unmarked attrs) = derivesCodingKey attrs := by
  unfold derivesCodingKey derivedPaths
  rw [filter_isNamed_unmarked name_ne_derive]

end Attributes

namespace Markers

/-- Whether this marker is among the markers. -/
def has (m : Markers) : Marker → Bool
  | .storageName => m.storageName
  | .ignored => m.ignored.isSome
  | .modelKeys => m.modelKeys
  | .migrationKeys => m.migrationKeys

/-- The marker that decides the role. -/
def first? (m : Markers) : Option Marker :=
  [Marker.storageName, .ignored, .modelKeys, .migrationKeys].find? m.has

variable {m : Markers} {attrs : List Attribute} {k : Marker}

theorem has_add (a : Attribute) :
    (m.add a).has k = (m.has k || a.isNamed k.name) := by
  rw [Bool.eq_iff_iff, Bool.or_eq_true, ← ofAttribute_eq_some_iff]
  unfold add
  cases Marker.ofAttribute a with
  | none => simp
  | some k' => cases k' <;> cases k <;> simp [has]

theorem has_foldl : ∀ {m : Markers}, (attrs.foldl add m).has k =
    (m.has k || attrs.any fun a => a.isNamed k.name) := by
  induction attrs with
  | nil => intro m; simp
  | cons a attrs ih =>
    intro m
    rw [List.foldl_cons, ih, has_add, List.any_cons, Bool.or_assoc]

/-- The markers of a declaration are those among its attributes. -/
theorem has_ofAttributes :
    (ofAttributes attrs).has k = attrs.any fun a => a.isNamed k.name := by
  unfold ofAttributes
  rw [has_foldl]
  cases k <;> rfl

theorem first?_ofAttributes : (ofAttributes attrs).first? = firstMarker attrs := by
  unfold first? firstMarker
  congr 1
  funext k
  exact has_ofAttributes

theorem has_of_first? (h : m.first? = some k) : m.has k := List.find?_some h

/-- There are no markers exactly if none decides the role. -/
theorem isEmpty_iff : m.isEmpty = true ↔ m.first? = none := by
  unfold isEmpty first?
  rw [decide_eq_true_iff, List.find?_eq_none]
  constructor
  · rintro rfl k -
    cases k <;> decide
  · intro h
    obtain ⟨storageName, ignored, modelKeys, migrationKeys⟩ := m
    simp only [List.forall_mem_cons, has, Bool.not_eq_true, Option.isSome_eq_false_iff,
      Option.isNone_iff_eq_none] at h
    obtain ⟨rfl, rfl, rfl, rfl, -⟩ := h
    rfl

theorem isEmpty_ofAttributes : (ofAttributes attrs).isEmpty = true ↔ marked attrs = [] := by
  rw [isEmpty_iff, first?_ofAttributes, firstMarker_eq_none_iff]

end Markers

/-! ## Carrying a marker -/

/-- The role that a marker gives. -/
def Marker.role : Marker → Role
  | storageName => .storageName
  | ignored => .ignored
  | modelKeys => .modelKeys
  | migrationKeys => .migrationKeys

/-- A problem is the refusal of a marker on the declaration with this name. -/
def Problem.Refuses (k : Marker) (label : String) : Problem → Prop
  | invalidStorageName name _ => k = .storageName ∧ name = label
  | notField name _ => k = .ignored ∧ name = label
  | notKeyEnum marker name _ => k = marker ∧ name = label
  | _ => False

namespace Declaration

variable {d : Declaration} {k : Marker}

/-- What a marker asks of its declaration. -/
def Carries (d : Declaration) : Marker → Prop
  | .storageName => ∃ kind, d.kind = .value kind ∧ kind ≠ .mutable
  | .ignored => d.kind = .field
  | .modelKeys => d.kind = .enum ∧ d.keyEnum.any KeyEnum.conforms
  | .migrationKeys => d.kind = .enum ∧ d.keyEnum.any KeyEnum.conforms

/-- The marker that counts decides the role. -/
theorem role_of_first? (h : d.markers.first? = some k) : d.role =
    match k with
    | .storageName => d.storageNameRole
    | .ignored => d.fieldRole .ignored
    | .modelKeys => d.keyEnumRole .modelKeys .modelKeys
    | .migrationKeys => d.keyEnumRole .migrationKeys .migrationKeys := by
  unfold role
  unfold Markers.first? at h
  simp only [List.find?_cons, Markers.has] at h
  cases hstorage : d.markers.storageName <;> cases hignored : d.markers.ignored.isSome <;>
    cases hkeys : d.markers.modelKeys <;> cases hold : d.markers.migrationKeys <;>
    rw [hstorage, hignored, hkeys, hold] at h <;> cases h <;> rfl

/-- Without a marker only a field has a role. -/
theorem role_of_first?_none (h : d.markers.first? = none) : d.role = d.fieldRole .persisted := by
  rw [← Markers.isEmpty_iff] at h
  unfold Markers.isEmpty at h
  rw [decide_eq_true_iff] at h
  unfold role
  rw [h]
  rfl

theorem storageNameRole_carries : d.Carries .storageName ∧ d.storageNameRole = .ok .storageName ∨
    ¬ d.Carries .storageName ∧ ∃ g, d.storageNameRole = .error g ∧
      g.problem.Refuses .storageName d.name.text := by
  unfold storageNameRole
  dsimp only
  split
  · next hkind =>
    refine .inr ⟨?_, _, rfl, rfl, rfl⟩
    rintro ⟨kind, hvalue, hmutable⟩
    rw [hkind] at hvalue
    cases hvalue
    exact hmutable rfl
  · next kind hmutable hkind => exact .inl ⟨⟨kind, hkind, hmutable⟩, rfl⟩
  · next hkind =>
    refine .inr ⟨?_, _, rfl, rfl, rfl⟩
    rintro ⟨kind, hvalue, -⟩
    rw [hkind] at hvalue
    cases hvalue
  · next hvalue _ =>
    refine .inr ⟨?_, _, rfl, rfl, rfl⟩
    rintro ⟨kind, hkind, -⟩
    exact hvalue kind hkind

theorem fieldRole_carries : d.Carries .ignored ∧ d.fieldRole .ignored = .ok .ignored ∨
    ¬ d.Carries .ignored ∧ ∃ g, d.fieldRole .ignored = .error g ∧
      g.problem.Refuses .ignored d.name.text := by
  unfold fieldRole
  split
  · next hkind => exact .inl ⟨hkind, rfl⟩
  · next hkind => exact .inr ⟨hkind, _, rfl, rfl, rfl⟩

theorem keyEnumRole_carries {r : Role} :
    (d.kind = .enum ∧ d.keyEnum.any KeyEnum.conforms) ∧ d.keyEnumRole k r = .ok r ∨
    ¬ (d.kind = .enum ∧ d.keyEnum.any KeyEnum.conforms) ∧ ∃ g, d.keyEnumRole k r = .error g ∧
      g.problem.Refuses k d.name.text := by
  unfold keyEnumRole
  dsimp only
  split
  · next hkind =>
    split_ifs with hconforms
    · exact .inl ⟨⟨hkind, hconforms⟩, rfl⟩
    · exact .inr ⟨fun h => hconforms h.2, _, rfl, rfl, rfl⟩
  · next hkind => exact .inr ⟨fun h => hkind h.1, _, rfl, rfl, rfl⟩

/-- A marker that counts either gives its declaration a role or is refused. -/
theorem role_carries (h : d.markers.first? = some k) : d.Carries k ∧ d.role = .ok k.role ∨
    ¬ d.Carries k ∧ ∃ g, d.role = .error g ∧ g.problem.Refuses k d.name.text := by
  rw [role_of_first? h]
  cases k with
  | storageName => exact storageNameRole_carries
  | ignored => exact fieldRole_carries
  | modelKeys => exact keyEnumRole_carries
  | migrationKeys => exact keyEnumRole_carries

/-- A declaration that has a role has that of the marker that counts. -/
theorem role?_of_first? {r : Role} (h : d.markers.first? = some k) (hr : d.role? = some r) :
    d.role? = some k.role := by
  rw [role?_eq_some_iff] at hr ⊢
  rcases role_carries h with ⟨-, hrole⟩ | ⟨-, g, hrole, -⟩
  · exact hrole
  · rw [hrole] at hr
    cases hr

/-- A declaration is refused for a marker that it cannot carry. -/
theorem roleProblem?_of_not_carries (h : d.markers.first? = some k) (hnot : ¬ d.Carries k) :
    ∃ g, d.roleProblem? = some g ∧ g.problem.Refuses k d.name.text := by
  rcases role_carries h with ⟨hcarries, -⟩ | ⟨-, g, hrole, hrefuses⟩
  · exact absurd hcarries hnot
  · refine ⟨g, ?_, hrefuses⟩
    unfold roleProblem?
    rw [hrole]

/-! ## Declarations as they are written -/

/-- The name under which an item next to the model is reported. -/
def itemLabel (i : Item) : String := (i.ident?.getD (.ofName "item")).text

/-- What an item next to the model can carry: a value that never changes the storage name, and an
    enumeration that derives what makes it one of keys the keys. -/
def CarriedBy : Marker → Item → Prop
  | .storageName, .value v => v.kind ≠ .mutable
  | .modelKeys, .enum e => derivesCodingKey e.attrs
  | .migrationKeys, .enum e => derivesCodingKey e.attrs
  | _, _ => False

/-- A field carries the marker that ignores it and no other. -/
theorem carries_ofField {f : Field} : (ofField f).1.Carries k ↔ k = .ignored := by
  cases k <;> simp [ofField, Carries]

theorem markers_ofMarkedItem (i : Item) : (ofMarkedItem i).1.markers = .ofAttributes i.attrs := by
  cases i with
  | enum e =>
    show (ofEnum e).1.markers = _
    unfold ofEnum
    dsimp only
    split_ifs <;> rfl
  | _ => rfl

theorem name_ofMarkedItem (i : Item) : (ofMarkedItem i).1.name = i.ident?.getD (.ofName "item") := by
  cases i with
  | enum e =>
    show (ofEnum e).1.name = _
    unfold ofEnum
    dsimp only
    split_ifs <;> rfl
  | _ => rfl

theorem attrs_ofMarkedItem (i : Item) : (ofMarkedItem i).1.attrs = [] := by
  cases i with
  | enum e =>
    show (ofEnum e).1.attrs = _
    unfold ofEnum
    dsimp only
    split_ifs <;> rfl
  | _ => rfl

/-- The cases of an enumeration are read for the markers that need them. -/
theorem keyEnum_ofEnum {e : EnumItem} (hk : k = .modelKeys ∨ k = .migrationKeys)
    (h : firstMarker e.attrs = some k) :
    (ofEnum e).1.keyEnum.any KeyEnum.conforms = derivesCodingKey e.attrs := by
  rw [← Markers.first?_ofAttributes] at h
  have hhas := Markers.has_of_first? h
  have hwants : ((Markers.ofAttributes e.attrs).modelKeys
      || (Markers.ofAttributes e.attrs).migrationKeys) = true := by
    rcases hk with rfl | rfl
    · rw [Bool.or_eq_true]; exact .inl hhas
    · rw [Bool.or_eq_true]; exact .inr hhas
  unfold ofEnum
  dsimp only
  rw [if_pos hwants, ← derivesCodingKey_unmarked]
  rfl

/-- What an item next to the model can carry. -/
theorem carries_ofMarkedItem {i : Item} (h : firstMarker i.attrs = some k) :
    (ofMarkedItem i).1.Carries k ↔ CarriedBy k i := by
  cases i with
  | value v => cases k <;> simp [ofMarkedItem, Carries, CarriedBy]
  | enum e =>
    have hkind : (ofMarkedItem (.enum e)).1.kind = .enum := kind_ofEnum e
    cases k with
    | storageName => simp [Carries, CarriedBy, hkind]
    | ignored => simp [Carries, CarriedBy, hkind]
    | modelKeys =>
      simp only [Carries, CarriedBy, hkind, true_and]
      rw [← keyEnum_ofEnum (.inl rfl) h]
      rfl
    | migrationKeys =>
      simp only [Carries, CarriedBy, hkind, true_and]
      rw [← keyEnum_ofEnum (.inr rfl) h]
      rfl
  | _ => cases k <;> simp [ofMarkedItem, Carries, CarriedBy]

/-- A marked item next to the model is declared. -/
theorem ofItem_of_first {i : Item} (h : firstMarker i.attrs = some k) :
    (ofItem i).1 = some (ofMarkedItem i).1 := by
  have hmarked : marked i.attrs ≠ [] := by
    rw [ne_eq, ← firstMarker_eq_none_iff, h]
    exact Option.some_ne_none k
  unfold ofItem
  rw [if_neg (mt Markers.isEmpty_ofAttributes.mp hmarked)]

/-- An item without a marker declares nothing, and nothing is wrong with it. -/
theorem ofItem_of_unmarked {i : Item} (h : marked i.attrs = []) : ofItem i = (none, []) := by
  unfold ofItem
  rw [if_pos (Markers.isEmpty_ofAttributes.mpr h), markerProblems_of_unmarked h]

/-- Whether an item carries a marker. -/
def isMarked (i : Item) : Bool := !(marked i.attrs).isEmpty

theorem isMarked_eq_false_iff {i : Item} : isMarked i = false ↔ marked i.attrs = [] := by
  unfold isMarked
  rw [Bool.not_eq_false', List.isEmpty_iff]

/-- Only marked items declare something. -/
theorem ofItem_fst (i : Item) :
    (ofItem i).1 = if isMarked i then some (ofMarkedItem i).1 else none := by
  cases hmarked : isMarked i with
  | false => rw [ofItem_of_unmarked (isMarked_eq_false_iff.mp hmarked)]; rfl
  | true =>
    obtain ⟨k, hfirst⟩ : ∃ k, firstMarker i.attrs = some k := by
      rw [← Option.ne_none_iff_exists', ne_eq, firstMarker_eq_none_iff, ← isMarked_eq_false_iff,
        hmarked]
      decide
    exact ofItem_of_first hfirst

/-- The items next to the model declare what the marked ones declare. -/
theorem filterMap_ofItem (items : List Item) : (items.map ofItem).filterMap Prod.fst =
    (items.filter isMarked).map fun i => (ofMarkedItem i).1 := by
  rw [List.filterMap_map, ← List.filterMap_eq_map, List.filterMap_filter]
  exact List.filterMap_congr fun i _ => ofItem_fst i

theorem eq_ofMarkedItem {i : Item} (h : (ofItem i).1 = some d) : d = (ofMarkedItem i).1 := by
  unfold ofItem at h
  split_ifs at h
  exact (Option.some.inj h).symm

end Declaration

/-! ## Models as they are written -/

/-- The structure that describes the model, and the items next to it. -/
def writtenModel? (name : Option Ident) : Item → Option (StructItem × List Item)
  | .struct s => some (s, [])
  | .module _ (some items) =>
    match findModel name items with
    | .ok index =>
      match items[index]? with
      | some (.struct s) => some (s, items.eraseIdx index)
      | _ => none
    | .error _ => none
  | _ => none

/-- A marker that counts is written on a declaration that cannot carry it, which has this label:
    on a field, or on an item next to the model. -/
inductive Misplaced (s : StructItem) (around : List Item) (k : Marker) : String → Prop
  | onField {f : Field} (hmem : f ∈ ModelDescription.namedFields s.fields)
      (hfirst : firstMarker f.attrs = some k) (hnot : k ≠ .ignored) : Misplaced s around k f.name.text
  | onItem {i : Item} (hmem : i ∈ around) (hfirst : firstMarker i.attrs = some k)
      (hnot : ¬ Declaration.CarriedBy k i) : Misplaced s around k (Declaration.itemLabel i)

/-- The declarations of a model that is written as a structure and the items next to it. -/
def writtenDeclarations (s : StructItem) (around : List Item) : List Declaration :=
  ((ModelDescription.namedFields s.fields).map Declaration.ofField).map Prod.fst
    ++ (around.map Declaration.ofItem).filterMap Prod.fst

section Written

variable {s : StructItem} {around : List Item} {k : Marker} {label : String}

/-- A marker that is not carried is a problem of a declaration. -/
theorem Misplaced.refused (h : Misplaced s around k label) :
    ∃ g ∈ roleProblems (writtenDeclarations s around), g.problem.Refuses k label := by
  obtain ⟨d, hd, hfirst, hnot, hname⟩ : ∃ d ∈ writtenDeclarations s around,
      d.markers.first? = some k ∧ ¬ d.Carries k ∧ d.name.text = label := by
    cases h with
    | @onField f hmem hfirst hnot =>
      refine ⟨(Declaration.ofField f).1, ?_, ?_, ?_, rfl⟩
      · exact List.mem_append_left _ (List.mem_map_of_mem (List.mem_map_of_mem hmem))
      · exact Markers.first?_ofAttributes.trans hfirst
      · rwa [Declaration.carries_ofField]
    | @onItem i hmem hfirst hnot =>
      refine ⟨(Declaration.ofMarkedItem i).1, ?_, ?_, ?_, ?_⟩
      · refine List.mem_append_right _ (List.mem_filterMap.mpr ⟨_, List.mem_map_of_mem hmem, ?_⟩)
        exact Declaration.ofItem_of_first hfirst
      · rw [Declaration.markers_ofMarkedItem, Markers.first?_ofAttributes, hfirst]
      · rwa [Declaration.carries_ofMarkedItem hfirst]
      · rw [Declaration.name_ofMarkedItem]
        rfl
  obtain ⟨g, hg, hrefuses⟩ := Declaration.roleProblem?_of_not_carries hfirst hnot
  exact ⟨g, List.mem_filterMap.mpr ⟨d, hd, hg⟩, hname ▸ hrefuses⟩

/-- No marker is left among the attributes of a declaration. -/
theorem marked_attrs_written {d : Declaration} (hd : d ∈ writtenDeclarations s around) :
    marked d.attrs = [] := by
  rcases List.mem_append.mp hd with hd | hd
  · obtain ⟨described, hmem, rfl⟩ := List.mem_map.mp hd
    obtain ⟨f, -, rfl⟩ := List.mem_map.mp hmem
    exact marked_unmarked
  · obtain ⟨described, hmem, hsome⟩ := List.mem_filterMap.mp hd
    obtain ⟨i, -, rfl⟩ := List.mem_map.mp hmem
    rw [Declaration.eq_ofMarkedItem hsome, Declaration.attrs_ofMarkedItem]
    rfl

end Written

end KeyedRecords.Description

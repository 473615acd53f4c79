import KeyedRecords.Proofs.Description.Markers
import KeyedRecords.Proofs.Description.Plan

/-!
# Classification is an exact partition

Every declaration of a model that was found has one role or one problem. Which of the two, and which
role, is said here in terms of what is written: a field of the structure or an item next to it, and
the markers on it.

Results:
* `declarations_written`: the declarations of a model are its fields and the marked items next to
  it.
* `role?_declaration_iff`: the role of what is written.
* `refused_declaration`: what has no role is refused for the marker that counts.
* `classification_partitions`: roles and problems share the declarations out, in order.
-/

namespace KeyedRecords.Description

open Source

/-! ## Declarations as they are written -/

/-- What a declaration is written as: a field of the structure, or an item next to it. -/
inductive Written
  | field (f : Field)
  | item (i : Item)

namespace Written

/-- The attributes of what is written. -/
def attrs : Written → List Attribute
  | field f => f.attrs
  | item i => i.attrs

/-- The name under which what is written is reported. -/
def label : Written → String
  | field f => f.name.text
  | item i => Declaration.itemLabel i

/-- The declaration that is read from what is written. -/
def declaration : Written → Declaration
  | field f => (Declaration.ofField f).1
  | item i => (Declaration.ofMarkedItem i).1

/-- Whether a marker stands among the attributes. -/
def Marked (w : Written) (k : Marker) : Prop := ∃ a ∈ w.attrs, a.isNamed k.name

/-- Whether a field of the structure is written. -/
def IsField (w : Written) : Prop := ∃ f, w = field f

/-- Whether a constant is written, or a static that never changes. -/
def IsFixedValue (w : Written) : Prop := ∃ v, w = item (.value v) ∧ v.kind ≠ .mutable

/-- Whether an enumeration is written that derives what makes it one of keys. -/
def IsKeyEnum (w : Written) : Prop := ∃ e, w = item (.enum e) ∧ derivesCodingKey e.attrs

/-- What has to be written for a role. -/
def Earns (w : Written) : Role → Prop
  | .persisted => w.IsField ∧ ∀ k, ¬ w.Marked k
  | .ignored => w.IsField ∧ w.Marked .ignored ∧ ¬ w.Marked .storageName
  | .storageName => w.IsFixedValue ∧ w.Marked .storageName
  | .modelKeys => w.IsKeyEnum ∧ w.Marked .modelKeys ∧ ¬ w.Marked .storageName ∧ ¬ w.Marked .ignored
  | .migrationKeys => w.IsKeyEnum ∧ w.Marked .migrationKeys ∧ ¬ w.Marked .storageName ∧
      ¬ w.Marked .ignored ∧ ¬ w.Marked .modelKeys

end Written

/-- The named fields of an item that is a structure. -/
def fieldsOf : Item → List Field
  | .struct s => ModelDescription.namedFields s.fields
  | _ => []

/-- What is written of a model: the fields of its structure, and the marked items next to it. -/
def writtenParts (name : Option Ident) : Item → List Written
  | .module _ (some items) =>
    match findModel name items with
    | .ok index =>
      (items[index]?.toList.flatMap fieldsOf).map .field ++
        ((items.eraseIdx index).filter Declaration.isMarked).map .item
    | .error _ => []
  | i => (fieldsOf i).map .field

section Parts

variable {name : Option Ident} {item : Item} {found : Found}

theorem declarations_of_describeModel {fallback : Ident} {m : ModelDescription}
    (h : (describeModel fallback item).1 = some m) :
    m.declarations = ((fieldsOf item).map Written.field).map Written.declaration := by
  rw [List.map_map]
  unfold describeModel at h
  split at h
  · unfold ModelDescription.ofStruct at h
    split at h
    · cases h
    · cases h
      rw [List.map_map]
      rfl
  · next hstruct =>
    cases h
    cases item with
    | struct s => exact absurd rfl (hstruct s)
    | _ => rfl

/-- The declarations of a model are its fields and the marked items next to it. -/
theorem declarations_written (h : (find name item).1 = some found) :
    found.model.declarations = (writtenParts name item).map Written.declaration := by
  unfold find at h
  split at h
  · cases h
  · next head items =>
    unfold findInModule at h
    unfold writtenParts
    cases hindex : findModel name items with
    | error problem => simp only [hindex, reduceCtorEq] at h
    | ok index =>
      simp only [hindex] at h ⊢
      cases hitem : items[index]? with
      | none => simp only [hitem, reduceCtorEq] at h
      | some i =>
        simp only [hitem] at h
        obtain ⟨m, hm, rfl⟩ := Option.map_eq_some_iff.mp h
        rw [List.map_append, Option.toList_some, List.flatMap_singleton,
          ← declarations_of_describeModel hm, List.map_map]
        exact congrArg _ (Declaration.filterMap_ofItem (items.eraseIdx index))
  · next hmodule =>
    obtain ⟨m, hm, rfl⟩ := Option.map_eq_some_iff.mp h
    unfold writtenParts
    split
    · exact absurd rfl (hmodule _ _)
    · exact declarations_of_describeModel hm

/-- Items next to the model are written down only if they are marked. -/
theorem marked_of_mem {i : Item} (h : Written.item i ∈ writtenParts name item) :
    marked i.attrs ≠ [] := by
  unfold writtenParts at h
  split at h
  · split at h
    · rcases List.mem_append.mp h with h | h
      · obtain ⟨f, -, hf⟩ := List.mem_map.mp h
        cases hf
      · obtain ⟨i', hi, he⟩ := List.mem_map.mp h
        cases he
        rw [ne_eq, ← Declaration.isMarked_eq_false_iff, (List.mem_filter.mp hi).2]
        decide
    · cases h
  · obtain ⟨f, -, hf⟩ := List.mem_map.mp h
    cases hf

end Parts

/-! ## The role of what is written -/

namespace Written

variable {w : Written} {k : Marker} {r : Role}

theorem marked_iff : w.Marked k ↔ (w.attrs.any fun a => a.isNamed k.name) = true :=
  (List.any_eq_true).symm

theorem first?_declaration : w.declaration.markers.first? = firstMarker w.attrs := by
  cases w with
  | field f => exact Markers.first?_ofAttributes
  | item i =>
    unfold declaration
    dsimp only
    rw [Declaration.markers_ofMarkedItem, Markers.first?_ofAttributes]
    rfl

theorem name_declaration : w.declaration.name.text = w.label := by
  cases w with
  | field f => rfl
  | item i =>
    unfold declaration
    dsimp only
    rw [Declaration.name_ofMarkedItem]
    rfl

/-- Of the markers that are written the first in the order of the roles counts. -/
theorem firstMarker_eq_some_iff : firstMarker w.attrs = some k ↔ w.Marked k ∧
    match k with
    | .storageName => True
    | .ignored => ¬ w.Marked .storageName
    | .modelKeys => ¬ w.Marked .storageName ∧ ¬ w.Marked .ignored
    | .migrationKeys => ¬ w.Marked .storageName ∧ ¬ w.Marked .ignored ∧ ¬ w.Marked .modelKeys := by
  obtain ⟨p, hp⟩ : ∃ p : Marker → Bool, ∀ k, w.Marked k ↔ p k = true :=
    ⟨fun k => w.attrs.any fun a => a.isNamed k.name, fun k => marked_iff⟩
  have hfirst : firstMarker w.attrs =
      [Marker.storageName, .ignored, .modelKeys, .migrationKeys].find? p := by
    unfold firstMarker
    congr 1
    funext k
    rw [Bool.eq_iff_iff, ← marked_iff, hp]
  rw [hfirst]
  simp only [hp, List.find?_cons, List.find?_nil]
  cases k <;> cases p .storageName <;> cases p .ignored <;> cases p .modelKeys <;>
    cases p .migrationKeys <;> simp

/-- What a marker asks of what it stands on. -/
def Bears (w : Written) : Marker → Prop
  | .storageName => w.IsFixedValue
  | .ignored => w.IsField
  | .modelKeys => w.IsKeyEnum
  | .migrationKeys => w.IsKeyEnum

theorem carries_declaration (h : firstMarker w.attrs = some k) :
    w.declaration.Carries k ↔ w.Bears k := by
  cases w with
  | field f =>
    refine Declaration.carries_ofField.trans ?_
    cases k <;> simp [Bears, IsField, IsFixedValue, IsKeyEnum]
  | item i =>
    refine (Declaration.carries_ofMarkedItem h).trans ?_
    cases k <;> cases i <;>
      simp [Declaration.CarriedBy, Bears, IsField, IsFixedValue, IsKeyEnum]

/-- A role is earned without a marker, or by the marker that counts. -/
theorem earns_iff : w.Earns r ↔ (r = .persisted ∧ w.IsField ∧ firstMarker w.attrs = none) ∨
    ∃ k : Marker, r = k.role ∧ firstMarker w.attrs = some k ∧ w.Bears k := by
  have hnone : firstMarker w.attrs = none ↔ ∀ k, ¬ w.Marked k := by
    rw [firstMarker_eq_none_iff, marked_eq_nil_iff_forall]
    simp only [Marked, not_exists, not_and, Bool.not_eq_true]
  have hmarker : ∀ k : Marker, w.Earns k.role ↔ firstMarker w.attrs = some k ∧ w.Bears k := by
    intro k
    rw [firstMarker_eq_some_iff]
    cases k <;> simp only [Earns, Marker.role, Bears] <;> tauto
  constructor
  · intro h
    cases r with
    | persisted => exact .inl ⟨rfl, h.1, hnone.mpr h.2⟩
    | storageName => exact .inr ⟨.storageName, rfl, (hmarker .storageName).mp h⟩
    | ignored => exact .inr ⟨.ignored, rfl, (hmarker .ignored).mp h⟩
    | modelKeys => exact .inr ⟨.modelKeys, rfl, (hmarker .modelKeys).mp h⟩
    | migrationKeys => exact .inr ⟨.migrationKeys, rfl, (hmarker .migrationKeys).mp h⟩
  · rintro (⟨rfl, hfield, hfirst⟩ | ⟨k, rfl, h⟩)
    · exact ⟨hfield, hnone.mp hfirst⟩
    · exact (hmarker k).mpr h

/-- Without a marker only a field is a declaration. -/
def IsDeclared (w : Written) : Prop := firstMarker w.attrs = none → w.IsField

theorem isDeclared_of_mem {name : Option Ident} {item : Item} (h : w ∈ writtenParts name item) :
    w.IsDeclared := by
  intro hfirst
  cases w with
  | field f => exact ⟨f, rfl⟩
  | item i => exact absurd (firstMarker_eq_none_iff.mp hfirst) (marked_of_mem h)

/-- The role of what is written. -/
theorem role?_declaration_iff (hdeclared : w.IsDeclared) :
    w.declaration.role? = some r ↔ w.Earns r := by
  rw [Declaration.role?_eq_some_iff, earns_iff]
  have hfirst? : w.declaration.markers.first? = firstMarker w.attrs := first?_declaration
  cases hfirst : firstMarker w.attrs with
  | none =>
    obtain ⟨f, rfl⟩ := hdeclared hfirst
    rw [hfirst] at hfirst?
    rw [Declaration.role_of_first?_none hfirst?]
    simp [Declaration.fieldRole, declaration, Declaration.ofField, IsField, eq_comm]
  | some k =>
    rw [hfirst] at hfirst?
    rcases Declaration.role_carries hfirst? with ⟨hcarries, hrole⟩ | ⟨hnot, g, hrole, -⟩
    · have hbears : w.Bears k := (carries_declaration hfirst).mp hcarries
      rw [hrole]
      simp [hbears, eq_comm]
    · have hbears : ¬ w.Bears k := mt (carries_declaration hfirst).mpr hnot
      rw [hrole]
      simp [hbears]

/-- What has no role is refused for the marker that counts. -/
theorem refused_declaration (hdeclared : w.IsDeclared) (h : ∀ r, ¬ w.Earns r) :
    ∃ k g, firstMarker w.attrs = some k ∧ w.declaration.roleProblem? = some g ∧
      g.problem.Refuses k w.label := by
  cases hfirst : firstMarker w.attrs with
  | none => exact absurd (earns_iff.mpr (.inl ⟨rfl, hdeclared hfirst, hfirst⟩)) (h .persisted)
  | some k =>
    have hnot : ¬ w.declaration.Carries k := by
      intro hcarries
      have hbears : w.Bears k := (carries_declaration hfirst).mp hcarries
      exact h k.role (earns_iff.mpr (.inr ⟨k, rfl, hfirst, hbears⟩))
    obtain ⟨g, hg, hrefuses⟩ :=
      Declaration.roleProblem?_of_not_carries (first?_declaration.trans hfirst) hnot
    exact ⟨k, g, rfl, hg, name_declaration ▸ hrefuses⟩

end Written

/-! ## The partition -/

/-- Each declaration has either a role or a problem, and both are listed in the order of the
    declarations. -/
structure SharedOut (ds : List Declaration) : Prop where
  one : ∀ d ∈ ds, (d.role? = none ↔ ∃ g, d.roleProblem? = some g)
  roles : (classify ds).map (fun p => (p.1, some p.2)) =
    (ds.filter fun d => d.roleProblem?.isNone).map fun d => (d, d.role?)
  problems : (roleProblems ds).map some =
    (ds.filter fun d => d.role?.isNone).map Declaration.roleProblem?
  count : (classify ds).length + (roleProblems ds).length = ds.length

/-- A declaration has a role and no problem, or a problem and no role. -/
theorem Declaration.role?_cases (d : Declaration) :
    (∃ r, d.role? = some r ∧ d.roleProblem? = none) ∨
      ∃ g, d.role? = none ∧ d.roleProblem? = some g := by
  unfold role? roleProblem?
  cases d.role with
  | ok r => exact .inl ⟨r, rfl, rfl⟩
  | error g => exact .inr ⟨g, rfl, rfl⟩

theorem sharedOut (ds : List Declaration) : SharedOut ds := by
  induction ds with
  | nil => exact ⟨by simp, rfl, rfl, rfl⟩
  | cons d ds ih =>
    rcases d.role?_cases with ⟨r, hrole, hproblem⟩ | ⟨g, hrole, hproblem⟩
    · have hclassify : classify (d :: ds) = (d, r) :: classify ds := by
        simp [classify, hrole]
      have hproblems : roleProblems (d :: ds) = roleProblems ds := by
        simp [roleProblems, hproblem]
      refine ⟨List.forall_mem_cons.mpr ⟨by simp [hrole, hproblem], ih.one⟩, ?_, ?_, ?_⟩
      · simp [hclassify, hproblem, hrole, ih.roles]
      · simp [hproblems, hrole, ih.problems]
      · rw [hclassify, hproblems, List.length_cons, List.length_cons, ← ih.count]
        omega
    · have hclassify : classify (d :: ds) = classify ds := by
        simp [classify, hrole]
      have hproblems : roleProblems (d :: ds) = g :: roleProblems ds := by
        simp [roleProblems, hproblem]
      refine ⟨List.forall_mem_cons.mpr ⟨by simp [hrole, hproblem], ih.one⟩, ?_, ?_, ?_⟩
      · simp [hclassify, hproblem, ih.roles]
      · simp [hproblems, hrole, hproblem, ih.problems]
      · rw [hclassify, hproblems, List.length_cons, List.length_cons, ← ih.count]
        omega

/-- What the parser notes of a declaration says which can give the storage name. -/
theorem Declaration.carries_storageName_iff {d : Declaration} :
    d.Carries .storageName ↔ d.isStatic ∧ d.isConstant ∧ d.hasInitializer := by
  unfold isStatic isConstant hasInitializer Carries
  cases d.kind with
  | value kind => cases kind <;> simp
  | _ => simp

/-- Only a marked constant gives the storage name, whatever its other markers are. -/
theorem Declaration.role?_storageName_iff {d : Declaration} : d.role? = some .storageName ↔
    d.markers.storageName ∧ d.isStatic ∧ d.isConstant ∧ d.hasInitializer := by
  rw [role?_eq_some_iff, ← carries_storageName_iff]
  cases hmarker : d.markers.storageName with
  | true =>
    have hrole : d.role = d.storageNameRole := by
      unfold role
      rw [if_pos hmarker]
    rw [hrole]
    rcases storageNameRole_carries (d := d) with ⟨hcarries, hok⟩ | ⟨hnot, g, herror, -⟩
    · simp [hcarries, hok]
    · simp [hnot, herror]
  | false =>
    constructor
    · intro h
      unfold role at h
      split_ifs at h with hstorage
      · exact absurd hstorage (by rw [hmarker]; exact Bool.false_ne_true)
      · cases (fieldRole_eq_ok h).1
      · cases (keyEnumRole_eq_ok h).1
      · cases (keyEnumRole_eq_ok h).1
      · cases (fieldRole_eq_ok h).1
    · rintro ⟨h, -⟩
      cases h

/-- Roles and problems share out the declarations of a model that was found, in order. These are
    its fields and the marked items next to it, and each has exactly the role that it earns as it is
    written. What earns none is refused for the marker that counts. -/
theorem classification_partitions {name : Option Ident} {item : Item} {found : Found}
    (h : (find name item).1 = some found) :
    SharedOut found.model.declarations ∧
    found.model.declarations = (writtenParts name item).map Written.declaration ∧
    (∀ w ∈ writtenParts name item, (∀ r, w.declaration.role? = some r ↔ w.Earns r) ∧
      ((∀ r, ¬ w.Earns r) → ∃ k g, firstMarker w.attrs = some k ∧
        w.declaration.roleProblem? = some g ∧ g.problem.Refuses k w.label)) ∧
    (∀ d ∈ found.model.declarations, d.role? = some .storageName ↔
      d.markers.storageName ∧ d.isStatic ∧ d.isConstant ∧ d.hasInitializer) := by
  refine ⟨sharedOut _, declarations_written h, fun w hw => ?_, fun d _ =>
    Declaration.role?_storageName_iff⟩
  have hdeclared : w.IsDeclared := Written.isDeclared_of_mem hw
  exact ⟨fun r => Written.role?_declaration_iff hdeclared, Written.refused_declaration hdeclared⟩

/-! ## A model with declarations of all kinds -/

/-- A module with a model of three fields, two values, an enumeration of keys and a function. One
    field is marked like keys, one value changes, and the function is not marked. -/
def mixedItem : Item :=
  let marker (name : String) : Attribute := ⟨false, ⟨false, [.ofName name]⟩, .nothing⟩
  let field (attrs : List Attribute) (name : String) : Field :=
    ⟨attrs, .inherited, .ofName name, [.ident (.ofName "String")]⟩
  let value (attrs : List Attribute) (kind : ValueKind) (name : String) : Item :=
    .value ⟨attrs, .inherited, kind, .ofName name, [.ident (.ofName "str")], .literal [] "\"m\""⟩
  .module ⟨[], .inherited, false, .ofName "mixed"⟩ (some [
    value [marker "migration", marker "storage_name"] .fixed "NAME",
    value [marker "storage_name"] .mutable "OTHER",
    .struct ⟨[], .inherited, .ofName "Mixed", ⟨[], none⟩,
      .named [field [] "first", field [marker "persisted_ignored"] "second",
        field [marker "migration"] "third"] false⟩,
    keysItem "model_coding_key" "Keys" [("First", "a")],
    .other ⟨.function, [], .inherited, some (.ofName "helper"), [], none⟩])

/-- Of six declarations four have a role and two are refused. -/
theorem classification_partitions_mixed : ∃ found, (find none mixedItem).1 = some found ∧
    SharedOut found.model.declarations ∧
    found.model.declarations = (writtenParts none mixedItem).map Written.declaration ∧
    (classify found.model.declarations).map (fun p => (p.1.name.name, p.2)) =
      [("first", .persisted), ("second", .ignored), ("NAME", .storageName), ("Keys", .modelKeys)] ∧
    (roleProblems found.model.declarations).length = 2 := by
  have hfound : ((find none mixedItem).1.map fun found =>
      ((classify found.model.declarations).map (fun p => (p.1.name.name, p.2)),
        found.model.declarations.length)) =
      some ([("first", .persisted), ("second", .ignored), ("NAME", .storageName),
        ("Keys", .modelKeys)], 6) := by
    decide +kernel
  obtain ⟨found, hfind, hroles⟩ := Option.map_eq_some_iff.mp hfound
  obtain ⟨hshared, hwritten, -⟩ := classification_partitions hfind
  rw [Prod.mk.injEq] at hroles
  refine ⟨found, hfind, hshared, hwritten, hroles.1, ?_⟩
  have hclassified : (classify found.model.declarations).length = 4 := by
    rw [← List.length_map, hroles.1]
    rfl
  have hcount := hshared.count
  omega

end KeyedRecords.Description

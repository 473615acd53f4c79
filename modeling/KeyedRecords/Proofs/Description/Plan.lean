import KeyedRecords.Description.Plan
import KeyedRecords.Proofs.Description.Role
import KeyedRecords.Proofs.Generated.Pairing

/-!
# Plans lose nothing

An accepted description and its plan have the same fields, in the same order, and every
persisted field has one key of its own in each key set. What is generated names every field with
these keys.

Results:
* `build_eq_some`: there is a plan only for a description without problems.
* `plan_follows_description`: the plan follows the description.
-/

namespace KeyedRecords.Description

open Source

/-! ## Raw types -/

/-- What an enumeration conforms to determines what backs it. -/
theorem RawType.eq_of_surface {a b : RawType} (h : a.surface = b.surface) : a = b := by
  have hname : a.name = b.name := by simpa [surface] using h
  cases a with
  | text =>
    cases b with
    | text => rfl
    | integer t => cases t <;> simp [RawType.name, IntegerType.name] at hname
  | integer t =>
    cases b with
    | text => cases t <;> simp [RawType.name, IntegerType.name] at hname
    | integer t' =>
      cases t <;> cases t' <;> first | rfl | simp [RawType.name, IntegerType.name] at hname

/-! ## Key sets of a plan -/

section Keys

variable {model : ModelDescription} {declared : Option Declaration} {fields : List Ident}

theorem binds_keysOf (hn : (fields.map fieldLabel).Nodup)
    (h : (keysOf model declared fields).2 = []) :
    (keysOf model declared fields).1.Binds fields := by
  unfold keysOf at h ⊢
  split
  · exact KeySet.binds_implicit model.name hn
  · next d k he =>
    rw [he] at h
    exact KeySet.binds_declared (List.append_eq_nil_iff.mp h).2

theorem source_keysOf : (keysOf model declared fields).1.source = .declared ↔
    ∃ d k, declared = some d ∧ d.keyEnum = some k := by
  unfold keysOf
  cases declared with
  | none => simp [KeySet.implicit]
  | some d => cases hk : d.keyEnum <;> simp [KeySet.implicit, KeySet.bind, KeySet.declared, hk]

variable {keys old : KeySet}

theorem of_oldKeysOf (h : (oldKeysOf keys declared fields).2 = [])
    (hold : (oldKeysOf keys declared fields).1 = some old) :
    (fields.map fieldLabel).Nodup ∧ old.Binds fields ∧ old.raw = keys.raw := by
  unfold oldKeysOf at h hold
  split at hold
  · cases hold
  · next k he =>
    rw [he] at h
    dsimp only [KeySet.bind] at h hold
    split_ifs at h hold with hsurface
    cases hold
    exact ⟨KeySet.nodup_of_coverProblems h, KeySet.binds_declared h,
      RawType.eq_of_surface hsurface⟩

theorem exists_oldKeysOf (h : (oldKeysOf keys declared fields).2 = []) :
    (∃ old, (oldKeysOf keys declared fields).1 = some old) ↔
      ∃ d k, declared = some d ∧ d.keyEnum = some k := by
  unfold oldKeysOf at h ⊢
  cases declared with
  | none => simp
  | some d =>
    cases hk : d.keyEnum with
    | none => simp [hk]
    | some k =>
      simp only [Option.bind_some, hk, KeySet.bind] at h ⊢
      by_cases hsurface : (KeySet.declared k fields).raw.surface = keys.raw.surface
      · simp [hsurface, hk]
      · simp [hsurface] at h

end Keys

/-! ## Accepted descriptions -/

section Accepted

variable {model : ModelDescription} {before : List Diagnostic} {p : ModelPlan}

/-- There is a plan only for a description without problems. -/
theorem build_eq_some (h : (ModelPlan.build model before).1 = some p) :
    p = (ModelPlan.draft model).1 ∧ (ModelPlan.draft model).2 = [] := by
  unfold ModelPlan.build at h
  split at h
  · cases h
  · dsimp only at h
    split_ifs at h with hall
    cases h
    rw [List.isEmpty_iff, List.append_eq_nil_iff] at hall
    exact ⟨rfl, hall.2⟩

/-- What is asked of the keys of a plan. -/
theorem keyProblems_of_draft (h : (ModelPlan.draft model).2 = []) :
    let fields := (withRole model.declarations .persisted).map Declaration.name
    let keys := keysOf model (withRole model.declarations .modelKeys).head? fields
    keys.2 = [] ∧
      (oldKeysOf keys.1 (withRole model.declarations .migrationKeys).head? fields).2 = [] := by
  simp only [ModelPlan.draft, List.append_eq_nil_iff] at h
  exact ⟨h.1.2, h.2⟩

/-- The labels of the fields of the structure. -/
def fieldLabels (ds : List Declaration) : List String :=
  (ds.filter fun d => d.kind = .field).map Declaration.label

/-- The labels of persisted fields are distinct if those of all fields are. -/
theorem nodup_persisted {ds : List Declaration} (hn : (fieldLabels ds).Nodup) :
    (((withRole ds .persisted).map Declaration.name).map fieldLabel).Nodup := by
  rw [List.map_map]
  refine hn.sublist (List.Sublist.map _ (List.monotone_filter_right ds fun d hd => ?_))
  have hrole : d.role? = some .persisted := by simpa using hd
  exact decide_eq_true (Declaration.asks_of_role? hrole)

end Accepted

/-! ## The fields of a plan -/

section Fields

variable {ds : List Declaration} {keys : KeySet}

/-- A persisted field is planned as it was declared, with the key that is bound to it. -/
theorem ofDeclaration_persisted (hkeys : keys.Binds ((withRole ds .persisted).map Declaration.name))
    (hn : (((withRole ds .persisted).map Declaration.name).map fieldLabel).Nodup)
    (htyped : ∀ d ∈ ds, d.Typed) {d : Declaration} (hd : d ∈ withRole ds .persisted) :
    ∃ f, PersistedField.ofDeclaration keys d = some f ∧
      (f.name, some f.type, f.vis, f.attrs) = (d.name, d.type, d.vis, d.attrs) ∧
      f.key.field = d.name ∧ keys.binding? d.name = some f.key := by
  obtain ⟨hmem, hrole⟩ := mem_withRole.mp hd
  obtain ⟨type, htype⟩ := htyped d hmem (Declaration.asks_of_role? hrole)
  obtain ⟨b, -, hfield, hb⟩ :=
    hkeys.exists_binding (KeySet.nodup_of_labels hn) (List.mem_map_of_mem hd)
  refine ⟨⟨d.name, type, d.vis, d.attrs, b⟩, ?_, ?_, hfield, hb⟩
  · simp [PersistedField.ofDeclaration, htype, hb]
  · rw [htype]

/-- The persisted fields are planned in order, and none is dropped. -/
theorem map_persisted (hkeys : keys.Binds ((withRole ds .persisted).map Declaration.name))
    (hn : (((withRole ds .persisted).map Declaration.name).map fieldLabel).Nodup)
    (htyped : ∀ d ∈ ds, d.Typed) :
    let planned := (withRole ds .persisted).filterMap (PersistedField.ofDeclaration keys)
    planned.map (fun f => (f.name, some f.type, f.vis, f.attrs)) =
      (withRole ds .persisted).map (fun d => (d.name, d.type, d.vis, d.attrs)) ∧
    planned.map PersistedField.key = keys.bindings := by
  have hplanned := fun d => ofDeclaration_persisted (d := d) hkeys hn htyped
  constructor
  · refine map_filterMap fun d hd => ?_
    obtain ⟨f, hf, hdeclared, -, -⟩ := hplanned d hd
    exact ⟨f, hf, hdeclared⟩
  · refine List.map_injective_iff.mpr (Option.some_injective KeyBinding) ?_
    refine Eq.trans ?_ (hkeys.map_binding? (KeySet.nodup_of_labels hn))
    rw [List.map_map, List.map_map]
    refine map_filterMap fun d hd => ?_
    obtain ⟨f, hf, -, -, hb⟩ := hplanned d hd
    exact ⟨f, hf, hb.symm⟩

/-- The ignored fields are planned in order, and none is dropped. -/
theorem map_ignored (htyped : ∀ d ∈ ds, d.Typed) :
    ((withRole ds .ignored).filterMap IgnoredField.ofDeclaration).map
        (fun f => (f.name, some f.type, f.vis, f.attrs, f.constant)) =
      (withRole ds .ignored).map
        fun d => (d.name, d.type, d.vis, d.attrs, d.isIgnoredConstant) := by
  refine map_filterMap fun d hd => ?_
  obtain ⟨hmem, hrole⟩ := mem_withRole.mp hd
  obtain ⟨type, htype⟩ := htyped d hmem (Declaration.asks_of_role? hrole)
  refine ⟨⟨d.name, type, d.vis, d.attrs, d.isIgnoredConstant⟩, ?_, ?_⟩
  · simp [IgnoredField.ofDeclaration, htype]
  · rw [htype]

end Fields

/-! ## Plans that follow their description -/

/-- A plan has exactly the fields of its declarations, every persisted field has one key of
    its own in every key set and is generated with these keys, and there are declared and old keys
    where there are declarations of them. -/
structure ModelPlan.Follows (p : ModelPlan) (ds : List Declaration) : Prop where
  persisted : p.persisted.map (fun f => (f.name, some f.type, f.vis, f.attrs)) =
    (withRole ds .persisted).map fun d => (d.name, d.type, d.vis, d.attrs)
  ignored : p.ignored.map (fun f => (f.name, some f.type, f.vis, f.attrs, f.constant)) =
    (withRole ds .ignored).map fun d => (d.name, d.type, d.vis, d.attrs, d.isIgnoredConstant)
  /-- Both lists are fields of the structure. -/
  fields : ∀ d ∈ withRole ds .persisted ++ withRole ds .ignored, d.kind = .field
  binds : ∀ keys ∈ p.keys :: p.oldKeys.toList, keys.Binds (p.persisted.map PersistedField.name)
  keys : p.persisted.map PersistedField.key = p.keys.bindings
  /-- The generated record names every field with its key. -/
  emitted : ∃ before, Generated.model p = before ++ Generated.recordText p ++ Generated.migration p
  /-- The generated migration names every field with the old and the new case that are bound to
      it. -/
  paired : ∀ old, p.oldKeys = some old → ∃ pairs : List (PersistedField × KeyBinding),
    pairs.map Prod.fst = p.persisted ∧ pairs.map Prod.snd = old.bindings ∧
    (∀ q ∈ pairs, q.1.key.field = q.1.name ∧ q.2.field = q.1.name) ∧
    Generated.migration p = Generated.shadowText p old pairs
      ++ Generated.implementation p.name.tokens (Generated.migrationMembers p)
  unmigrated : p.oldKeys = none → Generated.migration p = []
  migrates : (∃ old, p.oldKeys = some old) ↔ ∃ d ∈ ds, d.role? = some .migrationKeys
  raw : ∀ old, p.oldKeys = some old → old.raw = p.keys.raw
  declared : p.keys.source = .declared ↔ ∃ d ∈ ds, d.role? = some .modelKeys

theorem ModelPlan.Follows.map_name {p : ModelPlan} {ds : List Declaration} (h : p.Follows ds) :
    p.persisted.map PersistedField.name = (withRole ds .persisted).map Declaration.name := by
  have hfirst := congrArg (List.map Prod.fst) h.persisted
  rwa [List.map_map, List.map_map] at hfirst

/-- The plan of an accepted description follows it if its fields have types and the labels of
    the persisted ones are distinct. -/
theorem follows_of_build {model : ModelDescription} {before : List Diagnostic} {p : ModelPlan}
    (hplan : (ModelPlan.build model before).1 = some p)
    (htyped : ∀ d ∈ model.declarations, d.Typed)
    (hn : (((withRole model.declarations .persisted).map Declaration.name).map fieldLabel).Nodup) :
    p.Follows model.declarations := by
  obtain ⟨rfl, hproblems⟩ := build_eq_some hplan
  obtain ⟨hkeyProblems, hold⟩ := keyProblems_of_draft hproblems
  have hkeys := binds_keysOf hn hkeyProblems
  obtain ⟨hpersisted, hbindings⟩ := map_persisted hkeys hn htyped
  have hnames : (ModelPlan.draft model).1.persisted.map PersistedField.name =
      (withRole model.declarations .persisted).map Declaration.name := by
    have hfirst := congrArg (List.map Prod.fst) hpersisted
    rwa [List.map_map, List.map_map] at hfirst
  refine ⟨hpersisted, map_ignored htyped, ?_, ?_, hbindings, Generated.model_eq _, ?_,
    Generated.migration_eq_nil, (exists_oldKeysOf hold).trans (exists_keyEnum_withRole (.inr rfl)),
    fun old hsome => (of_oldKeysOf hold hsome).2.2,
    source_keysOf.trans (exists_keyEnum_withRole (.inl rfl))⟩
  · intro d hd
    rcases List.mem_append.mp hd with hd | hd
    · exact Declaration.asks_of_role? (mem_withRole.mp hd).2
    · exact Declaration.asks_of_role? (mem_withRole.mp hd).2
  · intro keys hmem
    rw [hnames]
    rcases List.mem_cons.mp hmem with rfl | hmem
    · exact hkeys
    · exact (of_oldKeysOf hold (Option.mem_toList.mp hmem)).2.1
  · intro old hsome
    have hbinds := (of_oldKeysOf hold hsome).2.1
    rw [← hnames] at hbinds
    obtain ⟨pairs, hfst, hsnd, hpairs⟩ :=
      Generated.exists_pairs hbinds (hnames ▸ KeySet.nodup_of_labels hn)
    refine ⟨pairs, hfst, hsnd, fun q hq => ⟨?_, (hpairs q hq).1⟩,
      Generated.migration_eq hsome hfst fun q hq => (hpairs q hq).2⟩
    have hmem : q.1 ∈ (ModelPlan.draft model).1.persisted := hfst ▸ List.mem_map_of_mem hq
    obtain ⟨d, hd, hof⟩ := List.mem_filterMap.mp hmem
    obtain ⟨f, hf, hdeclared, hfield, -⟩ := ofDeclaration_persisted hkeys hn htyped hd
    obtain rfl : f = q.1 := Option.some.inj (hf.symm.trans hof)
    exact hfield.trans (congrArg Prod.fst hdeclared).symm

/-- Migration keys are refused where a label is repeated. -/
theorem nodup_of_oldKeys {model : ModelDescription} {before : List Diagnostic} {p : ModelPlan}
    (hplan : (ModelPlan.build model before).1 = some p) {old : KeySet}
    (hold : p.oldKeys = some old) :
    (((withRole model.declarations .persisted).map Declaration.name).map fieldLabel).Nodup := by
  obtain ⟨rfl, hproblems⟩ := build_eq_some hplan
  exact (of_oldKeysOf (keyProblems_of_draft hproblems).2 hold).1

/-- The plan of an accepted description follows it. -/
theorem plan_follows_description {name : Option Ident} {item : Item} {found : Found}
    (hfound : (find name item).1 = some found) {before : List Diagnostic} {p : ModelPlan}
    (hplan : (ModelPlan.build found.model before).1 = some p)
    (hlabels : (fieldLabels found.model.declarations).Nodup) :
    p.Follows found.model.declarations :=
  follows_of_build hplan (typed_of_find hfound) (nodup_persisted hlabels)

/-! ## A pair whose keys are renamed -/

/-- An enumeration of keys with a marker, from the names and literals of its cases. -/
def keysItem (marker name : String) (cases : List (String × String)) : Item :=
  let marking (name : String) (content : AttributeContent) : Attribute :=
    ⟨false, ⟨false, [.ofName name]⟩, content⟩
  .enum ⟨[marking marker .nothing,
      marking "derive" (.arguments .paren [.ident (.ofName "CodingKey")])],
    .inherited, .ofName name, ⟨[], none⟩,
    cases.map fun c =>
      ⟨[marking "key" (.value (.literal [] ("\"" ++ c.2 ++ "\"")))], .ofName c.1, none, none⟩,
    false⟩

/-- A model with two text fields, its keys, and the keys that a migration reads. -/
def pairItem (keys old : List (String × String)) : Item :=
  let field (name : String) : Field := ⟨[], .inherited, .ofName name, [.ident (.ofName "String")]⟩
  .module ⟨[], .inherited, false, .ofName "pair"⟩ (some [
    .struct ⟨[], .inherited, .ofName "Pair", ⟨[], none⟩,
      .named [field "first", field "second"] false⟩,
    keysItem "model_coding_key" "Keys" keys,
    keysItem "migration" "Old" old])

/-- What an item is accepted as: something about its description and its plan. -/
def accepted? {α : Type} (item : Item) (f : Found → ModelPlan → α) : Option α :=
  (find none item).1.bind fun found => (ModelPlan.build found.model []).1.map (f found)

theorem exists_of_accepted? {α : Type} {item : Item} {f : Found → ModelPlan → α} {a : α}
    (h : accepted? item f = some a) : ∃ found p, (find none item).1 = some found ∧
      (ModelPlan.build found.model []).1 = some p ∧ f found p = a := by
  obtain ⟨found, hfound, h⟩ := Option.bind_eq_some_iff.mp h
  obtain ⟨p, hp, rfl⟩ := Option.map_eq_some_iff.mp h
  exact ⟨found, p, hfound, hp, rfl⟩

/-- A pair whose two keys are renamed is accepted, and its plan follows the description. -/
theorem plan_follows_renamedPair : ∃ found p,
    (find none (pairItem [("First", "a"), ("Second", "b")] [("Second", "y"), ("First", "x")])).1 =
      some found ∧
    (ModelPlan.build found.model []).1 = some p ∧ (fieldLabels found.model.declarations).Nodup ∧
    (∃ old, p.oldKeys = some old) ∧ p.Follows found.model.declarations := by
  have haccepted : accepted?
      (pairItem [("First", "a"), ("Second", "b")] [("Second", "y"), ("First", "x")])
      (fun found p => (fieldLabels found.model.declarations, p.oldKeys.isSome)) =
        some (["first", "second"], true) := by
    decide +kernel
  obtain ⟨found, p, hfound, hplan, h⟩ := exists_of_accepted? haccepted
  simp only [Prod.mk.injEq] at h
  obtain ⟨hlabels, hold⟩ := h
  have hn : (fieldLabels found.model.declarations).Nodup := by rw [hlabels]; decide
  exact ⟨found, p, hfound, hplan, hn, Option.isSome_iff_exists.mp hold,
    plan_follows_description hfound hplan hn⟩

end KeyedRecords.Description

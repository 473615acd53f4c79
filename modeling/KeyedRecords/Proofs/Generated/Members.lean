import KeyedRecords.Generated.Migration
import KeyedRecords.Proofs.Description.Plan

/-!
# Names of the members of a model

All members of a model share one namespace: its two constants, the functions that every model
has, and the accessors of its fields. A label that would give a second member of one name is
refused, unless the first is one of the constants.

Results:
* `memberNames_synthesized`: the reserved names are those of the functions that every model has.
* `memberNames_perm`: what the members of a model are called.
* `nameProblems_eq_nil_iff`: which labels are refused.
* `memberNames_nodup_iff`: the members of an accepted model have distinct names exactly if no
  field is called like a constant.
* `memberNames_titled`: an accepted model with two members of one name.
-/

namespace KeyedRecords.Generated

open Source Description

/-! ## Members -/

/-- The members of the implementations that are generated for the model itself. -/
def inherentMembers (p : ModelPlan) : List Member :=
  members p ++ if p.oldKeys.isSome then migrationMembers p else []

/-- What members are told apart by. A name stays the same when it is written as a raw one. -/
def memberNames (ms : List Member) : List String := ms.map fun m => m.name.name

theorem memberNames_append (ms ms' : List Member) :
    memberNames (ms ++ ms') = memberNames ms ++ memberNames ms' := List.map_append

/-- The constants of a model. -/
def constantNames : List String := ["MODEL_NAME", "STORAGE_NAME"]

theorem memberNames_constants (p : ModelPlan) : memberNames (nameConstants p) = constantNames := rfl

/-- The reserved names are those of the functions that every model has. -/
theorem memberNames_synthesized (p : ModelPlan) :
    memberNames (constructors p ++ recordMembers p ++ migrationMembers p) = synthesizedMembers := rfl

/-- The names of the functions that the model has whatever its fields are. -/
def functionNames (p : ModelPlan) : List String :=
  memberNames (constructors p ++ recordMembers p
    ++ if p.oldKeys.isSome then migrationMembers p else [])

theorem functionNames_sublist (p : ModelPlan) : (functionNames p).Sublist synthesizedMembers := by
  rw [← memberNames_synthesized p]
  unfold functionNames
  split_ifs
  · exact List.Sublist.refl _
  · rw [List.append_nil, memberNames_append _ (migrationMembers p)]
    exact List.sublist_append_left _ _

/-! ## Accessors -/

/-- The labels of the fields of a plan. -/
def labels (p : ModelPlan) : List String :=
  p.persisted.map (fun f => fieldLabel f.name) ++ p.ignored.map fun f => fieldLabel f.name

/-- The labels of the fields that have setters: all but the constant ones. -/
def settableLabels (p : ModelPlan) : List String :=
  p.persisted.map (fun f => fieldLabel f.name)
    ++ (p.ignored.filter fun f => !f.constant).map fun f => fieldLabel f.name

/-- The name of the setter of a label. -/
def setterOf (label : String) : String := "set_" ++ label

theorem setterOf_injective : Function.Injective setterOf :=
  fun _ _ h => (String.append_right_inj "set_").mp h

/-- No other name that is generated looks like that of a setter. -/
theorem setterOf_not_mem (label : String) : setterOf label ∉ constantNames ++ synthesizedMembers := by
  have hprefix : "set_".toList <+: (setterOf label).toList := by
    unfold setterOf
    rw [String.toList_append]
    exact List.prefix_append _ _
  have hnone : ∀ s ∈ constantNames ++ synthesizedMembers, ¬ "set_".toList <+: s.toList := by decide
  exact fun hmem => hnone _ hmem hprefix

theorem settableLabels_sublist (p : ModelPlan) : (settableLabels p).Sublist (labels p) :=
  (List.Sublist.refl _).append (List.filter_sublist.map _)

/-- Every field has a getter under its label, and a setter unless it is constant. -/
theorem memberNames_accessors_perm (p : ModelPlan) :
    (memberNames (p.persisted.flatMap persistedAccessors ++ p.ignored.flatMap ignoredAccessors)).Perm
      (labels p ++ (settableLabels p).map setterOf) := by
  have hpersisted : (memberNames (p.persisted.flatMap persistedAccessors)).Perm
      (p.persisted.map (fun f => fieldLabel f.name)
        ++ p.persisted.map fun f => setterOf (fieldLabel f.name)) := by
    have hsplit := List.flatMap_append_perm p.persisted (fun f => [fieldLabel f.name])
      (fun f => [setterOf (fieldLabel f.name)])
    rw [← List.map_eq_flatMap, ← List.map_eq_flatMap] at hsplit
    unfold memberNames
    rw [List.map_flatMap]
    exact hsplit.symm
  have hignored : (memberNames (p.ignored.flatMap ignoredAccessors)).Perm
      (p.ignored.map (fun f => fieldLabel f.name)
        ++ (p.ignored.filter fun f => !f.constant).map fun f => setterOf (fieldLabel f.name)) := by
    have hsplit := List.flatMap_append_perm p.ignored (fun f => [fieldLabel f.name])
      (fun f => if f.constant then [] else [setterOf (fieldLabel f.name)])
    have hnames : ∀ f : IgnoredField, memberNames (ignoredAccessors f) =
        [fieldLabel f.name] ++ if f.constant then [] else [setterOf (fieldLabel f.name)] := by
      intro f
      unfold ignoredAccessors
      cases f.constant <;> rfl
    have hsetters : (p.ignored.flatMap fun f =>
        if f.constant then [] else [setterOf (fieldLabel f.name)]) =
          (p.ignored.filter fun f => !f.constant).map fun f => setterOf (fieldLabel f.name) := by
      induction p.ignored with
      | nil => rfl
      | cons f fs ih =>
        rw [List.flatMap_cons, ih, List.filter_cons]
        cases f.constant <;> rfl
    rw [← List.map_eq_flatMap, hsetters] at hsplit
    unfold memberNames
    rw [List.map_flatMap]
    refine List.Perm.trans ?_ hsplit.symm
    simp only [← hnames]
    exact List.Perm.refl _
  rw [memberNames_append]
  refine (hpersisted.append hignored).trans ?_
  unfold labels settableLabels
  rw [List.map_append, List.map_map, List.map_map]
  apply List.perm_iff_count.mpr
  intro name
  simp only [List.count_append, Function.comp_def]
  omega

/-- What the members of a model are called. -/
theorem memberNames_perm (p : ModelPlan) : (memberNames (inherentMembers p)).Perm
    (constantNames ++ functionNames p ++ (labels p ++ (settableLabels p).map setterOf)) := by
  refine List.Perm.trans ?_ ((List.Perm.refl _).append (memberNames_accessors_perm p))
  unfold inherentMembers members functionNames
  rw [← memberNames_constants p]
  apply List.perm_iff_count.mpr
  intro name
  simp only [memberNames_append, List.count_append]
  omega

/-- Where labels and setters keep clear of each other and of the functions, only a label that is
    the name of a constant makes a name occur twice. -/
theorem memberNames_nodup_iff_of_labels {p : ModelPlan} (hlabels : (labels p).Nodup)
    (hfunctions : ∀ l ∈ labels p, l ∉ synthesizedMembers)
    (hsetters : ∀ l ∈ labels p, ∀ s ∈ settableLabels p, setterOf s ≠ l) :
    (memberNames (inherentMembers p)).Nodup ↔ ∀ l ∈ labels p, l ∉ constantNames := by
  have hfixed : (constantNames ++ functionNames p).Nodup := by
    have hall : (constantNames ++ synthesizedMembers).Nodup := by decide
    exact hall.sublist ((List.Sublist.refl _).append (functionNames_sublist p))
  have hfields : (labels p ++ (settableLabels p).map setterOf).Nodup := by
    rw [List.nodup_append]
    refine ⟨hlabels, (hlabels.sublist (settableLabels_sublist p)).map setterOf_injective, ?_⟩
    intro l hl name hname heq
    obtain ⟨s, hs, rfl⟩ := List.mem_map.mp hname
    exact hsetters l hl s hs heq.symm
  rw [(memberNames_perm p).nodup_iff, List.nodup_append]
  constructor
  · rintro ⟨-, -, hdistinct⟩ l hl hconstant
    exact hdistinct l (List.mem_append_left _ hconstant) l (List.mem_append_left _ hl) rfl
  · intro hconstants
    refine ⟨hfixed, hfields, ?_⟩
    intro name hname name' hname' heq
    subst heq
    have hknown : name ∈ constantNames ++ synthesizedMembers :=
      ((List.Sublist.refl _).append (functionNames_sublist p)).subset hname
    rcases List.mem_append.mp hname' with hl | hs
    · rcases List.mem_append.mp hknown with hconstant | hfunction
      · exact hconstants name hl hconstant
      · exact hfunctions name hl hfunction
    · obtain ⟨s, -, rfl⟩ := List.mem_map.mp hs
      exact setterOf_not_mem s hknown

end KeyedRecords.Generated

/-! ## Labels that are refused -/

namespace KeyedRecords.Description

open Source Generated

theorem not_mem_of_isReserved {label : String} (h : isReserved label = false) :
    label ∉ synthesizedMembers := by
  unfold isReserved at h
  rw [Bool.or_eq_false_iff] at h
  simpa using h.2

/-- No label is reserved or that of a setter. -/
theorem nameProblems_eq_nil_iff {persisted ignored : List Declaration} :
    nameProblems persisted ignored = [] ↔ ∀ d ∈ persisted ++ ignored, isReserved d.label = false ∧
      ∀ e ∈ persisted ++ ignored.filter fun e => !e.isIgnoredConstant, setterOf e.label ≠ d.label := by
  unfold nameProblems
  rw [List.map_eq_nil_iff, List.filterMap_eq_nil_iff]
  refine forall₂_congr fun d _ => ?_
  unfold nameProblem?
  cases isReserved d.label with
  | true => simp
  | false =>
    simp only [Bool.false_eq_true, if_false, Option.map_eq_none_iff, true_and, settersOf,
      List.find?_eq_none, List.forall_mem_map, decide_eq_true_eq]
    rfl

section Accepted

variable {model : ModelDescription} {p : ModelPlan} {ds : List Declaration}

/-- What is asked of the declarations of a plan and of the labels of its fields. -/
theorem roles_and_names_of_draft (h : (ModelPlan.draft model).2 = []) :
    roleProblems model.declarations = [] ∧
      nameProblems (withRole model.declarations .persisted) (withRole model.declarations .ignored) =
        [] := by
  simp only [ModelPlan.draft, List.append_eq_nil_iff] at h
  exact ⟨h.1.1.1.1.1.1.1, h.1.1.2⟩

theorem ModelPlan.Follows.labels_eq (h : p.Follows ds) :
    labels p = (withRole ds .persisted ++ withRole ds .ignored).map Declaration.label := by
  have hpersisted := congrArg (List.map fun f => fieldLabel f.1) h.persisted
  have hignored := congrArg (List.map fun f => fieldLabel f.1) h.ignored
  rw [List.map_map, List.map_map] at hpersisted hignored
  rw [List.map_append]
  exact congrArg₂ (· ++ ·) hpersisted hignored

theorem ModelPlan.Follows.settableLabels_eq (h : p.Follows ds) :
    settableLabels p = (withRole ds .persisted
      ++ (withRole ds .ignored).filter fun d => !d.isIgnoredConstant).map Declaration.label := by
  have hpersisted := congrArg (List.map fun f => fieldLabel f.1) h.persisted
  have hignored := congrArg
    (fun fs => (fs.filter fun f => !f.2.2.2.2).map fun f => fieldLabel f.1) h.ignored
  rw [List.map_map, List.map_map] at hpersisted
  simp only [List.filter_map, List.map_map] at hignored
  rw [List.map_append]
  exact congrArg₂ (· ++ ·) hpersisted hignored

/-- The members of an accepted model have distinct names exactly if no field is called like one of
    the two constants. -/
theorem memberNames_nodup_iff {name : Option Ident} {item : Item} {found : Found}
    (hfound : (find name item).1 = some found) {before : List Diagnostic}
    (hplan : (ModelPlan.build found.model before).1 = some p)
    (hlabels : (fieldLabels found.model.declarations).Nodup) :
    (memberNames (inherentMembers p)).Nodup ↔
      ∀ l ∈ fieldLabels found.model.declarations, l ∉ constantNames := by
  have hfollows : p.Follows found.model.declarations :=
    follows_of_build hplan (typed_of_find hfound) (nodup_persisted hlabels)
  obtain ⟨hroles, hnames⟩ := roles_and_names_of_draft (build_eq_some hplan).2
  have hperm : (labels p).Perm (fieldLabels found.model.declarations) := by
    rw [hfollows.labels_eq]
    exact (withRole_fields_perm hroles).map Declaration.label
  rw [nameProblems_eq_nil_iff] at hnames
  have hfunctions : ∀ l ∈ labels p, l ∉ synthesizedMembers := by
    intro l hl
    rw [hfollows.labels_eq] at hl
    obtain ⟨d, hd, rfl⟩ := List.mem_map.mp hl
    exact not_mem_of_isReserved (hnames d hd).1
  have hsetters : ∀ l ∈ labels p, ∀ s ∈ settableLabels p, setterOf s ≠ l := by
    intro l hl s hs
    rw [hfollows.labels_eq] at hl
    rw [hfollows.settableLabels_eq] at hs
    obtain ⟨d, hd, rfl⟩ := List.mem_map.mp hl
    obtain ⟨e, he, rfl⟩ := List.mem_map.mp hs
    exact (hnames d hd).2 e he
  rw [memberNames_nodup_iff_of_labels (hperm.nodup_iff.mpr hlabels) hfunctions hsetters]
  exact forall_congr' fun l => by rw [hperm.mem_iff]

end Accepted

/-! ## Fields that are called like constants and like setters -/

/-- A structure whose fields are texts, some of them with attributes. -/
def textStruct (name : String) (fields : List (List Attribute × Ident)) : Item :=
  .struct ⟨[], .inherited, .ofName name, ⟨[], none⟩,
    .named (fields.map fun f => ⟨f.1, .inherited, f.2, [.ident (.ofName "String")]⟩) false⟩

/-- A model with a field that is called like the constant for its name is accepted, and two of its
    members have that name. -/
theorem memberNames_titled : ∃ found p,
    (find none (textStruct "Titled" [([], .ofName "MODEL_NAME")])).1 = some found ∧
    (ModelPlan.build found.model []).1 = some p ∧ (fieldLabels found.model.declarations).Nodup ∧
    ¬ (memberNames (inherentMembers p)).Nodup := by
  have haccepted : accepted? (textStruct "Titled" [([], .ofName "MODEL_NAME")])
      (fun found p => (fieldLabels found.model.declarations,
        (memberNames (inherentMembers p)).count "MODEL_NAME")) = some (["MODEL_NAME"], 2) := by
    decide +kernel
  obtain ⟨found, p, hfound, hplan, h⟩ := exists_of_accepted? haccepted
  obtain ⟨hlabels, hcount⟩ := Prod.mk.inj h
  refine ⟨found, p, hfound, hplan, ?_, fun hn => ?_⟩
  · rw [hlabels]
    exact List.nodup_singleton _
  · have := List.nodup_iff_count_le_one.mp hn "MODEL_NAME"
    omega

/-- The attribute of an ignored field that only constructors set. -/
def constantField : Attribute :=
  ⟨false, ⟨false, [.ofName "persisted_ignored"]⟩, .arguments .paren [.ident (.ofName "constant")]⟩

/-- A field may have a raw name, and one that is called like the setter of a constant field. -/
theorem memberNames_nodup_setters : ∃ found p,
    (find none (textStruct "Setters" [([], ⟨"type", true⟩), ([constantField], .ofName "session"),
      ([], .ofName "set_session"), ([], .ofName "model_name")])).1 = some found ∧
    (ModelPlan.build found.model []).1 = some p ∧ (fieldLabels found.model.declarations).Nodup ∧
    (memberNames (inherentMembers p)).Nodup := by
  have haccepted : accepted? (textStruct "Setters" [([], ⟨"type", true⟩),
      ([constantField], .ofName "session"), ([], .ofName "set_session"), ([], .ofName "model_name")])
      (fun found _ => fieldLabels found.model.declarations) =
        some ["type", "session", "set_session", "model_name"] := by
    decide +kernel
  obtain ⟨found, p, hfound, hplan, hlabels⟩ := exists_of_accepted? haccepted
  have hn : (fieldLabels found.model.declarations).Nodup := by
    rw [hlabels]
    decide
  have hfree : ∀ l ∈ fieldLabels found.model.declarations, l ∉ constantNames := by
    rw [hlabels]
    decide
  exact ⟨found, p, hfound, hplan, hn, (memberNames_nodup_iff hfound hplan hn).mpr hfree⟩

end KeyedRecords.Description

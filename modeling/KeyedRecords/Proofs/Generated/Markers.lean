import KeyedRecords.Proofs.Description.Markers
import KeyedRecords.Proofs.Generated.Compile
import KeyedRecords.Proofs.Lists

/-!
# What becomes of markers

The markers of fields and of the items next to the model are taken off before anything is
generated, and one that its declaration cannot carry keeps everything from being generated.

**The structure itself is left out.** Nothing takes markers off the structure of the model: whatever
they are, they are not reported, and they are generated again with its other attributes.

Results:
* `reported_written`: what is reported depends on the structure, the items next to it, and not on
  the attributes of the structure.
* `reported_of_misplaced`: a marker that its declaration cannot carry is reported.
* `model_attrs`: the attributes of the structure stand in the generated text as they are.
* `generated_marked_iff`: the generated text is free of markers exactly if the structure is.
* `compile_stray`: a marker on the structure that is generated again.
-/

namespace KeyedRecords.Description

open Source

/-! ## Problems of a model as it is written -/

/-- The description of a model that is written as a structure and the items next to it. -/
def ModelDescription.ofWritten (s : StructItem) (around : List Item) : ModelDescription :=
  ⟨s.name, s.vis, true, "a struct", nonDerives s.attrs, Description.derives s.attrs,
    writtenDeclarations s around⟩

/-- All that is wrong with a model that is written as a structure and the items next to it. -/
def writtenProblems (s : StructItem) (around : List Item) : List Diagnostic :=
  (around.map Declaration.ofItem).flatMap Prod.snd ++ (ModelDescription.ofStruct s).2 ++
    match (ModelDescription.ofStruct s).1 with
    | some _ => (ModelPlan.build (.ofWritten s around) []).2
    | none => []

namespace Placement

/-- The items next to the model. -/
def others : Placement → List Item
  | alone => []
  | inModule _ items index => items.eraseIdx index

/-- There is a place for the model among the items. -/
def HasPlace : Placement → Prop
  | alone => True
  | inModule _ items index => index < items.length

end Placement

section Written

variable {name : Option Ident} {item : Item} {s : StructItem} {around : List Item}

/-- The description of a structure with those of the items next to it. -/
theorem ofStruct_eq_some {m : ModelDescription} (h : (ModelDescription.ofStruct s).1 = some m)
    (around : List Item) :
    { m with declarations := m.declarations ++ (around.map Declaration.ofItem).filterMap Prod.fst } =
      ModelDescription.ofWritten s around := by
  unfold ModelDescription.ofStruct at h
  split at h <;> cases h
  rfl

/-- The items next to the model lose their markers. -/
theorem eraseIdx_unmarkedItems (items : List Item) (index : ℕ) :
    (unmarkedItems items index).eraseIdx index = (items.eraseIdx index).map unmarkedItem := by
  refine List.ext_getElem? fun n => ?_
  unfold unmarkedItems
  simp only [List.getElem?_eraseIdx, List.getElem?_mapIdx, List.getElem?_map]
  split
  · next h =>
    have hne : n ≠ index := by omega
    simp only [hne, if_false]
  · next h =>
    have hne : n + 1 ≠ index := by omega
    simp only [hne, if_false]

/-- What is found of a model that is written as a structure and the items next to it. -/
theorem find_written (h : writtenModel? name item = some (s, around)) : ∃ placement : Placement,
    placement.HasPlace ∧ placement.others = around.map unmarkedItem ∧
    find name item = ((ModelDescription.ofStruct s).1.map fun _ => ⟨placement, .ofWritten s around⟩,
      (around.map Declaration.ofItem).flatMap Prod.snd ++ (ModelDescription.ofStruct s).2) := by
  unfold writtenModel? at h
  split at h
  · cases h
    refine ⟨.alone, trivial, rfl, Prod.ext (Option.map_congr fun m hm => ?_) rfl⟩
    rw [← ofStruct_eq_some hm, List.map_nil, List.filterMap_nil, List.append_nil]
  · next head items =>
    split at h
    · next index hindex =>
      split at h
      · next s' hitem =>
        cases h
        refine ⟨.inModule head (unmarkedItems items index) index, ?_, eraseIdx_unmarkedItems _ _, ?_⟩
        · show index < (unmarkedItems items index).length
          unfold unmarkedItems
          rw [List.length_mapIdx]
          exact findModel_lt_length hindex
        · unfold find findInModule
          simp only [hindex, hitem]
          refine Prod.ext (Option.map_congr fun m hm => ?_) rfl
          rw [← ofStruct_eq_some hm]
          rfl
      · cases h
    · cases h
  · cases h

/-- What is reported depends on how the model is written only. -/
theorem reported_written (h : writtenModel? name item = some (s, around)) :
    reported name item = writtenProblems s around := by
  obtain ⟨placement, -, -, hfind⟩ := find_written h
  unfold reported writtenProblems
  rw [hfind]
  dsimp only
  cases (ModelDescription.ofStruct s).1 <;> rfl

/-- The attributes of the structure are not looked at. -/
theorem writtenProblems_attrs (attrs : List Attribute) :
    writtenProblems { s with attrs } around = writtenProblems s around := by
  unfold writtenProblems ModelDescription.ofStruct
  have hshape : ModelDescription.shapeFault? { s with attrs } = ModelDescription.shapeFault? s := rfl
  rw [hshape]
  cases ModelDescription.shapeFault? s <;> rfl

/-- The roles are the first thing that planning looks at. -/
theorem roleProblems_subset_draft (model : ModelDescription) :
    roleProblems model.declarations ⊆ (ModelPlan.draft model).2 := by
  simp only [ModelPlan.draft, List.append_assoc]
  exact List.subset_append_left _ _

/-- A marker that its declaration cannot carry is reported. -/
theorem reported_of_misplaced {k : Marker} {label : String}
    (h : writtenModel? name item = some (s, around)) (hshape : ModelDescription.shapeFault? s = none)
    (hmisplaced : Misplaced s around k label) :
    ∃ g ∈ reported name item, g.problem.Refuses k label := by
  obtain ⟨g, hg, hrefuses⟩ := hmisplaced.refused
  refine ⟨g, ?_, hrefuses⟩
  rw [reported_written h]
  unfold writtenProblems ModelDescription.ofStruct
  rw [hshape]
  exact List.mem_append_right _ (roleProblems_subset_draft _ hg)

end Written

/-! ## Without markers -/

/-- A plan of which no attribute is a marker. -/
def ModelPlan.withoutMarkers (p : ModelPlan) : ModelPlan :=
  { p with
    attrs := unmarked p.attrs
    derives := unmarked p.derives
    persisted := p.persisted.map fun f => { f with attrs := unmarked f.attrs }
    ignored := p.ignored.map fun f => { f with attrs := unmarked f.attrs } }

/-- Surroundings of which no item has a marker. -/
def Placement.withoutMarkers : Placement → Placement
  | alone => alone
  | inModule head items index => inModule head (items.map unmarkedItem) index

section Planned

variable {model : ModelDescription}

theorem attrs_of_persisted {keys : KeySet} {d : Declaration} {f : PersistedField}
    (h : PersistedField.ofDeclaration keys d = some f) : f.attrs = d.attrs := by
  unfold PersistedField.ofDeclaration at h
  obtain ⟨type, -, h⟩ := Option.bind_eq_some_iff.mp h
  obtain ⟨key, -, h⟩ := Option.bind_eq_some_iff.mp h
  cases h
  rfl

theorem attrs_of_ignored {d : Declaration} {f : IgnoredField}
    (h : IgnoredField.ofDeclaration d = some f) : f.attrs = d.attrs := by
  obtain ⟨type, -, h⟩ := Option.map_eq_some_iff.mp h
  cases h
  rfl

/-- There are no markers in a plan, those of the structure apart. -/
structure ModelPlan.Cleared (p : ModelPlan) : Prop where
  derives : marked p.derives = []
  persisted : ∀ f ∈ p.persisted, marked f.attrs = []
  ignored : ∀ f ∈ p.ignored, marked f.attrs = []

theorem cleared_draft (hderives : marked model.derives = [])
    (hattrs : ∀ d ∈ model.declarations, marked d.attrs = []) :
    (ModelPlan.draft model).1.Cleared := by
  refine ⟨hderives, fun f hf => ?_, fun f hf => ?_⟩
  · obtain ⟨d, hd, hf⟩ := List.mem_filterMap.mp hf
    rw [attrs_of_persisted hf]
    exact hattrs d (mem_withRole.mp hd).1
  · obtain ⟨d, hd, hf⟩ := List.mem_filterMap.mp hf
    rw [attrs_of_ignored hf]
    exact hattrs d (mem_withRole.mp hd).1

theorem ModelPlan.Cleared.withoutMarkers_eq {p : ModelPlan} (h : p.Cleared) :
    p.withoutMarkers = { p with attrs := unmarked p.attrs } := by
  have hpersisted : p.persisted.map (fun f => { f with attrs := unmarked f.attrs }) = p.persisted := by
    refine map_eq_self fun f hf => ?_
    rw [marked_eq_nil_iff.mp (h.persisted f hf)]
  have hignored : p.ignored.map (fun f => { f with attrs := unmarked f.attrs }) = p.ignored := by
    refine map_eq_self fun f hf => ?_
    rw [marked_eq_nil_iff.mp (h.ignored f hf)]
  unfold ModelPlan.withoutMarkers
  rw [hpersisted, hignored, marked_eq_nil_iff.mp h.derives]

end Planned

end KeyedRecords.Description

namespace KeyedRecords.Generated

open Source Description

/-! ## The generated text -/

section Text

variable {attrs : List Attribute}

theorem accessors_attrs (p : ModelPlan) : ∃ after, ∀ attrs,
    accessors { p with attrs } = attributeTokens attrs ++ after := by
  refine ⟨p.vis.tokens ++ (words "struct" ++ (p.name.tokens ++ (braces (typedFields (ignoredTypes p)
    ++ commaTerminated [typed (words slotsField) (slotsHolder ++ angle (slots p)),
      typed (words contextField) contextType])
    ++ (implementation p.name.tokens (members p) ++ modelImplementation p)))), fun attrs => ?_⟩
  unfold accessors modelStructure
  simp only [List.append_assoc]
  rfl

/-- The attributes of the structure stand in the generated text as they are, and nothing else
    depends on them. -/
theorem model_attrs (p : ModelPlan) : ∃ before after, ∀ attrs,
    model { p with attrs } = before ++ attributeTokens attrs ++ after := by
  obtain ⟨after, haccessors⟩ := accessors_attrs p
  unfold model
  simp only [haccessors]
  cases p.keys.source with
  | implicit =>
    refine ⟨keyEnumeration p.vis p.keys, after ++ (record p ++ migration p), fun attrs => ?_⟩
    simp only [List.append_assoc]
    rfl
  | declared =>
    refine ⟨[], after ++ (record p ++ migration p), fun attrs => ?_⟩
    simp only [List.append_assoc]
    rfl

theorem tokens_ne_nil (a : Attribute) : a.tokens ≠ [] := by
  unfold Attribute.tokens
  exact List.append_ne_nil_of_right_ne_nil _ (List.cons_ne_nil _ _)

/-- A marker is seen in the text. -/
theorem attributeTokens_unmarked_iff :
    attributeTokens attrs = attributeTokens (unmarked attrs) ↔ marked attrs = [] := by
  rw [marked_eq_nil_iff]
  constructor
  · intro h
    exact eq_of_flatMap_eq tokens_ne_nil List.filter_sublist h.symm
  · intro h
    rw [h]

theorem model_unmarked_iff (p : ModelPlan) :
    model p = model { p with attrs := unmarked p.attrs } ↔ marked p.attrs = [] := by
  obtain ⟨before, after, hmodel⟩ := model_attrs p
  have hp := hmodel p.attrs
  rw [show model p = _ from hp, hmodel, List.append_cancel_right_eq, List.append_cancel_left_eq]
  exact attributeTokens_unmarked_iff

theorem unmarkedItem_unmarkedItem (i : Item) : unmarkedItem (unmarkedItem i) = unmarkedItem i := by
  cases i <;> simp [unmarkedItem, Item.withAttrs, Item.attrs]

/-- Surroundings whose other items have no markers are the same without markers. -/
theorem withoutMarkers_tokens {placement : Placement} {around : List Item}
    (h : placement.others = around.map unmarkedItem) (text : Tokens) :
    placement.withoutMarkers.tokens text = placement.tokens text := by
  cases placement with
  | alone => rfl
  | inModule head items index =>
    have hsame : ∀ i ∈ items.eraseIdx index, (unmarkedItem i).tokens = i.tokens := by
      intro i hi
      change i ∈ Placement.others (.inModule head items index) at hi
      rw [h] at hi
      obtain ⟨i', -, rfl⟩ := List.mem_map.mp hi
      rw [unmarkedItem_unmarkedItem]
    unfold Placement.withoutMarkers Placement.tokens
    dsimp only
    rw [List.map_map]
    exact congrArg (Placement.moduleTokens head) (map_set_congr hsame)

/-- Of the items of a module the text shows what they are together. -/
theorem moduleTokens_inj {head : ModuleHead} {texts texts' : List Tokens} :
    Placement.moduleTokens head texts = Placement.moduleTokens head texts' ↔
      texts.flatten = texts'.flatten := by
  constructor
  · intro h
    unfold Placement.moduleTokens ModuleHead.tokens braces at h
    dsimp only at h
    rw [List.append_cancel_left_eq] at h
    injection h with hgroup
    injection hgroup with _ hcontent
    rwa [List.append_cancel_left_eq] at hcontent
  · intro h
    unfold Placement.moduleTokens
    rw [h]

/-- The model is seen in the text around it. -/
theorem placement_tokens_inj {placement : Placement} (h : placement.HasPlace) {text text' : Tokens} :
    placement.tokens text = placement.tokens text' ↔ text = text' := by
  refine ⟨fun htokens => ?_, congrArg _⟩
  cases placement with
  | alone => exact htokens
  | inModule head items index =>
    have hplace : index < (items.map Item.tokens).length := by
      rw [List.length_map]
      exact h
    have hcontent := moduleTokens_inj.mp htokens
    rw [List.set_eq_take_cons_drop _ hplace, List.set_eq_take_cons_drop _ hplace] at hcontent
    simpa using hcontent

end Text

/-! ## Markers of a model -/

section Accepted

variable {name : Option Ident} {item : Item}

/-- A model that is final is written as a structure and the items next to it. -/
theorem exists_written {found : Found} (hfound : (find name item).1 = some found)
    (hfinal : found.model.isFinal) : ∃ s around, writtenModel? name item = some (s, around) := by
  unfold find at hfound
  unfold writtenModel?
  cases item with
  | struct s => exact ⟨s, [], rfl⟩
  | module head content =>
    cases content with
    | none => cases hfound
    | some items =>
      unfold findInModule at hfound
      cases hindex : findModel name items with
      | error problem => simp only [hindex, reduceCtorEq] at hfound
      | ok index =>
        simp only [hindex] at hfound
        cases hitem : items[index]? with
        | none => simp only [hitem, reduceCtorEq] at hfound
        | some i =>
          simp only [hitem] at hfound
          obtain ⟨m, hm, rfl⟩ := Option.map_eq_some_iff.mp hfound
          cases i with
          | struct s => exact ⟨s, items.eraseIdx index, by simp only [hindex, hitem]⟩
          | _ => cases hm; cases hfinal
  | _ => cases hfound; cases hfinal

/-- What is accepted is planned as it is written, without a problem. -/
theorem plan_written {placement : Placement} {p : ModelPlan}
    (h : ModelPlan.ofItem name item = (some (placement, p), [])) :
    ∃ s around, writtenModel? name item = some (s, around) ∧ placement.HasPlace ∧
      placement.others = around.map unmarkedItem ∧ roleProblems (writtenDeclarations s around) = [] ∧
      p.attrs = nonDerives s.attrs ∧ p.Cleared := by
  unfold ModelPlan.ofItem at h
  split at h
  · cases h
  · next found problems hfound =>
    simp only [Prod.mk.injEq, Option.map_eq_some_iff] at h
    obtain ⟨⟨p', hplan, hplaced, rfl⟩, -⟩ := h
    obtain ⟨rfl, hproblems⟩ := build_eq_some hplan
    have hfound' : (find name item).1 = some found := congrArg Prod.fst hfound
    have hfinal : found.model.isFinal := by
      unfold ModelPlan.build at hplan
      by_contra hnot
      rw [Bool.not_eq_true] at hnot
      rw [hnot] at hplan
      cases hplan
    obtain ⟨s, around, hwritten⟩ := exists_written hfound' hfinal
    obtain ⟨placement', hplace, hothers, hfind⟩ := find_written hwritten
    rw [hfind] at hfound'
    obtain ⟨-, -, rfl⟩ := Option.map_eq_some_iff.mp hfound'
    have hderives : marked (derives s.attrs) = [] := marked_filter_isNamed name_ne_derive
    obtain rfl : placement' = placement := hplaced
    refine ⟨s, around, hwritten, hplace, hothers, ?_, rfl, ?_⟩
    · refine List.eq_nil_of_subset_nil ?_
      rw [← hproblems]
      exact roleProblems_subset_draft (.ofWritten s around)
    · exact cleared_draft hderives fun d hd => marked_attrs_written hd

theorem marked_nonDerives (attrs : List Attribute) : marked (nonDerives attrs) = marked attrs := by
  unfold marked nonDerives
  rw [List.filter_filter]
  refine List.filter_congr fun a _ => ?_
  rw [← isSome_ofAttribute]
  cases ha : a.isNamed "derive" with
  | false => rw [Bool.not_false, Bool.and_true]
  | true => rw [ofAttribute_of_isNamed ha name_ne_derive]; rfl

theorem marked_attrs_unmarkedItem (i : Item) : marked (unmarkedItem i).attrs = [] := by
  cases i with
  | verbatim ts => rfl
  | _ => exact marked_unmarked

/-- What has become of the markers of an accepted model. Next to it nothing is changed but that all
    markers are gone, there are none in the plan but those of the structure, which are all there,
    and each that counts is carried by its declaration and decides the role of that. -/
structure MarkersSettled (s : StructItem) (around : List Item) (placement : Placement)
    (p : ModelPlan) : Prop where
  others : placement.others = around.map unmarkedItem
  items : ∀ i ∈ placement.others, marked i.attrs = []
  plan : p.Cleared
  kept : marked p.attrs = marked s.attrs
  carried : ∀ k label, ¬ Misplaced s around k label
  roles : ∀ d ∈ writtenDeclarations s around, ∀ k, d.markers.first? = some k →
    d.role? = some k.role

/-- Every marker of a field or of an item next to the model is taken off, and is reported if its
    declaration cannot carry it. The markers of the structure are not looked at: whatever they are,
    the same is reported, and they are generated again, so that the text has no markers exactly if
    the structure has none. -/
theorem generated_marked_iff (name : Option Ident) (item : Item) :
    (∀ text, compile name item = .ok text → ∃ s around placement p,
      writtenModel? name item = some (s, around) ∧
      ModelPlan.ofItem name item = (some (placement, p), []) ∧
      text = placement.tokens (model p) ∧ MarkersSettled s around placement p ∧
      (text = placement.withoutMarkers.tokens (model p.withoutMarkers) ↔ marked s.attrs = [])) ∧
    (∀ s around k label, writtenModel? name item = some (s, around) →
      ModelDescription.shapeFault? s = none → Misplaced s around k label →
        compile name item = .error (reported name item) ∧
        ∃ g ∈ reported name item, g.problem.Refuses k label) ∧
    (∀ s around attrs name' item', writtenModel? name item = some (s, around) →
      writtenModel? name' item' = some ({ s with attrs }, around) →
        reported name' item' = reported name item) := by
  refine ⟨?_, ?_, ?_⟩
  · intro text htext
    have hreported : reported name item = [] := by
      by_contra h
      rw [compile_of_reported h] at htext
      cases htext
    obtain ⟨placement, p, hplan⟩ := ofItem_of_reported_nil name item hreported
    obtain ⟨s, around, hwritten, hplace, hothers, hroles, hattrs, hcleared⟩ := plan_written hplan
    obtain rfl : placement.tokens (model p) = text :=
      Except.ok.inj ((compile_of_plan hplan).symm.trans htext)
    have hkept : marked p.attrs = marked s.attrs := by rw [hattrs, marked_nonDerives]
    refine ⟨s, around, placement, p, hwritten, hplan, rfl,
      ⟨hothers, ?_, hcleared, hkept, ?_, ?_⟩, ?_⟩
    · intro i hi
      rw [hothers] at hi
      obtain ⟨i', -, rfl⟩ := List.mem_map.mp hi
      exact marked_attrs_unmarkedItem i'
    · intro k label hmisplaced
      obtain ⟨g, hg, -⟩ := hmisplaced.refused
      rw [hroles] at hg
      cases hg
    · intro d hd k hfirst
      obtain ⟨r, hr⟩ := roleProblems_eq_nil_iff.mp hroles d hd
      exact Declaration.role?_of_first? hfirst hr
    · rw [withoutMarkers_tokens hothers, placement_tokens_inj hplace, hcleared.withoutMarkers_eq,
        ← hkept]
      exact model_unmarked_iff p
  · intro s around k label hwritten hshape hmisplaced
    obtain ⟨g, hg, hrefuses⟩ := reported_of_misplaced hwritten hshape hmisplaced
    exact ⟨compile_of_reported (List.ne_nil_of_mem hg), g, hg, hrefuses⟩
  · intro s around attrs name' item' h h'
    rw [reported_written h, reported_written h', writtenProblems_attrs]

/-! ## A marker on the structure -/

/-- A structure alone keeps its place. -/
theorem placement_struct {s : StructItem} {placement : Placement} {p : ModelPlan}
    (h : ModelPlan.ofItem name (.struct s) = (some (placement, p), [])) : placement = .alone := by
  unfold ModelPlan.ofItem find describeModel at h
  dsimp only at h
  cases hm : (ModelDescription.ofStruct s).1 with
  | none => rw [hm] at h; cases h
  | some m =>
    rw [hm] at h
    simp only [Option.map_some, Prod.mk.injEq, Option.map_eq_some_iff] at h
    obtain ⟨⟨p', -, hplaced, -⟩, -⟩ := h
    exact hplaced.symm

/-- The attributes of a structure alone are generated again, except what it derives. -/
theorem compile_struct {s : StructItem} (h : reported name (.struct s) = []) : ∃ before after,
    compile name (.struct s) = .ok (before ++ attributeTokens (nonDerives s.attrs) ++ after) := by
  obtain ⟨placement, p, hplan⟩ := ofItem_of_reported_nil name (.struct s) h
  obtain ⟨s', around, hwritten, -, -, -, hattrs, -⟩ := plan_written hplan
  obtain ⟨rfl, -⟩ := Prod.mk.inj (Option.some.inj hwritten)
  obtain ⟨before, after, hmodel⟩ := model_attrs p
  refine ⟨before, after, ?_⟩
  rw [compile_of_plan hplan, placement_struct hplan, ← hattrs, ← hmodel]
  rfl

/-- A structure with these attributes and one field. -/
def structWith (attrs : List Attribute) : StructItem :=
  ⟨attrs, .everywhere, .ofName "M", ⟨[], none⟩,
    .named [⟨[], .everywhere, .ofName "a", [.ident (.ofName "i64")]⟩] false⟩

/-- The attribute that ignores a field. -/
def ignoredAttribute : Attribute := ⟨false, ⟨false, [.ofName "persisted_ignored"]⟩, .nothing⟩

/-- A marker on the structure of a model is not reported, and is generated again. -/
theorem compile_stray : reported none (.struct (structWith [ignoredAttribute])) = [] ∧
    ∃ before after, compile none (.struct (structWith [ignoredAttribute])) =
      .ok (before ++ (operator "#" ++ brackets [.ident (.ofName "persisted_ignored")]) ++ after) := by
  have hreported : reported none (.struct (structWith [ignoredAttribute])) = [] := by
    decide +kernel
  refine ⟨hreported, ?_⟩
  obtain ⟨before, after, hcompile⟩ := compile_struct hreported
  exact ⟨before, after, hcompile⟩

/-- A constant that is marked as an ignored field. -/
def limitConstant : Item :=
  .value ⟨[ignoredAttribute], .inherited, .constant, .ofName "LIMIT", [.ident (.ofName "u8")],
    .literal [] "3"⟩

/-- A module with the same structure and that constant. -/
def limitItem : Item :=
  .module ⟨[], .inherited, false, .ofName "m"⟩ (some [.struct (structWith []), limitConstant])

/-- The markers of the keys of a pair are not generated, a marker on a constant is reported, and
    one on the structure is not. -/
theorem generated_marked_pair :
    (∃ placement p, ModelPlan.ofItem none
        (pairItem [("First", "a"), ("Second", "b")] [("Second", "y"), ("First", "x")]) =
          (some (placement, p), []) ∧
      compile none
        (pairItem [("First", "a"), ("Second", "b")] [("Second", "y"), ("First", "x")]) =
          .ok (placement.withoutMarkers.tokens (model p.withoutMarkers))) ∧
    compile none limitItem = .error (reported none limitItem) ∧
    (∃ g ∈ reported none limitItem, g.problem.Refuses .ignored "LIMIT") ∧
    reported none (.struct (structWith [ignoredAttribute])) =
      reported none (.struct (structWith [])) := by
  obtain ⟨haccepted, -, -⟩ := generated_marked_iff none
    (pairItem [("First", "a"), ("Second", "b")] [("Second", "y"), ("First", "x")])
  obtain ⟨-, hrefused, -⟩ := generated_marked_iff none limitItem
  obtain ⟨-, -, hignored⟩ := generated_marked_iff none (.struct (structWith []))
  have hreported : reported none
      (pairItem [("First", "a"), ("Second", "b")] [("Second", "y"), ("First", "x")]) = [] := by
    decide +kernel
  have hplain : (writtenModel? none
      (pairItem [("First", "a"), ("Second", "b")] [("Second", "y"), ("First", "x")])).map
        (fun w => (marked w.1.attrs).isEmpty) = some true := by
    decide +kernel
  have hlimit : writtenModel? none limitItem = some (structWith [], [limitConstant]) := rfl
  have hfirst : firstMarker limitConstant.attrs = some .ignored := by decide +kernel
  have hmisplaced : Misplaced (structWith []) [limitConstant] .ignored "LIMIT" :=
    .onItem List.mem_cons_self hfirst id
  obtain ⟨herror, hreports⟩ := hrefused _ _ _ _ hlimit rfl hmisplaced
  refine ⟨?_, herror, hreports, hignored (structWith []) [] [ignoredAttribute] none _ rfl rfl⟩
  obtain ⟨placement, p, hplan⟩ := ofItem_of_reported_nil _ _ hreported
  obtain ⟨s, around, placement', p', hwritten, hplan', -, -, hiff⟩ :=
    haccepted _ (compile_of_plan hplan)
  rw [hwritten, Option.map_some, Option.some_inj, List.isEmpty_iff] at hplain
  refine ⟨placement', p', hplan', (compile_of_plan hplan).trans ?_⟩
  rw [hiff.mpr hplain]

end Accepted

end KeyedRecords.Generated

import KeyedRecords.Proofs.Generated.Markers

/-!
# Models whose surroundings are rearranged

A model is planned from its structure and the marked items next to it. It does not matter where in
the module any of them stands, nor what else stands there. An accepted model has at most one
declaration of the storage name and of each key enumeration, so the first of them is the only one.

Results:
* `draft_congr`: a plan depends on the declarations by role.
* `withRole_of_rearranged`: the declarations of every role are the same where an accepted model is
  rearranged.
* `writtenModel?_of_isStruct`: the only structure of a module is found wherever it stands.
* `plan_of_rearranged`: rearranging the module of an accepted model leaves its plan as it is, and
  without marked items that is the plan of the structure alone.
-/

namespace KeyedRecords.Description

open Source

/-! ## Plans and roles -/

section Roles

variable {model : ModelDescription} {ds ds' : List Declaration}

/-- A plan depends on the declarations by role. -/
theorem draft_congr (model : ModelDescription) (hroles : ∀ r, withRole ds r = withRole ds' r)
    (hproblems : roleProblems ds = roleProblems ds') :
    ModelPlan.draft { model with declarations := ds } =
      ModelPlan.draft { model with declarations := ds' } := by
  unfold ModelPlan.draft
  simp only [hroles, hproblems]
  rfl

/-- A role that is not reported as repeated has one declaration at most. -/
theorem length_le_one_of_repeatedProblems {marker : Marker} (h : repeatedProblems marker ds = []) :
    ds.length ≤ 1 := by
  unfold repeatedProblems at h
  have hdrop : ds.drop 1 = [] := List.map_eq_nil_iff.mp h
  exact List.drop_eq_nil_iff.mp hdrop

/-- In a description without problems only the roles of fields are given more than once. -/
theorem length_withRole_le_one (h : (ModelPlan.draft model).2 = []) {r : Role}
    (hr : r ≠ .persisted ∧ r ≠ .ignored) : (withRole model.declarations r).length ≤ 1 := by
  simp only [ModelPlan.draft, List.append_eq_nil_iff] at h
  obtain ⟨⟨⟨⟨⟨⟨⟨-, hstorage⟩, hkeys⟩, hmigration⟩, -⟩, -⟩, -⟩, -⟩ := h
  cases r with
  | storageName => exact length_le_one_of_repeatedProblems hstorage
  | modelKeys => exact length_le_one_of_repeatedProblems hkeys
  | migrationKeys => exact length_le_one_of_repeatedProblems hmigration
  | persisted => exact absurd rfl hr.1
  | ignored => exact absurd rfl hr.2

/-- A list of one element at most has one order only. -/
theorem eq_of_perm_of_length_le_one {α : Type} {as bs : List α} (h : as.Perm bs)
    (hle : as.length ≤ 1) : as = bs := by
  match as, hle with
  | [], _ => exact h.nil_eq
  | [a], _ => exact List.singleton_perm.mp h

/-- Where declarations that are no fields are permuted, those of every role stay what they were,
    as long as no role is given twice. -/
theorem withRole_of_perm {fields around around' : List Declaration} (hperm : around.Perm around')
    (hkind : ∀ d ∈ around, d.kind ≠ .field)
    (hle : ∀ r, r ≠ .persisted ∧ r ≠ .ignored → (withRole (fields ++ around) r).length ≤ 1)
    (r : Role) : withRole (fields ++ around) r = withRole (fields ++ around') r := by
  by_cases hr : r ≠ .persisted ∧ r ≠ .ignored
  · have hall : (withRole (fields ++ around) r).Perm (withRole (fields ++ around') r) := by
      unfold withRole
      exact (hperm.append_left fields).filter _
    exact eq_of_perm_of_length_le_one hall (hle r hr)
  · -- Only fields can have the role, so what is permuted has no part in it.
    have hnone : ∀ ds : List Declaration, (∀ d ∈ ds, d.kind ≠ .field) → withRole ds r = [] := by
      intro ds hds
      unfold withRole
      rw [List.filter_eq_nil_iff]
      intro d hd hrole
      have hasks : r.Asks d := Declaration.asks_of_role? (of_decide_eq_true hrole)
      cases r with
      | persisted => exact hds d hd hasks
      | ignored => exact hds d hd hasks
      | _ => exact hr ⟨by decide, by decide⟩
    have hkind' : ∀ d ∈ around', d.kind ≠ .field := fun d hd => hkind d (hperm.mem_iff.mpr hd)
    have happend : ∀ ds, withRole (fields ++ ds) r = withRole fields r ++ withRole ds r :=
      fun ds => List.filter_append _ _
    rw [happend, happend, hnone around hkind, hnone around' hkind']

end Roles

/-! ## What is written around a model -/

section Around

variable {s : StructItem} {around around' : List Item}

/-- The declarations of a model as it is written: its fields, and the marked items around it. -/
theorem writtenDeclarations_eq : writtenDeclarations s around =
    ((ModelDescription.namedFields s.fields).map fun f => (Declaration.ofField f).1) ++
      (around.filter Declaration.isMarked).map fun i => (Declaration.ofMarkedItem i).1 := by
  unfold writtenDeclarations
  rw [Declaration.filterMap_ofItem, List.map_map]
  rfl

/-- The declarations of every role are the same where an accepted model is rearranged. -/
theorem withRole_of_rearranged
    (hsame : (around.filter Declaration.isMarked).Perm (around'.filter Declaration.isMarked))
    (h : (ModelPlan.draft (.ofWritten s around)).2 = []) (r : Role) :
    withRole (writtenDeclarations s around) r = withRole (writtenDeclarations s around') r := by
  have hle : ∀ r, r ≠ .persisted ∧ r ≠ .ignored →
      (withRole (writtenDeclarations s around) r).length ≤ 1 :=
    fun r hr => length_withRole_le_one h hr
  rw [writtenDeclarations_eq] at hle
  rw [writtenDeclarations_eq, writtenDeclarations_eq]
  refine withRole_of_perm (hsame.map _) ?_ hle r
  intro d hd
  obtain ⟨i, -, rfl⟩ := List.mem_map.mp hd
  exact Declaration.kind_ofMarkedItem_ne_field i

/-- Nothing is wrong with the roles of rearranged declarations. -/
theorem roleProblems_of_rearranged
    (hsame : (around.filter Declaration.isMarked).Perm (around'.filter Declaration.isMarked))
    (h : roleProblems (writtenDeclarations s around) = []) :
    roleProblems (writtenDeclarations s around') = [] := by
  rw [roleProblems_eq_nil_iff, writtenDeclarations_eq] at h ⊢
  intro d hd
  have hperm := (hsame.map fun i => (Declaration.ofMarkedItem i).1).append_left
    ((ModelDescription.namedFields s.fields).map fun f => (Declaration.ofField f).1)
  exact h d (hperm.mem_iff.mpr hd)

/-- A model that is rearranged has the same draft of a plan. -/
theorem draft_of_rearranged
    (hsame : (around.filter Declaration.isMarked).Perm (around'.filter Declaration.isMarked))
    (h : (ModelPlan.draft (.ofWritten s around)).2 = []) :
    ModelPlan.draft (.ofWritten s around') = ModelPlan.draft (.ofWritten s around) := by
  have hroles : roleProblems (writtenDeclarations s around) = [] := by
    refine List.eq_nil_of_subset_nil ?_
    rw [← h]
    exact roleProblems_subset_draft (.ofWritten s around)
  have hproblems : roleProblems (writtenDeclarations s around) =
      roleProblems (writtenDeclarations s around') := by
    rw [hroles, roleProblems_of_rearranged hsame hroles]
  exact (draft_congr (.ofWritten s around) (withRole_of_rearranged hsame h) hproblems).symm

/-- What is wrong with the markers around a model does not depend on how it is arranged. -/
theorem problems_of_rearranged
    (hsame : (around.filter Declaration.isMarked).Perm (around'.filter Declaration.isMarked))
    (h : (around.map Declaration.ofItem).flatMap Prod.snd = []) :
    (around'.map Declaration.ofItem).flatMap Prod.snd = [] := by
  rw [List.flatMap_map, List.flatMap_eq_nil_iff] at h ⊢
  intro i hi
  cases hmarked : Declaration.isMarked i with
  | false =>
    rw [Declaration.ofItem_of_unmarked (Declaration.isMarked_eq_false_iff.mp hmarked)]
  | true =>
    have hmem : i ∈ around'.filter Declaration.isMarked := List.mem_filter.mpr ⟨hi, hmarked⟩
    exact h i (List.mem_of_mem_filter (hsame.mem_iff.mpr hmem))

end Around

/-! ## The structure of a module -/

section Module

variable {items items' : List Item} {s : StructItem}

/-- The only structure of a module is found wherever it stands. -/
theorem writtenModel?_of_isStruct (head : ModuleHead)
    (h : items.filter Item.isStruct = [.struct s]) :
    ∃ around, writtenModel? none (.module head (some items)) = some (s, around) ∧
      (Item.struct s :: around).Perm items := by
  obtain ⟨before, after, rfl, hbefore, hstruct, -⟩ := List.filter_eq_cons_iff.mp h
  refine ⟨before ++ after, ?_, List.perm_middle.symm⟩
  have hindex : (before ++ Item.struct s :: after).findIdx? Item.isStruct = some before.length := by
    have hnone : before.findIdx? Item.isStruct = none :=
      List.findIdx?_eq_none_iff.mpr fun i hi => Bool.eq_false_of_not_eq_true (hbefore i hi)
    rw [List.findIdx?_append, hnone, List.findIdx?_cons, if_pos hstruct]
    simp
  have hfind : findModel none (before ++ Item.struct s :: after) = .ok before.length := by
    unfold findModel
    simp only [hindex, h, List.length_singleton, if_true]
  have hitem : (before ++ Item.struct s :: after)[before.length]? = some (.struct s) := by
    rw [List.getElem?_append_right (Nat.le_refl _), Nat.sub_self, List.getElem?_cons_zero]
  have herase : (before ++ Item.struct s :: after).eraseIdx before.length = before ++ after := by
    rw [List.eraseIdx_append_of_length_le (Nat.le_refl _), Nat.sub_self, List.eraseIdx_cons_zero]
  unfold writtenModel?
  simp only [hfind, hitem, herase]

/-- An accepted module has one structure. -/
theorem exists_isStruct_of_reported {head : ModuleHead}
    (h : reported none (.module head (some items)) = []) :
    ∃ s, items.filter Item.isStruct = [.struct s] := by
  unfold reported find findInModule at h
  cases hfind : findModel none items with
  | error problem =>
    simp only [hfind] at h
    cases h
  | ok index =>
    unfold findModel at hfind
    dsimp only at hfind
    split at hfind
    · cases hfind
    · split_ifs at hfind with hone
      obtain ⟨i, hi⟩ := List.length_eq_one_iff.mp hone
      have hstruct : i.isStruct = true := (List.mem_filter.mp (hi ▸ List.mem_singleton_self i)).2
      cases i with
      | struct s => exact ⟨s, hi⟩
      | _ => cases hstruct

theorem ofItem_of_find {name : Option Ident} {item : Item} {found : Found}
    {problems : List Diagnostic} (h : find name item = (some found, problems)) :
    ModelPlan.ofItem name item =
      ((ModelPlan.build found.model problems).1.map fun p => (found.placement, p),
        (ModelPlan.build found.model problems).2) := by
  unfold ModelPlan.ofItem
  rw [h]

/-- A model without problems has the plan of what is written of it. -/
theorem ofItem_written {name : Option Ident} {item : Item} {around : List Item}
    (hwritten : writtenModel? name item = some (s, around)) (h : writtenProblems s around = []) :
    ∃ placement, ModelPlan.ofItem name item =
      (some (placement, (ModelPlan.draft (.ofWritten s around)).1), []) := by
  have hreported : (ModelPlan.ofItem name item).2 = [] := by
    rw [ofItem_snd, reported_written hwritten, h]
  obtain ⟨placement, -, -, hfind⟩ := find_written hwritten
  refine ⟨placement, ?_⟩
  unfold writtenProblems at h
  rw [List.append_eq_nil_iff, List.append_eq_nil_iff] at h
  cases hstruct : (ModelDescription.ofStruct s).1 with
  | none => exact absurd h.1.2 (ofStruct_eq_none hstruct)
  | some m =>
    rw [hstruct, Option.map_some] at hfind
    have hitem := ofItem_of_find hfind
    rw [hitem] at hreported ⊢
    have hplan := mt (build_eq_none_iff _ _).mp (not_not_intro hreported)
    obtain ⟨p, hp⟩ := Option.ne_none_iff_exists'.mp hplan
    rw [hreported, hp, (build_eq_some hp).1]
    rfl

/-- A structure without problems has none where what is around it is rearranged. -/
theorem writtenProblems_of_rearranged {around around' : List Item}
    (hsame : (around.filter Declaration.isMarked).Perm (around'.filter Declaration.isMarked))
    (h : writtenProblems s around = []) : writtenProblems s around' = [] ∧
      ModelPlan.draft (.ofWritten s around') = ModelPlan.draft (.ofWritten s around) := by
  unfold writtenProblems at h ⊢
  rw [List.append_eq_nil_iff, List.append_eq_nil_iff] at h
  obtain ⟨⟨hmarkers, hshape⟩, hplan⟩ := h
  cases hstruct : (ModelDescription.ofStruct s).1 with
  | none => exact absurd hshape (ofStruct_eq_none hstruct)
  | some m =>
    rw [hstruct] at hplan
    have hdraft : (ModelPlan.draft (.ofWritten s around)).2 = [] := hplan
    have hsame' := draft_of_rearranged hsame hdraft
    have hplan' : (ModelPlan.build (.ofWritten s around') []).2 = [] :=
      (congrArg Prod.snd hsame').trans hdraft
    rw [problems_of_rearranged hsame hmarkers, hshape]
    exact ⟨hplan', hsame'⟩

/-! ## Rearranging a module -/

/-- An item counts for the plan if it is a structure or carries a marker. -/
def counts (i : Item) : Bool := i.isStruct || Declaration.isMarked i

/-- The items of a module are rearranged: any of them may stand elsewhere, and items that are neither
    structures nor marked may be added or left out. -/
def Rearranged (items items' : List Item) : Prop := (items.filter counts).Perm (items'.filter counts)

theorem Rearranged.of_perm (h : items.Perm items') : Rearranged items items' := h.filter counts

theorem Rearranged.add (h : Rearranged items items') {i : Item} (hi : counts i = false) :
    Rearranged items (i :: items') := by
  unfold Rearranged
  rw [List.filter_cons_of_neg (by rw [hi]; decide)]
  exact h

theorem Rearranged.symm (h : Rearranged items items') : Rearranged items' items := List.Perm.symm h

theorem filter_isStruct_counts :
    (items.filter counts).filter Item.isStruct = items.filter Item.isStruct := by
  rw [List.filter_filter]
  refine List.filter_congr fun i _ => ?_
  cases hi : i.isStruct with
  | false => rfl
  | true => simp [counts, hi]

theorem filter_isMarked_counts :
    (items.filter counts).filter Declaration.isMarked = items.filter Declaration.isMarked := by
  rw [List.filter_filter]
  refine List.filter_congr fun i _ => ?_
  cases hi : Declaration.isMarked i with
  | false => rfl
  | true => simp [counts, hi]

/-- Rearranged modules have the same structure. -/
theorem Rearranged.isStruct (h : Rearranged items items')
    (hs : items.filter Item.isStruct = [.struct s]) : items'.filter Item.isStruct = [.struct s] := by
  have hperm := List.Perm.filter Item.isStruct h
  rw [filter_isStruct_counts, filter_isStruct_counts, hs] at hperm
  exact (List.singleton_perm.mp hperm).symm

/-- Rearranged modules have the same marked items around their structure. -/
theorem Rearranged.isMarked (h : Rearranged items items') {around around' : List Item}
    (haround : (Item.struct s :: around).Perm items)
    (haround' : (Item.struct s :: around').Perm items') :
    (around.filter Declaration.isMarked).Perm (around'.filter Declaration.isMarked) := by
  have hcounts : counts (.struct s) = true := rfl
  have hperm : (Item.struct s :: around.filter counts).Perm (.struct s :: around'.filter counts) := by
    rw [← List.filter_cons_of_pos hcounts, ← List.filter_cons_of_pos hcounts]
    exact ((haround.filter counts).trans h).trans (haround'.filter counts).symm
  have hrest := (hperm.cons_inv).filter Declaration.isMarked
  rwa [filter_isMarked_counts, filter_isMarked_counts] at hrest

/-- Where no item but the structure is marked, nothing marked stands around it. -/
theorem filter_isMarked_around {around : List Item} (haround : (Item.struct s :: around).Perm items)
    (hs : items.filter Item.isStruct = [.struct s])
    (hplain : ∀ i ∈ items, i.isStruct = false → marked i.attrs = []) :
    around.filter Declaration.isMarked = [] := by
  have hothers : around.filter Item.isStruct = [] := by
    have hperm := haround.filter Item.isStruct
    have hstruct : Item.isStruct (.struct s) = true := rfl
    rw [hs, List.filter_cons_of_pos hstruct] at hperm
    exact List.perm_nil.mp hperm.cons_inv
  rw [List.filter_eq_nil_iff] at hothers ⊢
  intro i hi
  have hmem : i ∈ items := haround.mem_iff.mp (List.mem_cons_of_mem _ hi)
  have hunmarked : marked i.attrs = [] :=
    hplain i hmem (Bool.eq_false_of_not_eq_true (hothers i hi))
  rw [Declaration.isMarked_eq_false_iff.mpr hunmarked]
  decide

end Module

end KeyedRecords.Description

namespace KeyedRecords.Generated

open Source Description

/-- The plan of an accepted module depends on its structure and the marked items only: it is the
    same where the items are permuted, and where items that are neither structures nor marked are
    added or left out. Where nothing is marked but perhaps the structure, it is also the plan of the
    structure alone, so that the same model is generated of both. -/
theorem plan_of_rearranged {head : ModuleHead} (head' : ModuleHead) {items items' : List Item}
    {text : Tokens} (h : compile none (.module head (some items)) = .ok text)
    (hsame : Rearranged items items') :
    ∃ p placement placement',
      ModelPlan.ofItem none (.module head (some items)) = (some (placement, p), []) ∧
      text = placement.tokens (model p) ∧
      ModelPlan.ofItem none (.module head' (some items')) = (some (placement', p), []) ∧
      compile none (.module head' (some items')) = .ok (placement'.tokens (model p)) ∧
      ((∀ i ∈ items, i.isStruct = false → marked i.attrs = []) →
        ∃ s, items.filter Item.isStruct = [.struct s] ∧
          ModelPlan.ofItem none (.struct s) = (some (.alone, p), []) ∧
          compile none (.struct s) = .ok (model p)) := by
  have hreported := reported_of_compile h
  obtain ⟨s, hs⟩ := exists_isStruct_of_reported hreported
  obtain ⟨around, hwritten, haround⟩ := writtenModel?_of_isStruct head hs
  obtain ⟨around', hwritten', haround'⟩ :=
    writtenModel?_of_isStruct head' (hsame.isStruct hs)
  have hproblems : writtenProblems s around = [] := by
    rw [← reported_written hwritten, hreported]
  obtain ⟨placement, hplan⟩ := ofItem_written hwritten hproblems
  -- The items in their new places.
  obtain ⟨hproblems', hdraft'⟩ :=
    writtenProblems_of_rearranged (hsame.isMarked haround haround') hproblems
  obtain ⟨placement', hplan'⟩ := ofItem_written hwritten' hproblems'
  rw [hdraft'] at hplan'
  refine ⟨_, placement, placement', hplan, Except.ok.inj (h.symm.trans (compile_of_plan hplan)),
    hplan', compile_of_plan hplan', fun hplain => ⟨s, hs, ?_⟩⟩
  -- The structure alone.
  have hnone : (around.filter Declaration.isMarked).Perm
      (([] : List Item).filter Declaration.isMarked) := by
    rw [filter_isMarked_around haround hs hplain, List.filter_nil]
  obtain ⟨hproblemsAlone, hdraftAlone⟩ := writtenProblems_of_rearranged hnone hproblems
  have hwrittenAlone : writtenModel? none (.struct s) = some (s, []) := rfl
  obtain ⟨placementAlone, hplanAlone⟩ := ofItem_written hwrittenAlone hproblemsAlone
  obtain rfl : placementAlone = .alone := placement_struct hplanAlone
  rw [hdraftAlone] at hplanAlone
  exact ⟨hplanAlone, compile_of_plan hplanAlone⟩

/-- A constant that gives the storage name. -/
def nameConstant : Item :=
  .value ⟨[⟨false, ⟨false, [.ofName "storage_name"]⟩, .nothing⟩], .inherited, .constant,
    .ofName "NAME", [.ident (.ofName "str")], .literal [] "\"m\""⟩

/-- A function without markers. -/
def helperFunction : Item :=
  .other ⟨.function, [], .inherited, some (.ofName "helper"), [], none⟩

/-- A module with these items. -/
def moduleOf (items : List Item) : Item :=
  .module ⟨[], .inherited, false, .ofName "m"⟩ (some items)

/-- The storage name is found behind another function and before the structure, and a function that
    is left out makes no difference. -/
theorem plan_of_rearranged_helper :
    (∃ p placement placement',
      ModelPlan.ofItem none (moduleOf [.struct (structWith []), nameConstant]) =
        (some (placement, p), []) ∧
      ModelPlan.ofItem none (moduleOf [helperFunction, nameConstant, .struct (structWith [])]) =
        (some (placement', p), [])) ∧
    ∃ p placement placement',
      ModelPlan.ofItem none (moduleOf [helperFunction, .struct (structWith [])]) =
        (some (placement, p), []) ∧
      ModelPlan.ofItem none (moduleOf [.struct (structWith [])]) = (some (placement', p), []) ∧
      ModelPlan.ofItem none (.struct (structWith [])) = (some (.alone, p), []) := by
  have hnamed : reported none (moduleOf [.struct (structWith []), nameConstant]) = [] := by
    decide +kernel
  have hplain : reported none (moduleOf [helperFunction, .struct (structWith [])]) = [] := by
    decide +kernel
  obtain ⟨_, _, hnamedPlan⟩ := ofItem_of_reported_nil _ _ hnamed
  obtain ⟨_, _, hplainPlan⟩ := ofItem_of_reported_nil _ _ hplain
  have hhelper : counts helperFunction = false := by decide +kernel
  have hmoved : Rearranged [.struct (structWith []), nameConstant]
      [helperFunction, nameConstant, .struct (structWith [])] :=
    (Rearranged.of_perm (List.Perm.swap _ _ [])).add hhelper
  have hleft : Rearranged [helperFunction, .struct (structWith [])] [.struct (structWith [])] :=
    ((Rearranged.of_perm (List.Perm.refl _)).add hhelper).symm
  obtain ⟨p, placement, placement', hp, -, hp', -⟩ :=
    plan_of_rearranged ⟨[], .inherited, false, .ofName "m"⟩ (compile_of_plan hnamedPlan) hmoved
  obtain ⟨q, place, place', hq, -, hq', -, halone⟩ :=
    plan_of_rearranged ⟨[], .inherited, false, .ofName "m"⟩ (compile_of_plan hplainPlan) hleft
  obtain ⟨s, hs, hqAlone, -⟩ := halone (by decide +kernel)
  obtain rfl : structWith [] = s := by
    injection hs with hstruct
    injection hstruct
  exact ⟨⟨p, placement, placement', hp, hp'⟩, q, place, place', hq, hq', hqAlone⟩

end KeyedRecords.Generated

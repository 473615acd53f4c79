import KeyedRecords.Generated.Model
import KeyedRecords.Proofs.Description.Plan

/-!
# Compilation is all or nothing

Looking for a model and planning it go on after most problems, so that all of them are reported
together. Each of the two gives up only for a reason it has reported, and what is reported keeps
everything from being generated.

Results:
* `findModel_lt_length`: the index of the model of a module is that of an item.
* `find_eq_none`: where no model is found, something is reported.
* `build_eq_none_iff`: there is no plan exactly if something is reported, by now or before.
* `ofItem_snd`: what is reported of an item, in order.
* `compile_all_or_nothing`: an item compiles to its model if nothing is reported, and to all that
  is reported if not.
-/

namespace KeyedRecords.Description

open Source

/-! ## Looking for the model -/

section Find

variable {name : Option Ident} {item : Item} {items : List Item} {index : Nat}

/-- The index of the model of a module is that of an item. -/
theorem findModel_lt_length (h : findModel name items = .ok index) : index < items.length := by
  unfold findModel at h
  split at h
  · split at h
    · next hindex => cases h; exact (List.findIdx?_eq_some_iff_findIdx_eq.mp hindex).1
    · cases h
  · split at h
    · cases h
    · next hindex =>
      dsimp only at h
      split_ifs at h
      cases h
      exact (List.findIdx?_eq_some_iff_findIdx_eq.mp hindex).1

/-- A structure that cannot be a model is reported. -/
theorem ofStruct_eq_none {s : StructItem} (h : (ModelDescription.ofStruct s).1 = none) :
    (ModelDescription.ofStruct s).2 ≠ [] := by
  unfold ModelDescription.ofStruct at h ⊢
  split at h
  · exact List.cons_ne_nil _ _
  · cases h

/-- Only structures are refused a description. -/
theorem describeModel_eq_none {fallback : Ident} (h : (describeModel fallback item).1 = none) :
    (describeModel fallback item).2 ≠ [] := by
  unfold describeModel at h ⊢
  split at h
  · exact ofStruct_eq_none h
  · cases h

theorem findInModule_eq_none {head : ModuleHead} (h : (findInModule name head items).1 = none) :
    (findInModule name head items).2 ≠ [] := by
  unfold findInModule at h ⊢
  cases hindex : findModel name items with
  | error problem => exact List.cons_ne_nil _ _
  | ok index =>
    -- no item is missing at the index, so it is the description that gave up
    obtain ⟨item, hitem⟩ : ∃ item, items[index]? = some item :=
      ⟨_, List.getElem?_eq_getElem (findModel_lt_length hindex)⟩
    simp only [hindex, hitem, Option.map_eq_none_iff] at h
    simp only [hitem]
    apply List.append_ne_nil_of_right_ne_nil
    exact describeModel_eq_none h

/-- Where no model is found, something is reported. -/
theorem find_eq_none (h : (find name item).1 = none) : (find name item).2 ≠ [] := by
  unfold find at h ⊢
  split at h
  · exact List.cons_ne_nil _ _
  · exact findInModule_eq_none h
  · exact describeModel_eq_none (Option.map_eq_none_iff.mp h)

end Find

/-! ## Planning -/

section Build

variable (model : ModelDescription) (before : List Diagnostic)

/-- What was reported before stays in front of what planning reports. -/
theorem build_snd : (ModelPlan.build model before).2 = before ++ (ModelPlan.build model []).2 := by
  unfold ModelPlan.build
  split_ifs <;> rfl

/-- There is no plan exactly if something is reported, by now or before. -/
theorem build_eq_none_iff :
    (ModelPlan.build model before).1 = none ↔ (ModelPlan.build model before).2 ≠ [] := by
  unfold ModelPlan.build
  split_ifs with hfinal
  · have hreported : before ++ [Diagnostic.ofProblem (.notFinal model.name.text model.kind)] ≠ [] :=
      List.append_ne_nil_of_right_ne_nil _ (List.cons_ne_nil _ _)
    exact iff_of_true rfl hreported
  · dsimp only
    split
    · next hempty =>
      have hnil := List.isEmpty_iff.mp hempty
      exact iff_of_false (Option.some_ne_none _) (not_not_intro hnil)
    · next hempty =>
      have hreported := mt List.isEmpty_iff.mpr hempty
      exact iff_of_true rfl hreported

end Build

/-! ## Both together -/

section OfItem

variable (name : Option Ident) (item : Item)

/-- What is reported of an item: all that is wrong where a model is looked for, and then all that
    is wrong with the model that was found. -/
def reported : List Diagnostic :=
  (find name item).2 ++ match (find name item).1 with
    | some found => (ModelPlan.build found.model []).2
    | none => []

/-- All that is reported of an item is handed on, in order. -/
theorem ofItem_snd : (ModelPlan.ofItem name item).2 = reported name item := by
  unfold ModelPlan.ofItem reported
  rcases find name item with ⟨_ | found, problems⟩
  · exact (List.append_nil problems).symm
  · exact build_snd found.model problems

/-- An item has no plan exactly if something is reported. -/
theorem ofItem_eq_none_iff : (ModelPlan.ofItem name item).1 = none ↔ reported name item ≠ [] := by
  rw [← ofItem_snd]
  unfold ModelPlan.ofItem
  split
  · next problems hfound =>
    have hnone : (find name item).1 = none := congrArg Prod.fst hfound
    have hreported := find_eq_none hnone
    rw [hfound] at hreported
    exact iff_of_true rfl hreported
  · next found problems hfound =>
    dsimp only
    rw [Option.map_eq_none_iff]
    exact build_eq_none_iff found.model problems

/-- An item of which nothing is reported has a plan. -/
theorem ofItem_of_reported_nil (h : reported name item = []) :
    ∃ placement p, ModelPlan.ofItem name item = (some (placement, p), []) := by
  have hplan : (ModelPlan.ofItem name item).1 ≠ none := by
    rw [ne_eq, ofItem_eq_none_iff]
    exact not_not_intro h
  obtain ⟨⟨placement, p⟩, hplan⟩ := Option.ne_none_iff_exists'.mp hplan
  exact ⟨placement, p, Prod.ext hplan ((ofItem_snd name item).trans h)⟩

end OfItem

end KeyedRecords.Description

namespace KeyedRecords.Generated

open Source Description

/-! ## Compiling -/

section Compile

variable {name : Option Ident} {item : Item}

/-- Everything that is reported is an error, and nothing else is. -/
theorem compile_of_reported (h : reported name item ≠ []) :
    compile name item = .error (reported name item) := by
  have hreports : (!(ModelPlan.ofItem name item).2.isEmpty) = true := by
    rw [ofItem_snd, Bool.not_eq_true', List.isEmpty_eq_false_iff]
    exact h
  unfold compile
  dsimp only
  rw [if_pos hreports, ofItem_snd]

/-- The model is generated from its plan where nothing is reported. -/
theorem compile_of_plan {placement : Placement} {p : ModelPlan}
    (h : ModelPlan.ofItem name item = (some (placement, p), [])) :
    compile name item = .ok (placement.tokens (model p)) := by
  unfold compile
  rw [h]
  rfl

/-- Nothing is reported of what compiles. -/
theorem reported_of_compile {text : Tokens} (h : compile name item = .ok text) :
    reported name item = [] := by
  by_contra hreported
  rw [compile_of_reported hreported] at h
  cases h

/-- A text that fails to compile with one error. -/
def errorInvocation (message : String) : Tokens :=
  words ":: core :: compile_error !" ++ braces (textLiteral message)

/-- An item compiles to its model exactly if nothing is reported. Otherwise it compiles to all
    that is reported, in order, each message followed by its offer of a fix, and to nothing else.
    A model is missing only where that is reported. -/
theorem compile_all_or_nothing (name : Option Ident) (item : Item) :
    ((∃ tokens, compile name item = .ok tokens) ↔ reported name item = []) ∧
    (reported name item = [] → ∃ placement p,
      ModelPlan.ofItem name item = (some (placement, p), []) ∧
      compile name item = .ok (placement.tokens (model p))) ∧
    (reported name item ≠ [] → compile name item = .error (reported name item) ∧
      expansion (compile name item) =
        ((reported name item).flatMap fun d =>
          d.problem.message :: (d.fix.map Fix.help).toList).flatMap errorInvocation) ∧
    ((find name item).1 = none → (find name item).2 ≠ []) ∧
    (∀ model before,
      (ModelPlan.build model before).1 = none ↔ (ModelPlan.build model before).2 ≠ []) := by
  have hok : reported name item = [] → ∃ placement p,
      ModelPlan.ofItem name item = (some (placement, p), []) ∧
      compile name item = .ok (placement.tokens (model p)) := by
    intro h
    obtain ⟨placement, p, hplan⟩ := ofItem_of_reported_nil name item h
    exact ⟨placement, p, hplan, compile_of_plan hplan⟩
  refine ⟨⟨?_, ?_⟩, hok, ?_, find_eq_none, build_eq_none_iff⟩
  · rintro ⟨tokens, htokens⟩
    by_contra h
    rw [compile_of_reported h] at htokens
    cases htokens
  · intro h
    obtain ⟨placement, p, -, hcompile⟩ := hok h
    exact ⟨_, hcompile⟩
  · intro h
    have herror := compile_of_reported h
    refine ⟨herror, ?_⟩
    rw [herror]
    rfl

/-- A public model whose keys are private and whose one field has a reserved name. -/
def hiddenKeysItem : Item :=
  .module ⟨[], .inherited, false, .ofName "shop"⟩ (some [
    .struct ⟨[], .everywhere, .ofName "Shop", ⟨[], none⟩,
      .named [⟨[], .inherited, .ofName "save", [.ident (.ofName "String")]⟩] false⟩,
    keysItem "model_coding_key" "Keys" [("Save", "save")]])

/-- Both problems of a model are reported, and the fix of the second is offered. -/
theorem compile_hiddenKeys :
    compile none hiddenKeysItem = .error [.ofProblem (.reservedName "save" none),
      .withFix (.keysLessVisible "Keys" "Shop" "pub") "" "pub"] ∧
    expansion (compile none hiddenKeysItem) =
      errorInvocation "field `save` collides with the synthesized member `save`" ++
      (errorInvocation "coding key enum `Keys` must be at least as visible as model `Shop` (`pub`)" ++
        errorInvocation "help: add `pub`") := by
  have hreported : reported none hiddenKeysItem = [.ofProblem (.reservedName "save" none),
      .withFix (.keysLessVisible "Keys" "Shop" "pub") "" "pub"] := by
    decide +kernel
  have hreports : reported none hiddenKeysItem ≠ [] := by
    rw [hreported]
    exact List.cons_ne_nil _ _
  obtain ⟨-, -, herror, -⟩ := compile_all_or_nothing none hiddenKeysItem
  obtain ⟨hcompile, hexpansion⟩ := herror hreports
  rw [hreported] at hcompile hexpansion
  refine ⟨hcompile, hexpansion.trans ?_⟩
  have htexts : (([.ofProblem (.reservedName "save" none),
      .withFix (.keysLessVisible "Keys" "Shop" "pub") "" "pub"] : List Diagnostic).flatMap fun d =>
        d.problem.message :: (d.fix.map Fix.help).toList) =
      ["field `save` collides with the synthesized member `save`",
        "coding key enum `Keys` must be at least as visible as model `Shop` (`pub`)",
        "help: add `pub`"] := by
    decide +kernel
  rw [htexts]
  simp only [List.flatMap_cons, List.flatMap_nil, List.append_nil]

end Compile

end KeyedRecords.Generated

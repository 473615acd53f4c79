import KeyedRecords.Proofs.Generated.Markers

/-!
# The module around a model

A module that compiles is emitted as it was written, with the generated text in the place of the
model. It has the same attributes, visibility and name and the same items in the same order, and
each of the items next to the model has lost the markers in front of it and nothing else.

**What is kept as it was written keeps its markers.** A constant without a value, a function
without a body or a set of rewriting rules has no attributes to look at: a marker in front of it is
neither reported nor taken off.

Results:
* `dropMarkers_attributeTokens`: to drop markers among tokens is to drop them among attributes.
* `surroundings_kept`: what the emitted module is, and when no marker is left in front of an item.
* `compile_keptMarker`: a marker that is emitted again.
-/

namespace KeyedRecords.Description

open Source

/-! ## Markers in front of an item -/

/-- A marker that stands in front of its item. -/
def isOuterMarker (a : Attribute) : Bool :=
  !a.inner && ["storage_name", "persisted_ignored", "model_coding_key", "migration"].any a.isNamed

/-- The item with the markers in front of it taken off its attributes. -/
def frontUnmarked (i : Item) : Item := i.withAttrs (i.attrs.filter fun a => !isOuterMarker a)

/-- Whether this is the inside of a marker: the name of one, and no path that goes on. -/
def isMarkerBody : Tokens → Bool
  | .ident _ :: .punct ':' _ :: _ => false
  | .ident i :: _ =>
    ["storage_name", "persisted_ignored", "model_coding_key", "migration"].any i.isWord
  | _ => false

/-- Tokens without the markers in front of them. -/
def dropMarkers : Tokens → Tokens
  | .punct '#' joint :: .group .bracket body :: rest =>
    if isMarkerBody body then dropMarkers rest
    else .punct '#' joint :: .group .bracket body :: dropMarkers rest
  | ts => ts

/-- The item without the markers in front of it, whether it is kept in parts or as it was
    written. -/
def frontCleared : Item → Item
  | .verbatim ts => .verbatim (dropMarkers ts)
  | i => frontUnmarked i

/-! ## Markers among tokens -/

section Tokens

variable {a : Attribute} {attrs : List Attribute}

/-- What may follow the path of an attribute. -/
def IsContent (ts : Tokens) : Prop :=
  ts = [] ∨ (∃ d content, ts = [.group d content]) ∨ ∃ value, ts = .punct '=' false :: value

theorem tokens_of_outer (h : a.inner = false) : ∃ content, IsContent content ∧
    a.tokens = [.punct '#' false, .group .bracket (a.path.tokens ++ content)] := by
  obtain ⟨inner, path, content⟩ := a
  cases h
  cases content with
  | nothing => exact ⟨[], .inl rfl, rfl⟩
  | arguments d ts => exact ⟨[.group d ts], .inr (.inl ⟨d, ts, rfl⟩), rfl⟩
  | value e => exact ⟨.punct '=' false :: e.tokens, .inr (.inr ⟨e.tokens, rfl⟩), rfl⟩

/-- The inside of an attribute is that of a marker if its path is the name of one. -/
theorem isMarkerBody_path (p : Path) {content : Tokens} (h : IsContent content) :
    isMarkerBody (p.tokens ++ content) =
      ["storage_name", "persisted_ignored", "model_coding_key", "migration"].any p.isWord := by
  obtain ⟨rooted, segments⟩ := p
  cases rooted with
  | true => cases segments <;> rfl
  | false =>
    match segments with
    | [] => rcases h with rfl | ⟨d, ts, rfl⟩ | ⟨value, rfl⟩ <;> rfl
    | [i] => rcases h with rfl | ⟨d, ts, rfl⟩ | ⟨value, rfl⟩ <;> rfl
    | i :: j :: rest => cases rest <;> rfl

/-- To drop the markers among the tokens is to drop them among the attributes. -/
theorem dropMarkers_attributeTokens (houter : ∀ a ∈ attrs, a.inner = false) {rest : Tokens}
    (hrest : dropMarkers rest = rest) : dropMarkers (attributeTokens attrs ++ rest) =
      attributeTokens (attrs.filter fun a => !isOuterMarker a) ++ rest := by
  induction attrs with
  | nil => exact hrest
  | cons a attrs ih =>
    have ih := ih fun a' ha' => houter a' (List.mem_cons_of_mem a ha')
    have hinner : a.inner = false := houter a List.mem_cons_self
    obtain ⟨content, hcontent, htokens⟩ := tokens_of_outer hinner
    have hmarker : isMarkerBody (a.path.tokens ++ content) = isOuterMarker a := by
      rw [isMarkerBody_path a.path hcontent]
      unfold isOuterMarker
      rw [hinner]
      rfl
    unfold attributeTokens at ih ⊢
    rw [List.flatMap_cons, htokens]
    simp only [List.cons_append, List.nil_append, dropMarkers, hmarker, ih]
    cases hm : isOuterMarker a with
    | true => simp [hm]
    | false => simp [hm, htokens]

/-- Dropping markers leaves the other tokens in their order. -/
theorem dropMarkers_sublist (ts : Tokens) : (dropMarkers ts).Sublist ts := by
  fun_induction dropMarkers ts with
  | case1 joint body rest hmarker ih => exact (ih.cons _).cons _
  | case2 joint body rest hmarker ih => exact (ih.cons_cons _).cons_cons _
  | case3 ts => exact List.Sublist.refl ts

end Tokens

/-! ## Items next to the model -/

section Items

variable {i : Item} {attrs : List Attribute} {name : Option Ident} {s : StructItem}
  {around : List Item}

/-- The attributes in front of an item do not tell whether markers at the start of its body were
    taken off. -/
theorem outerTokens_unmarked : outerTokens (unmarked attrs) =
    outerTokens (attrs.filter fun a => !isOuterMarker a) := by
  unfold outerTokens unmarked
  rw [List.filter_filter, List.filter_filter]
  refine congrArg attributeTokens (List.filter_congr fun a _ => ?_)
  unfold isOuterMarker
  rw [← isSome_ofAttribute]
  cases a.inner <;> cases Marker.ofAttribute a <;> rfl

/-- Attributes without markers have none in front. -/
theorem filter_outer_of_unmarked (h : marked attrs = []) :
    attrs.filter (fun a => !isOuterMarker a) = attrs := by
  unfold marked at h
  rw [List.filter_eq_nil_iff] at h
  refine List.filter_eq_self.mpr fun a ha => ?_
  unfold isOuterMarker
  rw [Bool.eq_false_of_not_eq_true (h a ha), Bool.and_false]
  rfl

/-- Where every marker is carried by its item, only markers in front of it are taken off: items
    whose body may begin with a marker cannot carry any. -/
theorem tokens_unmarkedItem (h : ∀ k, firstMarker i.attrs = some k → Declaration.CarriedBy k i) :
    (unmarkedItem i).tokens = (frontUnmarked i).tokens := by
  have hplain (hnone : ∀ k, ¬ Declaration.CarriedBy k i) :
      (unmarkedItem i).tokens = (frontUnmarked i).tokens := by
    have hfirst : firstMarker i.attrs = none :=
      Option.eq_none_iff_forall_ne_some.mpr fun k hk => hnone k (h k hk)
    have hmarked : marked i.attrs = [] := firstMarker_eq_none_iff.mp hfirst
    unfold unmarkedItem frontUnmarked
    rw [marked_eq_nil_iff.mp hmarked, filter_outer_of_unmarked hmarked]
  cases i with
  | value v =>
    show ValueItem.tokens _ = ValueItem.tokens _
    unfold ValueItem.tokens
    dsimp only
    rw [outerTokens_unmarked]
  | enum e =>
    show EnumItem.tokens _ = EnumItem.tokens _
    unfold EnumItem.tokens
    dsimp only
    rw [outerTokens_unmarked]
  | struct s => exact hplain fun k => by cases k <;> exact id
  | module head content => exact hplain fun k => by cases k <;> exact id
  | other o => exact hplain fun k => by cases k <;> exact id
  | verbatim ts => rfl

/-- Where no role is refused, every marker next to the model is carried by its item. -/
theorem carried_of_roleProblems (h : roleProblems (writtenDeclarations s around) = [])
    (hi : i ∈ around) {k : Marker} (hk : firstMarker i.attrs = some k) :
    Declaration.CarriedBy k i := by
  by_contra hnot
  obtain ⟨g, hg, -⟩ := (Misplaced.onItem (s := s) hi hk hnot).refused
  rw [h] at hg
  cases hg

end Items

/-! ## Where the model stands -/

section Placed

variable {name : Option Ident} {head : ModuleHead} {items : List Item} {index : ℕ}

/-- A model that was planned in a module is at the index that was looked for. -/
theorem placement_module {placement : Placement} {p : ModelPlan}
    (h : ModelPlan.ofItem name (.module head (some items)) = (some (placement, p), [])) :
    ∃ index, findModel name items = .ok index ∧
      placement = .inModule head (unmarkedItems items index) index := by
  unfold ModelPlan.ofItem find findInModule at h
  dsimp only at h
  cases hindex : findModel name items with
  | error problem => simp only [hindex, Prod.mk.injEq, reduceCtorEq, false_and] at h
  | ok index =>
    refine ⟨index, rfl, ?_⟩
    obtain ⟨item, hitem⟩ : ∃ item, items[index]? = some item :=
      ⟨_, List.getElem?_eq_getElem (findModel_lt_length hindex)⟩
    simp only [hindex, hitem] at h
    cases hm : (describeModel head.name item).1 with
    | none => simp only [hm, Option.map_none, Prod.mk.injEq, reduceCtorEq, false_and] at h
    | some m =>
      simp only [hm, Option.map_some, Prod.mk.injEq, Option.map_eq_some_iff] at h
      obtain ⟨⟨p', -, hplaced, -⟩, -⟩ := h
      exact hplaced.symm

/-- Next to the model of a module stand its other items. -/
theorem around_module {s : StructItem} {around : List Item}
    (hindex : findModel name items = .ok index)
    (h : writtenModel? name (.module head (some items)) = some (s, around)) :
    around = items.eraseIdx index := by
  unfold writtenModel? at h
  simp only [hindex] at h
  split at h
  · cases h
    rfl
  · cases h

/-- What stands in the place of the model does not depend on how the model was described. -/
theorem set_unmarkedItems (text : Tokens) :
    ((unmarkedItems items index).map Item.tokens).set index text =
      (items.map fun i => (unmarkedItem i).tokens).set index text := by
  refine List.ext_getElem? fun n => ?_
  unfold unmarkedItems
  simp only [List.getElem?_set, List.length_map, List.length_mapIdx, List.getElem?_map,
    List.getElem?_mapIdx]
  by_cases h : index = n
  · subst h
    rw [if_pos rfl, if_pos rfl]
  · have hne : n ≠ index := fun heq => h heq.symm
    simp only [h, hne, if_false, Option.map_map]
    rfl

end Placed

end KeyedRecords.Description

namespace KeyedRecords.Generated

open Source Description

/-! ## The emitted module -/

/-- The module with the same head in which every item is changed by `f`, but the one at the index
    has become this text. -/
def moduleAround (head : ModuleHead) (items : List Item) (index : ℕ) (f : Item → Item)
    (text : Tokens) : Item :=
  .module head (some ((items.map f).set index (.verbatim text)))

section Module

variable {name : Option Ident} {head : ModuleHead} {items : List Item} {index : ℕ} {text : Tokens}

theorem allTokens_eq_flatten : ∀ items : List Item,
    Item.allTokens items = (items.map Item.tokens).flatten
  | [] => rfl
  | i :: is => by
    rw [Item.allTokens, List.map_cons, List.flatten_cons, allTokens_eq_flatten is]

theorem tokens_module (head : ModuleHead) (items : List Item) :
    (Item.module head (some items)).tokens =
      Placement.moduleTokens head (items.map Item.tokens) := by
  rw [Item.tokens, allTokens_eq_flatten]
  rfl

theorem tokens_moduleAround (f : Item → Item) : (moduleAround head items index f text).tokens =
    Placement.moduleTokens head ((items.map fun i => (f i).tokens).set index text) := by
  unfold moduleAround
  rw [tokens_module, List.map_set, List.map_map]
  rfl

/-- Markers that are dropped are missing from the text. -/
theorem tokens_frontCleared_sublist (i : Item) :
    (frontCleared i).tokens.Sublist (frontUnmarked i).tokens := by
  cases i with
  | verbatim ts => exact dropMarkers_sublist ts
  | _ => exact List.Sublist.refl _

/-- No marker is left in front of an item exactly if the items that are kept as they were written
    have none. -/
theorem tokens_frontUnmarked_iff : (moduleAround head items index frontUnmarked text).tokens =
      (moduleAround head items index frontCleared text).tokens ↔
    ∀ ts, .verbatim ts ∈ items.eraseIdx index → dropMarkers ts = ts := by
  rw [tokens_moduleAround, tokens_moduleAround]
  constructor
  · intro h ts hts
    have hflatten := moduleTokens_inj.mp h
    have hsublist :=
      forall₂_map_set (List.Sublist.refl text) tokens_frontCleared_sublist items index
    have hitems := map_set_inj (eq_of_flatten_eq hsublist hflatten.symm)
    exact hitems _ hts
  · intro h
    refine congrArg (Placement.moduleTokens head) (map_set_congr fun i hi => ?_)
    cases i with
    | verbatim ts => exact (h ts hi).symm
    | _ => rfl

/-- A module that compiles is emitted with the generated text in the place of the model, and its
    other items without the markers in front of them, as far as these are attributes. -/
theorem exists_moduleAround (h : compile name (.module head (some items)) = .ok text) :
    ∃ index placement p, findModel name items = .ok index ∧
      ModelPlan.ofItem name (.module head (some items)) = (some (placement, p), []) ∧
      text = (moduleAround head items index frontUnmarked (model p)).tokens := by
  obtain ⟨placement, p, hplan⟩ := ofItem_of_reported_nil name _ (reported_of_compile h)
  obtain ⟨s, around, hwritten, -, -, hroles, -, -⟩ := plan_written hplan
  obtain ⟨index, hindex, rfl⟩ := placement_module hplan
  obtain rfl := around_module hindex hwritten
  refine ⟨index, _, p, hindex, hplan, ?_⟩
  have hcompile := (compile_of_plan hplan).symm.trans h
  rw [tokens_moduleAround, ← Except.ok.inj hcompile]
  show Placement.moduleTokens head _ = _
  rw [set_unmarkedItems]
  refine congrArg (Placement.moduleTokens head) (map_set_congr fun i hi => ?_)
  exact tokens_unmarkedItem fun k hk => carried_of_roleProblems hroles hi hk

/-- A module that compiles is emitted as it was written, with the generated text in the place of
    the model: the same head, as many items in the same order, and each of the others the original
    one without the attributes that are markers in front of it. What is kept as it was written has
    no attributes, and markers in front of it are emitted again: no marker is left in front of an
    item exactly if there were none in front of those. -/
theorem surroundings_kept (name : Option Ident) (head : ModuleHead) (items : List Item)
    (text : Tokens) (h : compile name (.module head (some items)) = .ok text) :
    ∃ index placement p, findModel name items = .ok index ∧ index < items.length ∧
      ModelPlan.ofItem name (.module head (some items)) = (some (placement, p), []) ∧
      text = (moduleAround head items index frontUnmarked (model p)).tokens ∧
      (text = (moduleAround head items index frontCleared (model p)).tokens ↔
        ∀ ts, .verbatim ts ∈ items.eraseIdx index → dropMarkers ts = ts) := by
  obtain ⟨index, placement, p, hindex, hplan, rfl⟩ := exists_moduleAround h
  exact ⟨index, placement, p, hindex, findModel_lt_length hindex, hplan, rfl,
    tokens_frontUnmarked_iff⟩

end Module

/-! ## A constant without a value -/

/-- The attribute that marks the storage name. -/
def storageNameAttribute : Attribute := ⟨false, ⟨false, [.ofName "storage_name"]⟩, .nothing⟩

/-- An attribute that is no marker. -/
def allowAttribute : Attribute :=
  ⟨false, ⟨false, [.ofName "allow"]⟩, .arguments .paren [.ident (.ofName "unused")]⟩

/-- A constant with these attributes. -/
def shelfName (attrs : List Attribute) : Item :=
  .value ⟨attrs, .inherited, .constant, .ofName "NAME", [.punct '&' false, .ident (.ofName "str")],
    .literal [] "\"shelf\""⟩

/-- A constant without a value, which is kept as it is written. -/
def bareConstant : Tokens :=
  [.ident (.ofName "const"), .ident (.ofName "S"), .punct ':' false, .punct '&' false,
    .ident (.ofName "str"), .punct ';' false]

/-- A module with this name. -/
def shelfHead : ModuleHead := ⟨[allowAttribute], .everywhere, false, .ofName "shelf"⟩

/-- A model, its storage name and a constant without a value. -/
def shelf : List Item :=
  [.struct (structWith []), shelfName [allowAttribute, storageNameAttribute],
    .verbatim bareConstant]

/-- The module is emitted around the model, and only the marker is missing. -/
theorem surroundings_kept_shelf : ∃ p, compile none (.module shelfHead (some shelf)) =
    .ok (Item.module shelfHead (some
      [.verbatim (model p), shelfName [allowAttribute], .verbatim bareConstant])).tokens := by
  have hreported : reported none (.module shelfHead (some shelf)) = [] := by decide +kernel
  have hmarker : isOuterMarker storageNameAttribute = true := by decide +kernel
  have hother : isOuterMarker allowAttribute = false := by decide +kernel
  obtain ⟨placement, p, hplan⟩ := ofItem_of_reported_nil _ _ hreported
  obtain ⟨index, placement', p', hindex, -, -, htext, -⟩ :=
    surroundings_kept none shelfHead shelf _ (compile_of_plan hplan)
  obtain rfl : 0 = index := Except.ok.inj hindex
  have hname : frontUnmarked (shelfName [allowAttribute, storageNameAttribute]) =
      shelfName [allowAttribute] := by
    simp [frontUnmarked, shelfName, Item.attrs, Item.withAttrs, hmarker, hother]
  refine ⟨p', (compile_of_plan hplan).trans ?_⟩
  rw [htext]
  unfold moduleAround shelf
  rw [List.map_cons, List.map_cons, List.map_singleton, hname]
  rfl

/-- The same model next to a constant without a value that is marked as the storage name. -/
def markedShelf : List Item :=
  [.struct (structWith []), .verbatim (attributeTokens [storageNameAttribute] ++ bareConstant)]

/-- The marker is not reported, and it is emitted again: the constant is not the original one
    without its marker. -/
theorem compile_keptMarker : let marked := attributeTokens [storageNameAttribute] ++ bareConstant
    reported none (.module shelfHead (some markedShelf)) = [] ∧
    frontCleared (.verbatim marked) = .verbatim bareConstant ∧
    ∃ p, compile none (.module shelfHead (some markedShelf)) =
        .ok (Item.module shelfHead (some [.verbatim (model p), .verbatim marked])).tokens ∧
      (Item.module shelfHead (some [.verbatim (model p), .verbatim marked])).tokens ≠
        (Item.module shelfHead (some [.verbatim (model p), .verbatim bareConstant])).tokens := by
  intro marked
  have hreported : reported none (.module shelfHead (some markedShelf)) = [] := by decide +kernel
  have hmarker : isOuterMarker storageNameAttribute = true := by decide +kernel
  have houter : ∀ a ∈ [storageNameAttribute], a.inner = false := List.forall_mem_singleton.mpr rfl
  have hcleared : dropMarkers marked = bareConstant := by
    have hdrop : dropMarkers marked = _ := dropMarkers_attributeTokens houter rfl
    rw [hdrop, List.filter_cons_of_neg (by simp [hmarker])]
    rfl
  obtain ⟨placement, p, hplan⟩ := ofItem_of_reported_nil _ _ hreported
  obtain ⟨index, placement', p', hindex, -, htext⟩ := exists_moduleAround (compile_of_plan hplan)
  obtain rfl : 0 = index := Except.ok.inj hindex
  refine ⟨hreported, congrArg Item.verbatim hcleared, p',
    (compile_of_plan hplan).trans (congrArg Except.ok htext), fun h => ?_⟩
  rw [tokens_module, tokens_module, moduleTokens_inj] at h
  have hnil : attributeTokens [storageNameAttribute] = [] := by simpa [Item.tokens, marked] using h
  exact List.cons_ne_nil _ _ hnil

end KeyedRecords.Generated

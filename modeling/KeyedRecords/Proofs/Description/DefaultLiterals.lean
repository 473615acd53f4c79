import KeyedRecords.Proofs.Description.Classification
import KeyedRecords.Proofs.Description.Cover
import KeyedRecords.Proofs.Text.Words

/-!
# Literals that no attribute gives

Over texts a case without a `key` attribute is stored under its name in snake case, and a case is
found for a field by the label in camel case. So what the field is stored under is its label, taken
to camel case and back. Declaring keys without attributes stores a field where it is stored without
a declaration exactly if its label comes back: `created_at` does, `value_2` is stored under
`value2`.

Results:
* `casesOf_text`: the cases of an enumeration over texts.
* `declared_written`: the declared keys of an accepted model are read from an enumeration that is
  written next to it, and nothing is wrong with its cases.
* `unannotated_literals`: what the cases of an accepted model are stored under without attributes.
* `unannotated_value_2`: a field that is stored elsewhere once keys are declared.
-/

namespace KeyedRecords.Description

open Source Text

/-! ## Cases over texts -/

/-- The case over texts that a variant without data is. -/
def textCase (v : Variant) : EnumCase := ⟨v.name, (textLiteral v).1⟩

section Cases

variable {next : Int64} {vs : List Variant}

theorem casesOf_text (next : Int64) (vs : List Variant) :
    (casesOf .text next vs).1 = (vs.filter fun v => v.payload.isNone).map textCase := by
  induction vs generalizing next with
  | nil => rfl
  | cons v vs ih =>
    rw [casesOf]
    dsimp only
    rw [ih]
    unfold caseLiteral
    cases hpayload : v.payload with
    | none => simp [hpayload, textCase]
    | some ts => simp [hpayload]

/-- A case with data is reported. -/
theorem isNone_payload_of_casesOf (h : (casesOf .text next vs).2 = []) :
    ∀ v ∈ vs, v.payload.isNone := by
  induction vs generalizing next with
  | nil => nofun
  | cons v vs ih =>
    rw [casesOf] at h
    dsimp only at h
    rw [List.append_eq_nil_iff] at h
    refine List.forall_mem_cons.mpr ⟨?_, ih h.2⟩
    cases hpayload : v.payload with
    | none => rfl
    | some ts => simp [caseLiteral, hpayload] at h

theorem casesOf_text_of_nil (h : (casesOf .text next vs).2 = []) :
    (casesOf .text next vs).1 = vs.map textCase := by
  rw [casesOf_text, List.filter_eq_self.mpr (isNone_payload_of_casesOf h)]

/-- The literal of a case without an attribute. -/
theorem textLiteral_of_unannotated {v : Variant} (h : keyAttribute? v = none) :
    (textLiteral v).1 = .text (snakeCase v.name.name) := by
  unfold textLiteral
  rw [h]
  rfl

end Cases

/-- An enumeration over texts whose cases are all accepted. -/
theorem KeyEnum.ofParts_text {name : Ident} {attrs : List Attribute} {vs : List Variant}
    (hraw : (ofParts name attrs vs).1.raw = .text) (h : (ofParts name attrs vs).2 = []) :
    (ofParts name attrs vs).1.cases = vs.map textCase := by
  unfold ofParts at hraw h ⊢
  dsimp only at hraw h ⊢
  rw [hraw] at h ⊢
  rw [List.append_eq_nil_iff, List.map_eq_nil_iff] at h
  exact casesOf_text_of_nil h.2

/-! ## Declared keys of an accepted model -/

/-- The declared keys of a plan by the role of their declaration. -/
def ModelPlan.declaredKeys? (p : ModelPlan) : Role → Option KeySet
  | .modelKeys => if p.keys.source = .declared then some p.keys else none
  | .migrationKeys => p.oldKeys
  | _ => none

section Declared

variable {name : Option Ident} {item : Item} {found : Found} {problems : List Diagnostic}
  {placement : Placement} {p : ModelPlan} {r : Role} {keys : KeySet} {d : Declaration}

/-- What is wrong with an item next to the model is reported. -/
theorem problems_written {i : Item} (hfind : find name item = (some found, problems))
    (hi : Written.item i ∈ writtenParts name item) : (Declaration.ofItem i).2 ⊆ problems := by
  unfold writtenParts at hi
  split at hi
  · next head items =>
    split at hi
    · next index hindex =>
      have haround : i ∈ items.eraseIdx index := by
        rcases List.mem_append.mp hi with hi | hi
        · obtain ⟨f, -, hf⟩ := List.mem_map.mp hi
          cases hf
        · obtain ⟨i', hi', he⟩ := List.mem_map.mp hi
          cases he
          exact List.mem_of_mem_filter hi'
      have hnear : (Declaration.ofItem i).2 ⊆ (neighbours items index).flatMap Prod.snd :=
        fun g hg => List.mem_flatMap.mpr ⟨_, List.mem_map_of_mem haround, hg⟩
      unfold find findInModule at hfind
      dsimp only at hfind
      rw [hindex] at hfind
      dsimp only at hfind
      cases hmodel : items[index]? with
      | none => rw [hmodel] at hfind; cases hfind
      | some model =>
        rw [hmodel] at hfind
        obtain rfl := congrArg Prod.snd hfind
        exact fun g hg => List.mem_append_left _ (hnear hg)
    · cases hi
  · obtain ⟨f, -, hf⟩ := List.mem_map.mp hi
    cases hf

/-- Where nothing is wrong with a marked enumeration, its cases are read without a fault. -/
theorem Declaration.ofParts_of_keyEnum {e : EnumItem} {k : KeyEnum}
    (hk : (ofMarkedItem (.enum e)).1.keyEnum = some k) (hmarked : marked (Item.enum e).attrs ≠ [])
    (h : (ofItem (.enum e)).2 = []) :
    KeyEnum.ofParts e.name (unmarked e.attrs) e.variants = (k, []) := by
  have hitem : (ofEnum e).2 = [] := by
    unfold ofItem at h
    rw [if_neg (mt Markers.isEmpty_ofAttributes.mp hmarked)] at h
    exact (List.append_eq_nil_iff.mp h).2
  have hk' : (ofEnum e).1.keyEnum = some k := hk
  unfold ofEnum at hk' hitem
  dsimp only at hk' hitem
  split_ifs at hk' hitem
  exact Prod.ext (Option.some.inj hk') hitem

/-- An accepted model was found without a problem. -/
theorem found_of_accepted (h : ModelPlan.ofItem name item = (some (placement, p), [])) :
    ∃ found, find name item = (some found, []) ∧ (ModelPlan.build found.model []).1 = some p := by
  unfold ModelPlan.ofItem at h
  split at h
  · cases h
  · next found problems hfound =>
    simp only [Prod.mk.injEq, Option.map_eq_some_iff] at h
    obtain ⟨⟨p', hplan, -, rfl⟩, hnil⟩ := h
    have hproblems : problems = [] := by
      unfold ModelPlan.build at hnil
      split at hnil
      · exact absurd hnil (by simp)
      · exact (List.append_eq_nil_iff.mp hnil).1
    rw [hproblems] at hfound hplan
    exact ⟨found, hfound, hplan⟩

theorem of_keysOf {model : ModelDescription} {declared : Option Declaration} {fields : List Ident}
    (h : (keysOf model declared fields).2 = [])
    (hsource : (keysOf model declared fields).1.source = .declared) :
    ∃ d k, declared = some d ∧ d.keyEnum = some k ∧ KeySet.coverProblems k fields = [] ∧
      (keysOf model declared fields).1 = KeySet.declared k fields := by
  obtain ⟨d, k, rfl, hk⟩ := source_keysOf.mp hsource
  unfold keysOf at h ⊢
  simp only [Option.bind_some, hk, Option.map_some] at h ⊢
  exact ⟨d, k, rfl, hk, (List.append_eq_nil_iff.mp h).2, rfl⟩

theorem of_oldKeysOf_some {declared : Option Declaration} {fields : List Ident} {old : KeySet}
    (h : (oldKeysOf keys declared fields).2 = [])
    (hold : (oldKeysOf keys declared fields).1 = some old) :
    ∃ d k, declared = some d ∧ d.keyEnum = some k ∧ KeySet.coverProblems k fields = [] ∧
      old = KeySet.declared k fields := by
  obtain ⟨d, k, rfl, hk⟩ := (exists_oldKeysOf h).mp ⟨old, hold⟩
  unfold oldKeysOf at h hold
  rw [Option.bind_some, hk] at h hold
  dsimp only [KeySet.bind] at h hold
  split_ifs at h hold
  exact ⟨d, k, rfl, hk, h, (Option.some.inj hold).symm⟩

/-- The declared keys of a draft without problems are those of a declaration with the role. -/
theorem exists_declaration {model : ModelDescription} (h : (ModelPlan.draft model).2 = [])
    (hkeys : (ModelPlan.draft model).1.declaredKeys? r = some keys) :
    let fields := (withRole model.declarations .persisted).map Declaration.name
    ∃ d ∈ withRole model.declarations r, ∃ k, d.keyEnum = some k ∧
      KeySet.coverProblems k fields = [] ∧ keys = KeySet.declared k fields ∧
      (r = .modelKeys ∨ r = .migrationKeys) := by
  obtain ⟨hproblems, hold⟩ := keyProblems_of_draft h
  cases r with
  | modelKeys =>
    unfold ModelPlan.declaredKeys? at hkeys
    dsimp only at hkeys
    split_ifs at hkeys with hsource
    obtain ⟨d, k, hd, hk, hcover, hdeclared⟩ := of_keysOf hproblems hsource
    obtain rfl := Option.some.inj hkeys
    exact ⟨d, List.mem_of_mem_head? hd, k, hk, hcover, hdeclared, .inl rfl⟩
  | migrationKeys =>
    obtain ⟨d, k, hd, hk, hcover, hdeclared⟩ := of_oldKeysOf_some hold hkeys
    exact ⟨d, List.mem_of_mem_head? hd, k, hk, hcover, hdeclared, .inr rfl⟩
  | _ => cases hkeys

/-- What earns a role of keys is an enumeration. -/
theorem Written.exists_enum_of_earns {w : Written} (h : w.Earns r)
    (hr : r = .modelKeys ∨ r = .migrationKeys) : ∃ e, w = .item (.enum e) := by
  rcases hr with rfl | rfl
  · obtain ⟨⟨e, rfl, -⟩, -⟩ := h
    exact ⟨e, rfl⟩
  · obtain ⟨⟨e, rfl, -⟩, -⟩ := h
    exact ⟨e, rfl⟩

/-- The declared keys of an accepted model are read from an enumeration that is written next to it,
    and nothing is wrong with its cases. -/
theorem declared_written (h : ModelPlan.ofItem name item = (some (placement, p), []))
    (hkeys : p.declaredKeys? r = some keys) : ∃ e : EnumItem, ∃ k : KeyEnum,
      Written.item (.enum e) ∈ writtenParts name item ∧ (Written.item (.enum e)).Earns r ∧
      KeyEnum.ofParts e.name (unmarked e.attrs) e.variants = (k, []) ∧
      KeySet.coverProblems k (p.persisted.map PersistedField.name) = [] ∧
      keys = KeySet.declared k (p.persisted.map PersistedField.name) := by
  obtain ⟨found, hfind, hplan⟩ := found_of_accepted h
  have hfound : (find name item).1 = some found := congrArg Prod.fst hfind
  obtain ⟨hdraft, hproblems⟩ := build_eq_some hplan
  rw [hdraft] at hkeys
  obtain ⟨d, hd, k, hk, hcover, hdeclared, hr⟩ := exists_declaration hproblems hkeys
  have hfollows : p.Follows found.model.declarations :=
    follows_of_build hplan (typed_of_find hfound) (KeySet.nodup_of_coverProblems hcover)
  rw [← hfollows.map_name] at hcover hdeclared
  obtain ⟨hmem, hrole⟩ := mem_withRole.mp hd
  rw [declarations_written hfound] at hmem
  obtain ⟨w, hw, rfl⟩ := List.mem_map.mp hmem
  have hearns : w.Earns r := (Written.role?_declaration_iff (Written.isDeclared_of_mem hw)).mp hrole
  obtain ⟨e, rfl⟩ := Written.exists_enum_of_earns hearns hr
  have hnil : (Declaration.ofItem (.enum e)).2 = [] :=
    List.eq_nil_of_subset_nil (problems_written hfind hw)
  exact ⟨e, k, hw, hearns, Declaration.ofParts_of_keyEnum hk (marked_of_mem hw) hnil, hcover,
    hdeclared⟩

end Declared

/-! ## Where fields are stored -/

namespace KeySet

/-- What each field is stored under. -/
def stored (k : KeySet) : List (Ident × KeyLiteral) := k.bindings.map fun b => (b.field, b.literal)

variable {k : KeyEnum} {vs : List Variant} {fields : List Ident}

/-- A field is bound to the first variant that is named after it. -/
theorem find?_variant_of_mem_declared (hcases : k.cases = vs.map textCase) {b : KeyBinding}
    (hb : b ∈ (declared k fields).bindings) :
    ∃ v, vs.find? (fun v => v.name.name = upperCamelCase (fieldLabel b.field)) = some v ∧
      b.case = v.name ∧ b.literal = (textLiteral v).1 := by
  have hfind := find?_of_mem_declared hb
  rw [hcases, List.find?_map] at hfind
  obtain ⟨v, hv, hcase⟩ := Option.map_eq_some_iff.mp hfind
  simp only [Function.comp_def, textCase] at hv
  exact ⟨v, hv, congrArg EnumCase.name hcase.symm, congrArg EnumCase.literal hcase.symm⟩

/-- Without an attribute a field is stored under its label, taken to camel case and back. -/
theorem literal_of_unannotated {v : Variant} {label : String}
    (hname : v.name.name = upperCamelCase label) (h : keyAttribute? v = none) :
    (textLiteral v).1 = .text (snakeCase (upperCamelCase label)) := by
  rw [textLiteral_of_unannotated h, hname]

/-- Keys without attributes store every field where it is stored without a declaration exactly if
    all labels come back. -/
theorem stored_eq_iff (model : Ident) (hcover : coverProblems k fields = [])
    (hcases : k.cases = vs.map textCase) (h : ∀ v ∈ vs, keyAttribute? v = none) :
    (declared k fields).stored = (implicit model fields).stored ↔
      ∀ f ∈ fields, snakeCase (upperCamelCase (fieldLabel f)) = fieldLabel f := by
  have hdeclared : (declared k fields).stored =
      fields.map fun f => (f, .text (snakeCase (upperCamelCase (fieldLabel f)))) := by
    have hfields := (binds_declared hcover).fields
    unfold stored
    conv_rhs => rw [← hfields, List.map_map]
    refine List.map_congr_left fun b hb => ?_
    obtain ⟨v, hv, -, hliteral⟩ := find?_variant_of_mem_declared hcases hb
    have hname := List.find?_some hv
    rw [decide_eq_true_iff] at hname
    rw [hliteral, literal_of_unannotated hname (h v (List.mem_of_find?_eq_some hv))]
    rfl
  have himplicit : (implicit model fields).stored = fields.map fun f => (f, .text (fieldLabel f)) :=
    List.map_map
  rw [hdeclared, himplicit, List.map_inj_left]
  simp only [Prod.mk.injEq, KeyLiteral.text.injEq, true_and]

end KeySet

/-- Let the declared keys of an accepted model be texts. They are read from an enumeration with the
    role, all persisted fields have keys in their order, and each name of a case is bound to a
    field. A field is bound to the first case that is named after it. Without an attribute that case
    is stored under its name in snake case, and this is the literal without a declaration exactly if
    the label comes back from camel case: among labels of simple letters, if it is in snake case. If
    no case has an attribute, all fields are stored where they are without a declaration exactly if
    all labels come back. -/
theorem unannotated_literals {name : Option Ident} {item : Item} {placement : Placement}
    {p : ModelPlan} {r : Role} {keys : KeySet}
    (h : ModelPlan.ofItem name item = (some (placement, p), []))
    (hkeys : p.declaredKeys? r = some keys) (htext : keys.raw = .text) :
    ∃ e : EnumItem, Written.item (.enum e) ∈ writtenParts name item ∧
      (Written.item (.enum e)).Earns r ∧
      keys.bindings.map KeyBinding.field = p.persisted.map PersistedField.name ∧
      (∀ v ∈ e.variants, ∃ b ∈ keys.bindings, b.case.name = v.name.name) ∧
      (∀ b ∈ keys.bindings, ∃ v,
        e.variants.find? (fun v => v.name.name = upperCamelCase (fieldLabel b.field)) = some v ∧
        b.case = v.name ∧
        (keyAttribute? v = none → b.literal = .text (snakeCase v.name.name) ∧
          (b.literal = (KeySet.implicitBinding b.field).literal ↔
            snakeCase (upperCamelCase (fieldLabel b.field)) = fieldLabel b.field) ∧
          (SimpleName (fieldLabel b.field) →
            (b.literal = (KeySet.implicitBinding b.field).literal ↔
              InSnakeCase (fieldLabel b.field))))) ∧
      ((∀ v ∈ e.variants, keyAttribute? v = none) →
        (keys.stored = (KeySet.implicit p.name (p.persisted.map PersistedField.name)).stored ↔
          ∀ f ∈ p.persisted, snakeCase (upperCamelCase (fieldLabel f.name)) = fieldLabel f.name)) := by
  obtain ⟨e, k, hw, hearns, hparts, hcover, rfl⟩ := declared_written h hkeys
  have hk : (KeyEnum.ofParts e.name (unmarked e.attrs) e.variants).1 = k := congrArg Prod.fst hparts
  have hcases : k.cases = e.variants.map textCase := by
    rw [← hk]
    exact KeyEnum.ofParts_text (hk ▸ htext) (congrArg Prod.snd hparts)
  obtain ⟨-, hbinds⟩ := KeySet.coverProblems_eq_nil_iff.mp hcover
  have hdeclared := KeySet.binds_declared hcover
  refine ⟨e, hw, hearns, hdeclared.fields, fun v hv => ?_, fun b hb => ?_, fun hplain => ?_⟩
  · have hmem : textCase v ∈ k.cases := hcases ▸ List.mem_map_of_mem hv
    exact hdeclared.exists_case
      ((KeySet.coverProblems_eq_nil_iff_covers.mp hcover).cases _ hmem)
  · obtain ⟨v, hv, hcase, hliteral⟩ := KeySet.find?_variant_of_mem_declared hcases hb
    have hname := List.find?_some hv
    rw [decide_eq_true_iff] at hname
    refine ⟨v, hv, hcase, fun hplain => ?_⟩
    have hback : b.literal = (KeySet.implicitBinding b.field).literal ↔
        snakeCase (upperCamelCase (fieldLabel b.field)) = fieldLabel b.field := by
      rw [hliteral, KeySet.literal_of_unannotated hname hplain]
      exact KeyLiteral.text.injEq _ _ ▸ Iff.rfl
    refine ⟨hliteral.trans (textLiteral_of_unannotated hplain), hback, fun hsimple => ?_⟩
    rw [hback, snakeCase_upperCamelCase_iff hsimple]
  · rw [KeySet.stored_eq_iff p.name hcover hcases hplain, List.forall_mem_map]

/-! ## A field with a number -/

/-- Keys with one case that has no attribute. -/
def plainKeysEnum (case : String) : EnumItem :=
  let marking (name : String) (content : AttributeContent) : Attribute :=
    ⟨false, ⟨false, [.ofName name]⟩, content⟩
  ⟨[marking "model_coding_key" .nothing,
      marking "derive" (.arguments .paren [.ident (.ofName "CodingKey")])],
    .inherited, .ofName "Keys", ⟨[], none⟩, [⟨[], .ofName case, none, none⟩], false⟩

/-- A model with one field and such keys. -/
def plainKeysItem (field case : String) : Item :=
  .module ⟨[], .inherited, false, .ofName "plain"⟩ (some [
    .struct ⟨[], .inherited, .ofName "Plain", ⟨[], none⟩,
      .named [⟨[], .inherited, .ofName field, [.ident (.ofName "i64")]⟩] false⟩,
    .enum (plainKeysEnum case)])

/-- The keys of such a model. -/
def plainKeys (field case literal : String) : KeySet :=
  ⟨.ofName "Keys", .declared, .text, [⟨.ofName case, .text literal⟩],
    [⟨.ofName field, .ofName case, .text literal⟩]⟩

/-- What is planned of the keys of an item, and what is reported. -/
def plannedKeys (item : Item) : Option (KeySet × Option KeySet) × List Diagnostic :=
  let planned := ModelPlan.ofItem none item
  (planned.1.map fun found => (found.2.keys, found.2.oldKeys), planned.2)

theorem exists_of_plannedKeys {item : Item} {keys : KeySet} {old : Option KeySet}
    (h : plannedKeys item = (some (keys, old), [])) : ∃ placement p,
      ModelPlan.ofItem none item = (some (placement, p), []) ∧ p.keys = keys := by
  obtain ⟨hkeys, hproblems⟩ := Prod.mk.inj h
  obtain ⟨⟨placement, p⟩, hplan, hp⟩ := Option.map_eq_some_iff.mp hkeys
  exact ⟨placement, p, Prod.ext hplan hproblems, (Prod.mk.inj hp).1⟩

/-- A field in snake case is stored under its label. -/
theorem unannotated_created_at : ∃ placement p,
    ModelPlan.ofItem none (plainKeysItem "created_at" "CreatedAt") = (some (placement, p), []) ∧
    p.declaredKeys? .modelKeys = some p.keys ∧ p.keys.raw = .text ∧
    ∃ b ∈ p.keys.bindings, b.field = .ofName "created_at" ∧ b.literal = .text "created_at" := by
  have hplanned : plannedKeys (plainKeysItem "created_at" "CreatedAt") =
      (some (plainKeys "created_at" "CreatedAt" "created_at", none), []) := by
    decide +kernel
  obtain ⟨placement, p, h, hp⟩ := exists_of_plannedKeys hplanned
  have hkeys : p.declaredKeys? .modelKeys = some p.keys := by
    unfold ModelPlan.declaredKeys?
    rw [hp]
    rfl
  have htext : p.keys.raw = .text := by rw [hp]; rfl
  obtain ⟨e, hw, -, -, -, hbindings, -⟩ := unannotated_literals h hkeys htext
  have he : e = plainKeysEnum "CreatedAt" := by
    have hparts : writtenParts none (plainKeysItem "created_at" "CreatedAt") =
        [.field ⟨[], .inherited, .ofName "created_at", [.ident (.ofName "i64")]⟩,
          .item (.enum (plainKeysEnum "CreatedAt"))] := rfl
    rw [hparts] at hw
    simpa using hw
  have hb : ⟨.ofName "created_at", .ofName "CreatedAt", .text "created_at"⟩ ∈ p.keys.bindings := by
    rw [hp]
    exact List.mem_singleton_self _
  obtain ⟨v, hv, -, hliteral⟩ := hbindings _ hb
  have hplain : keyAttribute? v = none := by
    have hmem := List.mem_of_find?_eq_some hv
    rw [he] at hmem
    rw [List.mem_singleton.mp hmem]
    rfl
  have hsimple : SimpleName "created_at" := simpleName_of_ascii (by decide)
  have hsnake : InSnakeCase "created_at" :=
    ⟨["created".toList, "at".toList], by decide +kernel, by decide +kernel⟩
  have hlabel := ((hliteral hplain).2.2 hsimple).mpr hsnake
  exact ⟨placement, p, h, hkeys, htext, _, hb, rfl, hlabel⟩

/-- A field with a number is stored under its label without its underscore, once keys are declared.
    Nothing is reported. -/
theorem unannotated_value_2 : ∃ placement p,
    ModelPlan.ofItem none (plainKeysItem "value_2" "Value2") = (some (placement, p), []) ∧
    p.declaredKeys? .modelKeys = some p.keys ∧ p.keys.raw = .text ∧
    (∀ v ∈ (plainKeysEnum "Value2").variants, keyAttribute? v = none) ∧
    p.keys.stored = [(.ofName "value_2", .text "value2")] ∧
    (KeySet.implicit p.name [.ofName "value_2"]).stored = [(.ofName "value_2", .text "value_2")] := by
  have hplanned : plannedKeys (plainKeysItem "value_2" "Value2") =
      (some (plainKeys "value_2" "Value2" "value2", none), []) := by
    decide +kernel
  obtain ⟨placement, p, h, hp⟩ := exists_of_plannedKeys hplanned
  refine ⟨placement, p, h, ?_, by rw [hp]; rfl, by decide, by rw [hp]; rfl, rfl⟩
  unfold ModelPlan.declaredKeys?
  rw [hp]
  rfl

end KeyedRecords.Description

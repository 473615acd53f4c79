import KeyedRecords.Description.KeySet
import KeyedRecords.Proofs.Lists

/-!
# Key sets bind every field

Results:
* `binds_implicit`: without a declared enumeration every field has a key of its own.
* `binds_declared`: so it has under a declared enumeration that is not refused.
* `Binds.binding?`: the key that is found for a field is the one bound to it.
-/

namespace KeyedRecords.Description

open Source

/-! ## Repeated literals -/

namespace KeyEnum

/-- No case is reported exactly if no literal is repeated: the second case with a literal is the
    one that is reported. -/
theorem duplicatesFrom_eq_nil_iff {cs : List EnumCase} : ∀ {seen : List KeyLiteral}, seen.Nodup →
    (duplicatesFrom seen cs = [] ↔
      (cs.map EnumCase.literal).Nodup ∧ ∀ c ∈ cs, c.literal ∉ seen) := by
  induction cs with
  | nil => intro seen _; simp [duplicatesFrom]
  | cons c cs ih =>
    intro seen hseen
    rw [duplicatesFrom, List.append_eq_nil_iff, List.map_cons, List.nodup_cons,
      List.forall_mem_cons]
    by_cases hmem : c.literal ∈ seen
    · have hcount : seen.count c.literal = 1 := List.count_eq_one_of_mem hseen hmem
      simp [hcount, hmem]
    · have hcount : seen.count c.literal = 0 := List.count_eq_zero_of_not_mem hmem
      rw [ih (List.nodup_cons.mpr ⟨hmem, hseen⟩)]
      simp only [hcount, List.mem_cons, not_or, List.mem_map, not_exists, not_and, forall_and]
      tauto

theorem duplicateProblems_eq_nil_iff {k : KeyEnum} :
    k.duplicateProblems = [] ↔ (k.cases.map EnumCase.literal).Nodup := by
  unfold duplicateProblems duplicates
  rw [List.map_eq_nil_iff, duplicatesFrom_eq_nil_iff List.nodup_nil]
  simp only [List.not_mem_nil, not_false_eq_true, implies_true, and_true]

end KeyEnum

namespace KeySet

/-! ## Keys for every field -/

/-- Every field has exactly one key, in order, which is a case of the enumeration. No two
    fields have the same case or the same literal. -/
structure Binds (k : KeySet) (fields : List Ident) : Prop where
  fields : k.bindings.map KeyBinding.field = fields
  cases : (k.bindings.map fun b => b.case.name).Nodup
  literals : (k.bindings.map KeyBinding.literal).Nodup
  mem_cases : ∀ b ∈ k.bindings, b.toCase ∈ k.cases

/-- The key that is found for a field is the one bound to it. -/
theorem Binds.binding? {k : KeySet} {fields : List Ident} (h : k.Binds fields)
    (hn : fields.Nodup) {b : KeyBinding} (hb : b ∈ k.bindings) : k.binding? b.field = some b :=
  find?_of_nodup (h.fields.symm ▸ hn) hb

theorem Binds.exists_binding {k : KeySet} {fields : List Ident} (h : k.Binds fields)
    (hn : fields.Nodup) {field : Ident} (hf : field ∈ fields) :
    ∃ b ∈ k.bindings, b.field = field ∧ k.binding? field = some b := by
  rw [← h.fields] at hf
  obtain ⟨b, hb, rfl⟩ := List.mem_map.mp hf
  exact ⟨b, hb, rfl, h.binding? hn hb⟩

/-- The keys that are found for the fields are the keys of the set, in order. -/
theorem Binds.map_binding? {k : KeySet} {fields : List Ident} (h : k.Binds fields)
    (hn : fields.Nodup) : fields.map k.binding? = k.bindings.map some := by
  rw [← h.fields, List.map_map]
  exact List.map_congr_left fun b hb => h.binding? hn hb

theorem nodup_of_labels {fields : List Ident} (h : (fields.map fieldLabel).Nodup) :
    fields.Nodup := h.of_map

/-- Distinct labels tell distinct keys apart. -/
theorem nodup_map_of_labels {α : Type} {k : KeySet} {fields : List Ident}
    (hfields : k.bindings.map KeyBinding.field = fields) (hn : (fields.map fieldLabel).Nodup)
    {f : KeyBinding → α} (h : ∀ b ∈ k.bindings, ∀ b' ∈ k.bindings,
      fieldLabel b.field ≠ fieldLabel b'.field → f b ≠ f b') : (k.bindings.map f).Nodup := by
  rw [← hfields, List.map_map] at hn
  refine List.pairwise_map.mpr ((List.pairwise_map.mp hn).imp_of_mem ?_)
  intro b b' hb hb' hne
  exact h b hb b' hb' hne

/-! ## Without a declared enumeration -/

theorem binds_implicit (model : Ident) {fields : List Ident} (hn : (fields.map fieldLabel).Nodup) :
    (implicit model fields).Binds fields := by
  have hfields : (implicit model fields).bindings.map KeyBinding.field = fields := by
    simp only [implicit, List.map_map]
    exact List.map_id fields
  have hmem : ∀ b ∈ (implicit model fields).bindings, b = implicitBinding b.field := by
    intro b hb
    obtain ⟨field, -, rfl⟩ := List.mem_map.mp hb
    rfl
  refine ⟨hfields, nodup_map_of_labels hfields hn ?_, nodup_map_of_labels hfields hn ?_, ?_⟩
  · intro b hb b' hb' hne he
    rw [hmem b hb, hmem b' hb'] at he
    exact hne ((String.append_right_inj "_").mp he)
  · intro b hb b' hb' hne he
    rw [hmem b hb, hmem b' hb'] at he
    exact hne (KeyLiteral.text.inj he)
  · exact fun b hb => List.mem_map_of_mem hb

/-! ## Under a declared enumeration -/

section Declared

variable {k : KeyEnum} {fields : List Ident}

theorem caseProblem_eq_none_iff {keys : Ident} {labels : List String} {c : EnumCase} :
    caseProblem keys labels c = none ↔ ∃ l, claimed c labels = [l] := by
  unfold caseProblem
  match claimed c labels with
  | [] => simp
  | [l] => simp
  | l :: l' :: ls => simp

theorem missingProblems_eq_nil_iff {labels : List String} :
    missingProblems k labels = [] ↔ ∀ l ∈ labels, ∃ c, k.caseFor? l = some c := by
  have hmissing : missing k labels = [] ↔ ∀ l ∈ labels, ∃ c, k.caseFor? l = some c := by
    unfold missing
    rw [List.filter_eq_nil_iff]
    refine forall₂_congr fun l _ => ?_
    cases k.caseFor? l <;> simp
  rw [← hmissing]
  unfold missingProblems
  cases missing k labels <;> simp

theorem coverProblems_eq_nil_iff : coverProblems k fields = [] ↔ k.duplicateProblems = [] ∧
    (∀ c ∈ k.cases, ∃ l, claimed c (fields.map fieldLabel) = [l]) ∧
    ∀ field ∈ fields, ∃ c, k.caseFor? (fieldLabel field) = some c := by
  unfold coverProblems
  rw [List.append_eq_nil_iff, List.append_eq_nil_iff, List.map_eq_nil_iff,
    List.filterMap_eq_nil_iff, missingProblems_eq_nil_iff, List.forall_mem_map, and_assoc]
  simp only [caseProblem_eq_none_iff]

/-- A key under a declared enumeration is a case that stands for the field. -/
theorem of_declaredBinding? {field : Ident} {b : KeyBinding}
    (h : declaredBinding? k field = some b) :
    b.field = field ∧ b.toCase ∈ k.cases ∧ b.toCase.isFor (fieldLabel field) := by
  obtain ⟨c, hc, rfl⟩ := Option.map_eq_some_iff.mp h
  unfold KeyEnum.caseFor? at hc
  have hfor := List.find?_some hc
  exact ⟨rfl, List.mem_of_find?_eq_some hc, hfor⟩

/-- A case stands for one label only, so no label is repeated. -/
theorem nodup_of_coverProblems (h : coverProblems k fields = []) :
    (fields.map fieldLabel).Nodup := by
  obtain ⟨-, hclaimed, hfound⟩ := coverProblems_eq_nil_iff.mp h
  rw [List.nodup_iff_count_le_one]
  intro label
  by_cases hmem : label ∈ fields.map fieldLabel
  · obtain ⟨field, hfield, rfl⟩ := List.mem_map.mp hmem
    obtain ⟨c, hc⟩ := hfound field hfield
    unfold KeyEnum.caseFor? at hc
    have hfor := List.find?_some hc
    obtain ⟨l, hl⟩ := hclaimed c (List.mem_of_find?_eq_some hc)
    calc (fields.map fieldLabel).count (fieldLabel field)
        = (claimed c (fields.map fieldLabel)).count (fieldLabel field) :=
          (List.count_filter hfor).symm
      _ ≤ (claimed c (fields.map fieldLabel)).length := List.count_le_length
      _ = 1 := by rw [hl, List.length_singleton]
  · rw [List.count_eq_zero_of_not_mem hmem]
    exact Nat.zero_le 1

theorem of_mem_declared {b : KeyBinding} (hb : b ∈ (declared k fields).bindings) :
    b.field ∈ fields ∧ b.toCase ∈ k.cases ∧ b.toCase.isFor (fieldLabel b.field) := by
  obtain ⟨field, hfield, hbinding⟩ := List.mem_filterMap.mp hb
  obtain ⟨rfl, hcase, hfor⟩ := of_declaredBinding? hbinding
  exact ⟨hfield, hcase, hfor⟩

/-- A case that stood for two labels would be refused. -/
theorem label_eq_of_case_eq (h : coverProblems k fields = []) {b b' : KeyBinding}
    (hb : b ∈ (declared k fields).bindings) (hb' : b' ∈ (declared k fields).bindings)
    (he : b.case.name = b'.case.name) : fieldLabel b.field = fieldLabel b'.field := by
  obtain ⟨-, hclaimed, -⟩ := coverProblems_eq_nil_iff.mp h
  obtain ⟨hf, hc, hfor⟩ := of_mem_declared hb
  obtain ⟨hf', -, hfor'⟩ := of_mem_declared hb'
  obtain ⟨l, hl⟩ := hclaimed b.toCase hc
  have hboth : b.toCase.isFor (fieldLabel b'.field) := by
    unfold EnumCase.isFor at hfor' ⊢
    rw [show b.toCase.name.name = b'.toCase.name.name from he]
    exact hfor'
  have h1 : fieldLabel b.field ∈ claimed b.toCase (fields.map fieldLabel) :=
    List.mem_filter.mpr ⟨List.mem_map_of_mem hf, hfor⟩
  have h2 : fieldLabel b'.field ∈ claimed b.toCase (fields.map fieldLabel) :=
    List.mem_filter.mpr ⟨List.mem_map_of_mem hf', hboth⟩
  rw [hl, List.mem_singleton] at h1 h2
  exact h1.trans h2.symm

theorem map_field_declared (h : coverProblems k fields = []) :
    (declared k fields).bindings.map KeyBinding.field = fields := by
  obtain ⟨-, -, hfound⟩ := coverProblems_eq_nil_iff.mp h
  refine (map_filterMap (h := id) fun field hf => ?_).trans (List.map_id fields)
  obtain ⟨c, hc⟩ := hfound field hf
  exact ⟨_, by rw [declaredBinding?, hc]; rfl, rfl⟩

theorem binds_declared (h : coverProblems k fields = []) : (declared k fields).Binds fields := by
  have hn := nodup_of_coverProblems h
  have hfields := map_field_declared h
  have hliterals := KeyEnum.duplicateProblems_eq_nil_iff.mp (coverProblems_eq_nil_iff.mp h).1
  refine ⟨hfields, nodup_map_of_labels hfields hn ?_, nodup_map_of_labels hfields hn ?_,
    fun b hb => (of_mem_declared hb).2.1⟩
  · intro b hb b' hb' hne he
    exact hne (label_eq_of_case_eq h hb hb' he)
  · intro b hb b' hb' hne he
    have hsame : b.toCase = b'.toCase := List.inj_on_of_nodup_map hliterals
      (of_mem_declared hb).2.1 (of_mem_declared hb').2.1 he
    exact hne (label_eq_of_case_eq h hb hb' (congrArg (fun c => c.name.name) hsame))

end Declared

end KeySet

end KeyedRecords.Description

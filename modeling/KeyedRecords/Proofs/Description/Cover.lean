import KeyedRecords.Proofs.Description.KeySet

/-!
# Enumerations that cover the fields of a model

A declared enumeration of keys is checked in three passes: repeated literals, cases and the labels
they stand for, labels and their first case. Together they accept exactly the enumerations that
cover the fields one to one. Two cases may still have one name, and then the first is the one that
is bound.

Results:
* `countP_eq_one_iff`: a case is not reported exactly if it stands for one of the fields.
* `Binds.exists_case`: no name of a case is left without a field.
* `bind_eq_nil_iff_covers`: nothing is reported exactly if the fields are covered one to one, and
  then every field is bound to its case.
-/

namespace KeyedRecords.Description

open Source Text

namespace KeyEnum

/-- The enumeration covers the fields one to one: no literal is repeated, every case is named
    after exactly one of the fields, and after every field a case is named. -/
structure Covers (k : KeyEnum) (fields : List Ident) : Prop where
  literals : (k.cases.map EnumCase.literal).Nodup
  cases : ∀ c ∈ k.cases, fields.countP (fun f => c.name.name = upperCamelCase (fieldLabel f)) = 1
  fields : ∀ f ∈ fields, ∃ c ∈ k.cases, c.name.name = upperCamelCase (fieldLabel f)

end KeyEnum

namespace KeySet

variable {k : KeyEnum} {fields : List Ident}

/-! ## What is reported -/

theorem isFor_iff {c : EnumCase} {label : String} :
    c.isFor label = true ↔ c.name.name = upperCamelCase label := by
  unfold EnumCase.isFor
  rw [beq_iff_eq]

/-- A case is not reported exactly if it stands for one of the fields. -/
theorem countP_eq_one_iff {c : EnumCase} :
    fields.countP (fun f => c.name.name = upperCamelCase (fieldLabel f)) = 1 ↔
      ∃ l, claimed c (fields.map fieldLabel) = [l] := by
  have hlength : fields.countP (fun f => c.name.name = upperCamelCase (fieldLabel f)) =
      (claimed c (fields.map fieldLabel)).length := by
    unfold claimed
    rw [← List.countP_eq_length_filter, List.countP_map]
    refine List.countP_congr fun f _ => ?_
    rw [Function.comp_apply, isFor_iff, decide_eq_true_iff]
  rw [hlength, List.length_eq_one_iff]

/-- A field is not reported exactly if a case stands for it. -/
theorem exists_caseFor?_iff {label : String} :
    (∃ c, k.caseFor? label = some c) ↔ ∃ c ∈ k.cases, c.name.name = upperCamelCase label := by
  unfold KeyEnum.caseFor?
  rw [← Option.isSome_iff_exists, List.find?_isSome]
  simp only [isFor_iff]

theorem coverProblems_eq_nil_iff_covers : coverProblems k fields = [] ↔ k.Covers fields := by
  rw [coverProblems_eq_nil_iff, KeyEnum.duplicateProblems_eq_nil_iff]
  simp only [← countP_eq_one_iff, exists_caseFor?_iff]
  exact ⟨fun ⟨hliterals, hcases, hfields⟩ => ⟨hliterals, hcases, hfields⟩,
    fun h => ⟨h.literals, h.cases, h.fields⟩⟩

/-! ## What is bound -/

/-- A field is bound to the first case that is named after it. -/
theorem find?_of_mem_declared {b : KeyBinding} (hb : b ∈ (declared k fields).bindings) :
    k.cases.find? (fun c => c.name.name = upperCamelCase (fieldLabel b.field)) = some b.toCase := by
  obtain ⟨field, -, hbinding⟩ := List.mem_filterMap.mp hb
  obtain ⟨c, hc, rfl⟩ := Option.map_eq_some_iff.mp hbinding
  exact hc

/-- No name of a case is left without a field. -/
theorem Binds.exists_case (hbinds : (declared k fields).Binds fields) {c : EnumCase}
    (hc : fields.countP (fun f => c.name.name = upperCamelCase (fieldLabel f)) = 1) :
    ∃ b ∈ (declared k fields).bindings, b.case.name = c.name.name := by
  have hpos : 0 < fields.countP (fun f => c.name.name = upperCamelCase (fieldLabel f)) := by omega
  obtain ⟨f, hf, hname⟩ := List.countP_pos_iff.mp hpos
  rw [← hbinds.fields] at hf
  obtain ⟨b, hb, rfl⟩ := List.mem_map.mp hf
  refine ⟨b, hb, ?_⟩
  rw [decide_eq_true_iff] at hname
  exact (isFor_iff.mp (of_mem_declared hb).2.2).trans hname.symm

/-- Every field is bound to its case: one key for each field, in order, which is the first case
    that is named after the field, no two with the same case or the same literal, and every name
    of a case is among them. -/
structure BindsCases (s : KeySet) (k : KeyEnum) (fields : List Ident) : Prop where
  binds : s.Binds fields
  named : ∀ b ∈ s.bindings, b.case.name = upperCamelCase (fieldLabel b.field)
  first : ∀ b ∈ s.bindings,
    k.cases.find? (fun c => c.name.name = upperCamelCase (fieldLabel b.field)) = some b.toCase
  all : ∀ c ∈ k.cases, ∃ b ∈ s.bindings, b.case.name = c.name.name

/-- Nothing is reported of a declared enumeration exactly if it covers the fields one to one, and
    then every field is bound to its case. -/
theorem bind_eq_nil_iff_covers (k : KeyEnum) (fields : List Ident) :
    ((bind k fields).2 = [] ↔ k.Covers fields) ∧
    ((bind k fields).2 = [] → (bind k fields).1.BindsCases k fields) := by
  refine ⟨coverProblems_eq_nil_iff_covers, fun h => ?_⟩
  have hbinds : (declared k fields).Binds fields := binds_declared h
  have hcovers : k.Covers fields := coverProblems_eq_nil_iff_covers.mp h
  refine ⟨hbinds, fun b hb => ?_, fun b hb => find?_of_mem_declared hb, fun c hc => ?_⟩
  · exact isFor_iff.mp (of_mem_declared hb).2.2
  · exact hbinds.exists_case (hcovers.cases c hc)

/-- A raw case and one that is written apart cover the fields `type` and `value_2`. -/
theorem bind_eq_nil_values :
    let k : KeyEnum := ⟨.ofName "Keys", true, .text,
      [⟨.ofName "Value2", .text "v"⟩, ⟨⟨"Type", true⟩, .text "t"⟩]⟩
    let fields : List Ident := [⟨"type", true⟩, .ofName "value_2"]
    (bind k fields).2 = [] ∧ k.Covers fields ∧ (bind k fields).1.BindsCases k fields := by
  intro k fields
  obtain ⟨hcovers, hbinds⟩ := bind_eq_nil_iff_covers k fields
  have hnil : (bind k fields).2 = [] := by
    rw [← List.isEmpty_iff]
    decide +kernel
  exact ⟨hnil, hcovers.mp hnil, hbinds hnil⟩

end KeySet

end KeyedRecords.Description

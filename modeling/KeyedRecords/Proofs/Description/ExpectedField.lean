import KeyedRecords.Proofs.Description.Cover
import KeyedRecords.Proofs.Text.Words

/-!
# Fields that are expected for cases

A case that stands for none of the fields is reported with the name of the field that is expected
for it. That name is the case in snake case, but a field has its case by the field in camel case.
So adding the field helps exactly where the case comes back from snake case, which is where it is
written in camel case: `CreatedAt` does, `HTTPServer` does not.

Results:
* `mem_bind_iff_unknown`: what is reported of unknown cases.
* `unknown_of_added`: what becomes of a reported case once the field is added.
* `unknown_httpServer`: a case that is reported with a field that it has.
-/

namespace KeyedRecords.Description

open Source Text

/-- A case is reported as one that stands for no field, and `field` is expected for it. -/
def KeyEnum.Unknown (k : KeyEnum) (fields : List Ident) (c : EnumCase) (field : String) : Prop :=
  c ∈ k.cases ∧ KeySet.caseProblem k.name (fields.map fieldLabel) c =
    some (.unknownCase k.name.text c.name.text field)

instance (k : KeyEnum) (fields : List Ident) (c : EnumCase) (field : String) :
    Decidable (k.Unknown fields c field) := inferInstanceAs (Decidable (_ ∧ _))

namespace KeySet

variable {k : KeyEnum} {fields fields' : List Ident} {c : EnumCase} {field : String} {g : Ident}

/-! ## What is reported -/

theorem caseProblem_eq_unknown_iff {keys : Ident} {labels : List String} {e n : String} :
    caseProblem keys labels c = some (.unknownCase e n field) ↔
      claimed c labels = [] ∧ keys.text = e ∧ c.name.text = n ∧ c.expectedField = field := by
  unfold caseProblem
  match claimed c labels with
  | [] => simp
  | [l] => simp
  | l :: l' :: ls => simp

theorem unknown_iff : k.Unknown fields c field ↔
    c ∈ k.cases ∧ claimed c (fields.map fieldLabel) = [] ∧ c.expectedField = field := by
  unfold KeyEnum.Unknown
  rw [caseProblem_eq_unknown_iff]
  simp only [true_and]

/-- The diagnostics of unknown cases are those of the cases that are unknown. -/
theorem mem_bind_iff_unknown {e n : String} :
    .ofProblem (.unknownCase e n field) ∈ (bind k fields).2 ↔
      ∃ c, k.Unknown fields c field ∧ k.name.text = e ∧ c.name.text = n := by
  have hduplicate : Diagnostic.ofProblem (.unknownCase e n field) ∉ k.duplicateProblems := by
    intro h
    obtain ⟨c, -, he⟩ := List.mem_map.mp h
    cases he
  have hmissing : Diagnostic.ofProblem (.unknownCase e n field) ∉
      missingProblems k (fields.map fieldLabel) := by
    unfold missingProblems
    cases missing k (fields.map fieldLabel) with
    | nil => exact List.not_mem_nil
    | cons l ls => exact fun h => nomatch List.mem_singleton.mp h
  have hinjective : Function.Injective Diagnostic.ofProblem := fun _ _ h => (Diagnostic.mk.inj h).1
  unfold bind coverProblems
  rw [List.mem_append, List.mem_append, or_iff_left hmissing, or_iff_right hduplicate,
    List.mem_map_of_injective hinjective, List.mem_filterMap]
  refine exists_congr fun c => ?_
  rw [unknown_iff, caseProblem_eq_unknown_iff]
  exact ⟨fun ⟨hmem, hclaimed, he, hn, hfield⟩ => ⟨⟨hmem, hclaimed, hfield⟩, he, hn⟩,
    fun ⟨⟨hmem, hclaimed, hfield⟩, he, hn⟩ => ⟨hmem, hclaimed, he, hn, hfield⟩⟩

/-! ## Adding the expected field -/

/-- What a case stands for once a field is added anywhere among the others. -/
theorem claimed_of_added (h : claimed c (fields.map fieldLabel) = [])
    (hadd : fields'.Perm (g :: fields)) :
    claimed c (fields'.map fieldLabel) =
      if upperCamelCase (fieldLabel g) = c.name.name then [fieldLabel g] else [] := by
  have hperm : (claimed c (fields'.map fieldLabel)).Perm
      (claimed c (fieldLabel g :: fields.map fieldLabel)) := (hadd.map fieldLabel).filter c.isFor
  have hclaimed : claimed c (fieldLabel g :: fields.map fieldLabel) =
      if upperCamelCase (fieldLabel g) = c.name.name then [fieldLabel g] else [] := by
    unfold claimed at h ⊢
    rw [List.filter_cons, h]
    exact if_congr (isFor_iff.trans eq_comm) rfl rfl
  rw [hclaimed] at hperm
  split_ifs at hperm ⊢ with hname
  · exact List.perm_singleton.mp hperm
  · exact List.perm_nil.mp hperm

/-- Let a case be reported with the name of an expected field, and let a field with that name be
    added. The case stands for the added field, and for no other, exactly if the name gives back
    the case in camel case; otherwise the case is reported again with the same name. So it is if
    there was such a field before. Among cases of simple letters those in camel case come back. -/
theorem unknown_of_added (h : k.Unknown fields c field) (hg : fieldLabel g = field)
    (hadd : fields'.Perm (g :: fields)) :
    .ofProblem (.unknownCase k.name.text c.name.text field) ∈ (bind k fields).2 ∧
    field = snakeCase c.name.name ∧
    (claimed c (fields'.map fieldLabel) = [field] ↔ upperCamelCase field = c.name.name) ∧
    (k.Unknown fields' c field ↔ upperCamelCase field ≠ c.name.name) ∧
    (field ∈ fields.map fieldLabel → upperCamelCase field ≠ c.name.name) ∧
    (SimpleName c.name.name → (upperCamelCase field = c.name.name ↔ InCamelCase c.name.name)) := by
  obtain ⟨hmem, hclaimed, hfield⟩ := unknown_iff.mp h
  have hadded := claimed_of_added hclaimed hadd
  rw [hg] at hadded
  refine ⟨mem_bind_iff_unknown.mpr ⟨c, h, rfl, rfl⟩, hfield.symm, ?_, ?_, fun hold hname => ?_,
    fun hsimple => ?_⟩
  · rw [hadded]
    simp only [ite_eq_left_iff, List.nil_eq, List.cons_ne_nil, imp_false, not_not]
  · rw [unknown_iff, hadded]
    simp only [hmem, hfield, true_and, and_true, ite_eq_right_iff, List.cons_ne_nil, imp_false,
      ne_eq]
  · exact List.filter_eq_nil_iff.mp hclaimed field hold (isFor_iff.mpr hname.symm)
  · rw [← hfield]
    exact upperCamelCase_snakeCase_iff hsimple

/-- An enumeration over texts with one case. -/
def oneCase (name : String) : KeyEnum :=
  ⟨.ofName "Keys", true, .text, [⟨.ofName name, .text (snakeCase name)⟩]⟩

/-- The field that is expected for `CreatedAt` is bound to it. -/
theorem unknown_createdAt :
    let k := oneCase "CreatedAt"
    let c : EnumCase := ⟨.ofName "CreatedAt", .text "created_at"⟩
    k.Unknown [.ofName "id"] c "created_at" ∧
    claimed c ["id", "created_at"] = ["created_at"] ∧
    ¬ k.Unknown [.ofName "id", .ofName "created_at"] c "created_at" := by
  intro k c
  have h : k.Unknown [.ofName "id"] c "created_at" := by decide +kernel
  have hname : upperCamelCase "created_at" = c.name.name := by decide +kernel
  obtain ⟨-, -, hclaimed, hunknown, -⟩ := unknown_of_added (g := .ofName "created_at") h rfl
    (List.Perm.swap (Ident.ofName "created_at") (Ident.ofName "id") [])
  exact ⟨h, hclaimed.mpr hname, fun hagain => hunknown.mp hagain hname⟩

/-- The field that is expected for `HTTPServer` does not stand for it: the case is reported with
    the same name when the field is there. -/
theorem unknown_httpServer :
    let k := oneCase "HTTPServer"
    let c : EnumCase := ⟨.ofName "HTTPServer", .text "http_server"⟩
    k.Unknown [] c "http_server" ∧ k.Unknown [.ofName "http_server"] c "http_server" ∧
    .ofProblem (.unknownCase "Keys" "HTTPServer" "http_server") ∈
      (bind k [.ofName "http_server"]).2 := by
  decide +kernel

end KeySet

end KeyedRecords.Description

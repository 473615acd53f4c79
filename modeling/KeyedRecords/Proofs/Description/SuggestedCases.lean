import KeyedRecords.Proofs.Description.DefaultLiterals
import KeyedRecords.Proofs.Description.Discriminants
import KeyedRecords.Proofs.Source.Lexer

/-!
# Cases that are suggested for fields

Fields without a case are reported together, with the names of the cases that would stand for them:
the labels in camel case. Adding these cases to an enumeration over texts covers the fields, unless
a literal is repeated: the suggested names have literals of their own, in snake case, which may be
those of other cases or of each other.

**Not every suggestion is a name.** A label may begin with an underscore and a digit, and camel case
leaves the digit; and `self_` becomes a keyword.

Results:
* `isIdentifier_upperCamelCase_iff`: the suggestions that are identifiers.
* `covers_added_iff`: what the suggested cases cover.
* `bind_suggested`: what is reported once the suggested cases are added.
* `bind_suggested_text`: a suggestion that repeats a literal.
-/

namespace KeyedRecords.Description

open Source Text

/-! ## Names of cases -/

/-- A text that is read as one identifier, and not as a keyword. -/
def IsIdentifier (s : String) : Prop := afterName s.toList = some [] ∧ s ∉ keywords

instance (s : String) : Decidable (IsIdentifier s) := inferInstanceAs (Decidable (_ ∧ _))

section Identifiers

variable {s : String} {cs : List Char} {c : Char}

/-- All keywords begin with a letter in lower case, with two exceptions. -/
theorem head?_of_mem_keywords : ∀ word ∈ keywords, word = "Self" ∨
    word.toList.head?.any (fun c => lowercase.holds c || !alphanumeric.holds c) := by
  decide +kernel

/-- What begins with a capital, or with a letter without cases, is one keyword at most. -/
theorem mem_keywords_iff (hc : c ∈ s.toList.head?) (hraised : IsRaised c) :
    s ∈ keywords ↔ s = "Self" := by
  refine ⟨fun h => ?_, fun h => h ▸ by decide⟩
  rcases head?_of_mem_keywords s h with hself | hlower
  · exact hself
  · rw [Option.mem_def.mp hc, Option.any_some, hraised.not_lowercase,
      hraised.simple.alphanumeric] at hlower
    cases hlower

/-- What is left of a label in camel case is an identifier exactly if the first letter or number of
    the label may begin one, and the result is not a keyword. -/
theorem isIdentifier_upperCamelCase_iff (hsimple : SimpleName s)
    (hname : afterName s.toList = some []) : IsIdentifier (upperCamelCase s) ↔
      (∃ c ∈ s.toList.find? alphanumeric.holds, identifierStart.holds c) ∧
        upperCamelCase s ≠ "Self" := by
  have hcontinues : ∀ c ∈ (upperCamelCase s).toList.tail, continuesName c := by
    intro c hc
    obtain ⟨d, hd, hletter, hcd⟩ := of_mem_tail_upperCamelCase hsimple hc
    have htail : d ∈ s.toList.tail := by
      cases hs : s.toList with
      | nil => rw [hs] at hd; cases hd
      | cons e es =>
        rw [hs, List.filter_cons] at hd
        split_ifs at hd
        · exact List.mem_of_mem_filter hd
        · exact List.mem_of_mem_filter (List.mem_of_mem_tail hd)
    have hold : identifierContinue.holds d := (afterName_eq_nil_iff.mp hname).2 d htail
    unfold continuesName
    rcases hcd with rfl | rfl
    · rw [hletter.continues.1, hold]
    · rw [hletter.continues.2, hold]
  unfold IsIdentifier
  rw [afterName_eq_nil_iff, head?_upperCamelCase hsimple, and_iff_left hcontinues]
  cases hfirst : s.toList.find? alphanumeric.holds with
  | none => simp
  | some c =>
    have hletter : SimpleLetter c :=
      (hsimple c (List.mem_of_find?_eq_some hfirst)).simple (List.find?_some hfirst)
    have hhead : capitalOf c ∈ (upperCamelCase s).toList.head? := by
      rw [head?_upperCamelCase hsimple, hfirst]
      rfl
    have hunderscore : capitalOf c ≠ '_' := by
      intro he
      have hraised := hletter.isRaised.simple.alphanumeric
      rw [he] at hraised
      revert hraised
      decide
    rw [mem_keywords_iff hhead hletter.isRaised]
    simp [startsName, hunderscore, hletter.starts]

end Identifiers

namespace KeySet

variable {k k' : KeyEnum} {fields : List Ident} {labels : List String}

/-! ## What is missing -/

theorem mem_missing_iff {l : String} : l ∈ missing k labels ↔
    l ∈ labels ∧ ∀ c ∈ k.cases, c.name.name ≠ upperCamelCase l := by
  unfold missing KeyEnum.caseFor?
  rw [List.mem_filter, Option.isNone_iff_eq_none, List.find?_eq_none]
  simp only [isFor_iff, ne_eq]

/-- If only missing fields are reported, nothing else is wrong. -/
theorem of_incomplete {g : Diagnostic} (h : coverProblems k fields = [g]) (hfix : g.fix.isSome) :
    (k.cases.map EnumCase.literal).Nodup ∧
    (∀ c ∈ k.cases, fields.countP (fun f => c.name.name = upperCamelCase (fieldLabel f)) = 1) ∧
    g = .withFix (.incompleteKeys k.name.text (missing k (fields.map fieldLabel))) ""
      (String.intercalate ", " ((missing k (fields.map fieldLabel)).map upperCamelCase)) := by
  set others := k.duplicateProblems ++
    (k.cases.filterMap (caseProblem k.name (fields.map fieldLabel))).map .ofProblem with hothers
  have hsplit : others ++ missingProblems k (fields.map fieldLabel) = [g] := h
  -- The other problems come without a fix, so the one that is left is not among them.
  have hnil : others = [] := by
    rw [List.eq_nil_iff_forall_not_mem]
    intro g' hg'
    have hfix' : g'.fix = none := by
      rw [hothers, List.mem_append] at hg'
      rcases hg' with hg' | hg'
      · obtain ⟨c, -, rfl⟩ := List.mem_map.mp hg'
        rfl
      · obtain ⟨p, -, rfl⟩ := List.mem_map.mp hg'
        rfl
    have hmem : g' ∈ [g] := hsplit ▸ List.mem_append_left _ hg'
    rw [← List.mem_singleton.mp hmem, hfix'] at hfix
    cases hfix
  rw [hnil, List.nil_append] at hsplit
  rw [hothers, List.append_eq_nil_iff, KeyEnum.duplicateProblems_eq_nil_iff, List.map_eq_nil_iff,
    List.filterMap_eq_nil_iff] at hnil
  refine ⟨hnil.1, fun c hc => countP_eq_one_iff.mpr (caseProblem_eq_none_iff.mp (hnil.2 c hc)), ?_⟩
  unfold missingProblems at hsplit
  cases hmissing : missing k (fields.map fieldLabel) with
  | nil => rw [hmissing] at hsplit; cases hsplit
  | cons l ls =>
    rw [hmissing] at hsplit
    exact (List.singleton_inj.mp hsplit).symm

/-! ## Suggested cases -/

/-- The cases that are suggested for labels, with their literals. -/
def suggestedCases (labels : List String) : List EnumCase :=
  labels.map fun l => ⟨.ofName (upperCamelCase l), .text (snakeCase (upperCamelCase l))⟩

theorem literals_suggestedCases : (suggestedCases labels).map EnumCase.literal =
    ((labels.map upperCamelCase).map snakeCase).map .text := by
  unfold suggestedCases
  rw [List.map_map, List.map_map, List.map_map]
  rfl

/-- The literals with suggested cases among them are distinct exactly if none of theirs is repeated,
    by themselves or by another case. -/
theorem nodup_literals_added_iff (hcases : k'.cases.Perm (k.cases ++ suggestedCases labels))
    (hliterals : (k.cases.map EnumCase.literal).Nodup) :
    (k'.cases.map EnumCase.literal).Nodup ↔ ((labels.map upperCamelCase).map snakeCase).Nodup ∧
      ∀ n ∈ labels.map upperCamelCase, .text (snakeCase n) ∉ k.cases.map EnumCase.literal := by
  have hinjective : Function.Injective KeyLiteral.text := fun _ _ h => KeyLiteral.text.inj h
  rw [(hcases.map EnumCase.literal).nodup_iff, List.map_append, literals_suggestedCases,
    List.nodup_append', List.nodup_map_iff hinjective, List.disjoint_right]
  simp only [hliterals, true_and, List.forall_mem_map]

/-- Where no two suggested cases are alike, each stands for one field. -/
theorem countP_suggested (hmissing : missing k (fields.map fieldLabel) = labels)
    (hnodup : (labels.map upperCamelCase).Nodup) {l : String} (hl : l ∈ labels) :
    fields.countP (fun f => upperCamelCase l = upperCamelCase (fieldLabel f)) = 1 := by
  have hcase : ∀ c ∈ k.cases, c.name.name ≠ upperCamelCase l :=
    (mem_missing_iff.mp (hmissing ▸ hl)).2
  calc fields.countP (fun f => upperCamelCase l = upperCamelCase (fieldLabel f))
      = (fields.map fieldLabel).countP (fun l' => upperCamelCase l = upperCamelCase l') := by
        simp only [List.countP_map, Function.comp_def]
    _ = labels.countP (fun l' => upperCamelCase l = upperCamelCase l') := by
        -- A label that becomes the same in camel case has no case either.
        rw [← hmissing, missing, List.countP_filter]
        refine List.countP_congr fun l' hl' => ?_
        simp only [Bool.and_eq_true, decide_eq_true_iff, iff_self_and]
        intro he
        have hmem : l' ∈ missing k (fields.map fieldLabel) :=
          mem_missing_iff.mpr ⟨hl', fun c hc => he ▸ hcase c hc⟩
        exact (List.mem_filter.mp hmem).2
    _ = (labels.map upperCamelCase).count (upperCamelCase l) := by
        rw [List.count, List.countP_map]
        refine List.countP_congr fun l' _ => ?_
        rw [Function.comp_apply, decide_eq_true_iff, beq_iff_eq, eq_comm]
    _ = 1 := List.count_eq_one_of_mem hnodup (List.mem_map_of_mem hl)

/-- With the suggested cases for what is missing the fields are covered exactly if the literals are
    distinct. -/
theorem covers_added_iff (hcases : k'.cases.Perm (k.cases ++ suggestedCases labels))
    (hclaimed : ∀ c ∈ k.cases,
      fields.countP (fun f => c.name.name = upperCamelCase (fieldLabel f)) = 1)
    (hmissing : missing k (fields.map fieldLabel) = labels) :
    k'.Covers fields ↔ (k'.cases.map EnumCase.literal).Nodup := by
  have hmem : ∀ c, c ∈ k'.cases ↔ c ∈ k.cases ∨ c ∈ suggestedCases labels := fun c => by
    rw [hcases.mem_iff, List.mem_append]
  refine ⟨fun h => h.literals, fun hliterals => ⟨hliterals, fun c hc => ?_, fun f hf => ?_⟩⟩
  · rcases (hmem c).mp hc with hc | hc
    · exact hclaimed c hc
    · obtain ⟨l, hl, rfl⟩ := List.mem_map.mp hc
      have hsuggested : (((labels.map upperCamelCase).map snakeCase).map KeyLiteral.text).Nodup := by
        rw [← literals_suggestedCases]
        rw [(hcases.map EnumCase.literal).nodup_iff, List.map_append] at hliterals
        exact hliterals.of_append_right
      exact countP_suggested hmissing hsuggested.of_map.of_map hl
  · by_cases hnamed : ∃ c ∈ k.cases, c.name.name = upperCamelCase (fieldLabel f)
    · obtain ⟨c, hc, hname⟩ := hnamed
      exact ⟨c, (hmem c).mpr (.inl hc), hname⟩
    · have hl : fieldLabel f ∈ labels := by
        rw [← hmissing, mem_missing_iff]
        exact ⟨List.mem_map_of_mem hf, fun c hc he => hnamed ⟨c, hc, he⟩⟩
      exact ⟨_, (hmem _).mpr (.inr (List.mem_map_of_mem hl)), rfl⟩

/-! ## Adding them to the enumeration -/

/-- The cases that are read once unit cases with suggested names are added. -/
theorem cases_ofParts_added {name : Ident} {attrs : List Attribute} {vs vs' : List Variant}
    (htext : (KeyEnum.ofParts name attrs vs).1.raw = .text)
    (hadded : vs'.Perm (vs ++ labels.map fun l => KeyEnum.unitCase (upperCamelCase l) none)) :
    (KeyEnum.ofParts name attrs vs').1.cases.Perm
      ((KeyEnum.ofParts name attrs vs).1.cases ++ suggestedCases labels) := by
  have hcases : ∀ vs, (KeyEnum.ofParts name attrs vs).1.cases =
      (vs.filter fun v => v.payload.isNone).map textCase := by
    intro vs
    rw [← casesOf_text 0 vs]
    exact congrArg (fun raw => (casesOf raw 0 vs).1) htext
  have hsuggested : ((labels.map fun l => KeyEnum.unitCase (upperCamelCase l) none).filter
      fun v => v.payload.isNone).map textCase = suggestedCases labels := by
    rw [List.filter_map, List.map_map]
    have hall : labels.filter ((fun v => v.payload.isNone) ∘
        fun l => KeyEnum.unitCase (upperCamelCase l) none) = labels :=
      List.filter_eq_self.mpr fun l _ => rfl
    rw [hall]
    rfl
  rw [hcases, hcases, ← hsuggested, ← List.map_append, ← List.filter_append]
  exact (hadded.filter _).map _

/-- Let nothing be reported of an enumeration over texts but fields without a case. The fix lists
    their labels in camel case. Among labels of simple letters that are names, a listed one is an
    identifier exactly if the first letter or number of the label may begin one and the result is
    not `Self`. Let unit cases with these names be added anywhere among the others. Nothing is
    reported of the result exactly if their literals are distinct and none is that of another case,
    and then every field is bound. Where the labels are in snake case, that is so exactly if none
    of them is the literal of another case. -/
theorem bind_suggested {name : Ident} {attrs : List Attribute} {vs vs' : List Variant}
    {fields : List Ident} {labels : List String} {new : String}
    (htext : (KeyEnum.ofParts name attrs vs).1.raw = .text)
    (hlabels : (fields.map fieldLabel).Nodup)
    (honly : (bind (KeyEnum.ofParts name attrs vs).1 fields).2 =
      [.withFix (.incompleteKeys name.text labels) "" new])
    (hadded : vs'.Perm (vs ++ labels.map fun l => KeyEnum.unitCase (upperCamelCase l) none)) :
    let old := (KeyEnum.ofParts name attrs vs).1.cases.map EnumCase.literal
    let k' := (KeyEnum.ofParts name attrs vs').1
    new = String.intercalate ", " (labels.map upperCamelCase) ∧
    (∀ l ∈ labels, SimpleName l → afterName l.toList = some [] →
      (IsIdentifier (upperCamelCase l) ↔
        (∃ c ∈ l.toList.find? alphanumeric.holds, identifierStart.holds c) ∧
          upperCamelCase l ≠ "Self")) ∧
    ((bind k' fields).2 = [] ↔ ((labels.map upperCamelCase).map snakeCase).Nodup ∧
      ∀ n ∈ labels.map upperCamelCase, .text (snakeCase n) ∉ old) ∧
    ((bind k' fields).2 = [] → (bind k' fields).1.BindsCases k' fields) ∧
    ((∀ l ∈ labels, InSnakeCase l) → ((bind k' fields).2 = [] ↔ ∀ l ∈ labels, .text l ∉ old)) := by
  intro old k'
  obtain ⟨hliterals, hclaimed, hfix⟩ := of_incomplete honly rfl
  have hmissing : missing (KeyEnum.ofParts name attrs vs).1 (fields.map fieldLabel) = labels := by
    simp only [Diagnostic.withFix, Diagnostic.mk.injEq, Problem.incompleteKeys.injEq] at hfix
    exact hfix.1.2.symm
  have hnew : new = String.intercalate ", " (labels.map upperCamelCase) := by
    rw [hmissing] at hfix
    simp only [Diagnostic.withFix, Diagnostic.mk.injEq, Option.some_inj, Fix.mk.injEq] at hfix
    exact hfix.2.2
  have hcases := cases_ofParts_added htext hadded
  obtain ⟨hnil, hbinds⟩ := bind_eq_nil_iff_covers k' fields
  have hiff : (bind k' fields).2 = [] ↔ ((labels.map upperCamelCase).map snakeCase).Nodup ∧
      ∀ n ∈ labels.map upperCamelCase, .text (snakeCase n) ∉ old := by
    rw [hnil, covers_added_iff hcases hclaimed hmissing, nodup_literals_added_iff hcases hliterals]
  refine ⟨hnew, fun l _ => isIdentifier_upperCamelCase_iff, hiff, hbinds, fun hsnake => ?_⟩
  have hback : (labels.map upperCamelCase).map snakeCase = labels := by
    rw [List.map_map]
    exact map_eq_self fun l hl => (hsnake l hl).upperCamelCase.2
  have hdistinct : labels.Nodup := hmissing ▸ hlabels.filter _
  rw [hiff, hback, and_iff_right hdistinct, List.forall_mem_map]
  exact forall₂_congr fun l hl => by rw [(hsnake l hl).upperCamelCase.2]

/-- The case that is suggested for `value_2` is accepted in front of the other. -/
theorem bind_suggested_value_2 :
    let vs := [KeyEnum.unitCase "CreatedAt" none]
    let vs' := [KeyEnum.unitCase "Value2" none, KeyEnum.unitCase "CreatedAt" none]
    let fields : List Ident := [.ofName "value_2", .ofName "created_at"]
    let k := (KeyEnum.ofParts (.ofName "Keys") [] vs).1
    let k' := (KeyEnum.ofParts (.ofName "Keys") [] vs').1
    k.raw = .text ∧ (fields.map fieldLabel).Nodup ∧
    (bind k fields).2 = [.withFix (.incompleteKeys "Keys" ["value_2"]) "" "Value2"] ∧
    IsIdentifier "Value2" ∧ (bind k' fields).2 = [] ∧ (bind k' fields).1.BindsCases k' fields := by
  intro vs vs' fields k k'
  have htext : k.raw = .text := by decide
  have hlabels : (fields.map fieldLabel).Nodup := by decide
  have honly : (bind k fields).2 =
      [.withFix (.incompleteKeys "Keys" ["value_2"]) "" "Value2"] := by
    decide +kernel
  have hcamel : upperCamelCase "value_2" = "Value2" := by decide +kernel
  have hadded : vs'.Perm (vs ++ ["value_2"].map fun l => KeyEnum.unitCase (upperCamelCase l) none) := by
    rw [List.map_singleton, hcamel]
    exact List.Perm.swap _ _ _
  obtain ⟨-, hnames, hnil, hbinds, -⟩ := bind_suggested htext hlabels honly hadded
  have hidentifier : IsIdentifier "Value2" := by
    rw [← hcamel, hnames "value_2" (by decide) (simpleName_of_ascii (by decide)) (by decide +kernel)]
    exact ⟨⟨'v', by decide +kernel, by decide +kernel⟩, by decide +kernel⟩
  have hfree : (bind k' fields).2 = [] := hnil.mpr (by decide +kernel)
  exact ⟨htext, hlabels, honly, hidentifier, hfree, hbinds hfree⟩

/-- A case that is stored under another text. -/
def keyedCase (name literal : String) : Variant :=
  ⟨[⟨false, ⟨false, [.ofName "key"]⟩, .value (.literal [] ("\"" ++ literal ++ "\""))⟩],
    .ofName name, none, none⟩

/-- The only fix is to add `Text`, and then its literal is reported as repeated. -/
theorem bind_suggested_text :
    let vs := [keyedCase "Number" "text"]
    let fields : List Ident := [.ofName "number", .ofName "text"]
    let k := (KeyEnum.ofParts (.ofName "Keys") [] vs).1
    let k' := (KeyEnum.ofParts (.ofName "Keys") [] (vs ++ [KeyEnum.unitCase "Text" none])).1
    k.raw = .text ∧ (fields.map fieldLabel).Nodup ∧
    (bind k fields).2 = [.withFix (.incompleteKeys "Keys" ["text"]) "" "Text"] ∧
    (bind k' fields).2 = [.ofProblem (.duplicateLiteral "Keys" (.text "text"))] := by
  decide +kernel

-- A label that is left with its digit, and one that becomes a keyword.
example : ¬ IsIdentifier (upperCamelCase "_1") ∧ ¬ IsIdentifier (upperCamelCase "self_") := by
  decide +kernel

end KeySet

end KeyedRecords.Description

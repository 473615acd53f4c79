import Mathlib.Tactic
import KeyedRecords.Description.KeyEnum

/-!
# Integers of key enumerations

Over integers a case is stored as its discriminant: the integer that it gives, or the one after
that of the case before. Discriminants are counted here without bounds and in the compiler with
64-bit integers. The two agree on the integers that a case gives, since larger ones are refused;
but the integer after the largest wraps around, and nothing is reported then.

Results:
* `integerValue?_eq`: the integers that a case may give are those of a magnitude below `2 ^ 63`.
* `casesOf_eq_nil_iff`, `casesOf_of_isIntegerCase`: when no case is reported, and what is stored
  then.
* `ofParts_discriminants`: what is stored for the discriminants of a type, and for which types it
  is always the discriminant.
* `ofParts_wraps_u64`: an unsigned discriminant that is stored as a negative integer.
-/

namespace KeyedRecords.Description

open Source

/-! ## Discriminants without bounds -/

/-- The integer that an expression denotes: a literal of any size under signs and parentheses. -/
def integerOf? : Expr → Option ℤ
  | .literal _ text => (Literal.naturalValue? text).map fun n => (n : ℤ)
  | .negation _ e => (integerOf? e).map fun z => -z
  | .paren _ e => integerOf? e
  | .group e => integerOf? e
  | .other _ => none

/-- The discriminant of a case: the integer that it gives, or `next`. -/
def discriminant? (next : ℤ) (v : Variant) : Option ℤ :=
  match v.discriminant with
  | none => some next
  | some e => integerOf? e

/-- The discriminants of cases. `next` is that of the first case if it gives none. -/
def discriminants? (next : ℤ) : List Variant → Option (List ℤ)
  | [] => some []
  | v :: vs =>
    (discriminant? next v).bind fun d => (discriminants? (d + 1) vs).map fun ds => d :: ds

namespace IntegerType

/-- The least integer of a type. A pointer has 64 bits. -/
def least : IntegerType → ℤ
  | u8 | u16 | u32 | u64 | usize => 0
  | i8 => -2 ^ 7
  | i16 => -2 ^ 15
  | i32 => -2 ^ 31
  | i64 | isize => -2 ^ 63

/-- The integer after the largest one of a type. -/
def bound : IntegerType → ℤ
  | u8 => 2 ^ 8
  | u16 => 2 ^ 16
  | u32 => 2 ^ 32
  | u64 | usize => 2 ^ 64
  | i8 => 2 ^ 7
  | i16 => 2 ^ 15
  | i32 => 2 ^ 31
  | i64 | isize => 2 ^ 63

/-- The integer is one of the type. -/
def Holds (t : IntegerType) (z : ℤ) : Prop := t.least ≤ z ∧ z < t.bound

theorem le_least (t : IntegerType) : -2 ^ 63 ≤ t.least := by cases t <;> decide

theorem bound_le (t : IntegerType) : t.bound ≤ 2 ^ 64 := by cases t <;> decide

/-- Only two types have larger integers than the signed ones of 64 bits. -/
theorem bound_le_of_ne {t : IntegerType} (hu64 : t ≠ u64) (husize : t ≠ usize) :
    t.bound ≤ 2 ^ 63 := by
  cases t with
  | u64 => exact absurd rfl hu64
  | usize => exact absurd rfl husize
  | _ => decide

end IntegerType

theorem exists_integerOf?_of_discriminants? {vs : List Variant} :
    ∀ {next : ℤ} {ds : List ℤ}, discriminants? next vs = some ds →
      ∀ v ∈ vs, ∀ e, v.discriminant = some e → ∃ z, integerOf? e = some z := by
  induction vs with
  | nil => intro next ds _ v hv; cases hv
  | cons v vs ih =>
    intro next ds h
    obtain ⟨d, hd, hrest⟩ := Option.bind_eq_some_iff.mp h
    obtain ⟨ds', hds', -⟩ := Option.map_eq_some_iff.mp hrest
    rw [List.forall_mem_cons]
    refine ⟨fun e he => ⟨d, ?_⟩, ih hds'⟩
    unfold discriminant? at hd
    rw [he] at hd
    exact hd

/-! ## Integers in 64 bits -/

/-- What a discriminant is stored as. The larger half of the unsigned ones wraps around. -/
def storedInteger (d : ℤ) : ℤ := if d < 2 ^ 63 then d else d - 2 ^ 64

theorem toInt_ofInt_of_holds {t : IntegerType} {d : ℤ} (h : t.Holds d) :
    (Int64.ofInt d).toInt = storedInteger d := by
  obtain ⟨hleast, hbound⟩ := h
  have hle : -2 ^ 63 ≤ d := t.le_least.trans hleast
  have hlt : d < 2 ^ 64 := hbound.trans_le t.bound_le
  have hsize : ((Int64.size : ℕ) : ℤ) = 2 ^ 64 := rfl
  unfold storedInteger
  rw [Int64.toInt_ofInt, Int.bmod_def, hsize]
  split_ifs <;> omega

theorem storedInteger_eq_iff {d : ℤ} : storedInteger d = d ↔ d < 2 ^ 63 := by
  unfold storedInteger
  split_ifs <;> omega

theorem map_storedInteger_eq_iff {ds : List ℤ} :
    ds.map (fun d => some (storedInteger d)) = ds.map some ↔ ∀ d ∈ ds, d < 2 ^ 63 := by
  rw [List.map_inj_left]
  simp only [Option.some_inj, storedInteger_eq_iff]

/-- The integers that a case may give: those of a magnitude below `2 ^ 63`. The sign is applied
    after the literal is read, so the least integer of 64 bits is not among them. -/
theorem integerValue?_eq (e : Expr) :
    integerValue? e = ((integerOf? e).filter fun z => |z| < 2 ^ 63).map Int64.ofInt := by
  induction e with
  | literal attrs text =>
    unfold integerValue? integerOf?
    cases Literal.naturalValue? text with
    | none => rfl
    | some n =>
      by_cases h : n < 0x8000000000000000 <;> simp [Option.filter, h, Int64.ofInt_eq_ofNat]
  | negation attrs e ih =>
    rw [integerValue?, integerOf?, ih]
    cases integerOf? e with
    | none => rfl
    | some z => simp [Option.filter, abs_neg, Int64.ofInt_neg]
  | paren attrs e ih => exact ih
  | group e ih => exact ih
  | other ts => rfl

/-! ## Cases that are not reported -/

/-- A case that is accepted over integers: it holds no data, has no `key` attribute, and a
    discriminant that it gives is an integer of a magnitude below `2 ^ 63`. -/
structure IsIntegerCase (v : Variant) : Prop where
  unit : v.payload = none
  noKey : keyAttribute? v = none
  discriminant : ∀ e, v.discriminant = some e → ∃ z, integerOf? e = some z ∧ |z| < 2 ^ 63

variable {t : IntegerType} {v : Variant} {vs : List Variant}

theorem exists_integerValue?_iff {e : Expr} :
    (∃ i, integerValue? e = some i) ↔ ∃ z, integerOf? e = some z ∧ |z| < 2 ^ 63 := by
  rw [integerValue?_eq]
  simp only [Option.map_eq_some_iff, Option.filter_eq_some_iff, decide_eq_true_eq]
  exact ⟨fun ⟨_, z, hz, _⟩ => ⟨z, hz⟩, fun ⟨z, hz⟩ => ⟨_, z, hz, rfl⟩⟩

/-- Of a case that has a discriminant, what is left to check. -/
theorem isIntegerCase_iff (hunit : v.payload = none)
    (hgiven : ∀ e, v.discriminant = some e → ∃ z, integerOf? e = some z) :
    IsIntegerCase v ↔ keyAttribute? v = none ∧
      ∀ e z, v.discriminant = some e → integerOf? e = some z → |z| < 2 ^ 63 := by
  constructor
  · intro h
    refine ⟨h.noKey, fun e z he hz => ?_⟩
    obtain ⟨z', hz', habs⟩ := h.discriminant e he
    rw [hz, Option.some_inj] at hz'
    rwa [hz']
  · intro ⟨hnoKey, habs⟩
    refine ⟨hunit, hnoKey, fun e he => ?_⟩
    obtain ⟨z, hz⟩ := hgiven e he
    exact ⟨z, hz, habs e z he hz⟩

/-- A case that is not reported is accepted. -/
theorem isIntegerCase_of_caseLiteral {next : Int64}
    (h : (caseLiteral (.integer t) next v).2 = none) : IsIntegerCase v := by
  unfold caseLiteral integerLiteral at h
  have hunit : v.payload = none := by
    cases hpayload : v.payload with
    | none => rfl
    | some ts => simp [hpayload] at h
  have hnoKey : keyAttribute? v = none := by
    cases hkey : keyAttribute? v with
    | none => rfl
    | some a => simp [hunit, hkey] at h
  refine ⟨hunit, hnoKey, fun e he => ?_⟩
  cases hvalue : integerValue? e with
  | none => simp [hunit, hnoKey, he, hvalue] at h
  | some i => exact exists_integerValue?_iff.mp ⟨i, hvalue⟩

/-- The literal of an accepted case is its discriminant, as far as 64 bits hold it. -/
theorem caseLiteral_of_isIntegerCase (h : IsIntegerCase v) (next : ℤ) :
    ∃ d, discriminant? next v = some d ∧
      caseLiteral (.integer t) (Int64.ofInt next) v = (some (.int (Int64.ofInt d)), none) := by
  unfold discriminant? caseLiteral integerLiteral
  rw [h.unit, h.noKey]
  cases he : v.discriminant with
  | none => exact ⟨next, rfl, rfl⟩
  | some e =>
    obtain ⟨z, hz, habs⟩ := h.discriminant e he
    have hvalue : integerValue? e = some (Int64.ofInt z) := by
      rw [integerValue?_eq, hz, Option.filter_some, if_pos (decide_eq_true habs), Option.map_some]
    exact ⟨z, hz, by simp only [hvalue, Option.isSome_none, Bool.false_eq_true, if_false]⟩

/-! ## A run over the cases -/

/-- If no case is reported, all are accepted. -/
theorem isIntegerCase_of_casesOf : ∀ {next : Int64}, (casesOf (.integer t) next vs).2 = [] →
    ∀ v ∈ vs, IsIntegerCase v := by
  induction vs with
  | nil => intro next _ v hv; cases hv
  | cons v vs ih =>
    intro next h
    rw [casesOf, List.append_eq_nil_iff, Option.toList_eq_nil_iff] at h
    rw [List.forall_mem_cons]
    exact ⟨isIntegerCase_of_caseLiteral h.1, ih h.2⟩

/-- The discriminant after an accepted case is the one after it in 64 bits: what wraps around
    wraps around on both sides. -/
theorem casesOf_cons_of_isIntegerCase (h : IsIntegerCase v) (next : ℤ) :
    ∃ d, discriminant? next v = some d ∧
      casesOf (.integer t) (Int64.ofInt next) (v :: vs) =
        (⟨v.name, .int (Int64.ofInt d)⟩ :: (casesOf (.integer t) (Int64.ofInt (d + 1)) vs).1,
          (casesOf (.integer t) (Int64.ofInt (d + 1)) vs).2) := by
  obtain ⟨d, hd, hliteral⟩ := caseLiteral_of_isIntegerCase (t := t) h next
  have hnext : Int64.ofInt d + 1 = Int64.ofInt (d + 1) := (Int64.ofInt_add d 1).symm
  refine ⟨d, hd, ?_⟩
  simp only [casesOf, hliteral, nextAfter, hnext, Option.map_some, Option.toList_some,
    Option.toList_none, List.cons_append, List.nil_append]

/-- Accepted cases have all discriminants, and are stored as these as far as 64 bits hold them. -/
theorem casesOf_of_isIntegerCase : ∀ (next : ℤ), (∀ v ∈ vs, IsIntegerCase v) →
    ∃ ds cases, discriminants? next vs = some ds ∧
      casesOf (.integer t) (Int64.ofInt next) vs = (cases, []) ∧
      cases.map EnumCase.name = vs.map Variant.name ∧
      cases.map EnumCase.literal = ds.map fun d => .int (Int64.ofInt d) := by
  induction vs with
  | nil => intro next _; exact ⟨[], [], rfl, rfl, rfl, rfl⟩
  | cons v vs ih =>
    intro next h
    rw [List.forall_mem_cons] at h
    obtain ⟨d, hd, hstep⟩ := casesOf_cons_of_isIntegerCase h.1 next
    obtain ⟨ds, cases, hds, hcases, hnames, hliterals⟩ := ih (d + 1) h.2
    refine ⟨d :: ds, ⟨v.name, .int (Int64.ofInt d)⟩ :: cases, ?_, ?_, ?_, ?_⟩
    · rw [discriminants?, hd, Option.bind_some, hds, Option.map_some]
    · rw [hstep, hcases]
    · rw [List.map_cons, List.map_cons, hnames]
    · rw [List.map_cons, List.map_cons, hliterals]

theorem casesOf_eq_nil_iff : (casesOf (.integer t) 0 vs).2 = [] ↔ ∀ v ∈ vs, IsIntegerCase v := by
  refine ⟨isIntegerCase_of_casesOf, fun h => ?_⟩
  obtain ⟨-, cases, -, hcases, -⟩ := casesOf_of_isIntegerCase (t := t) 0 h
  exact congrArg Prod.snd hcases

/-! ## Key enumerations over integers -/

/-- The integer that a case is stored under. -/
def EnumCase.integer? (c : EnumCase) : Option ℤ :=
  match c.literal with
  | .text _ => none
  | .int i => some i.toInt

theorem map_integer?_of_literals {cases : List EnumCase} {ds : List ℤ}
    (h : cases.map EnumCase.literal = ds.map fun d => .int (Int64.ofInt d))
    (hholds : ∀ d ∈ ds, t.Holds d) :
    cases.map EnumCase.integer? = ds.map fun d => some (storedInteger d) := by
  induction cases generalizing ds with
  | nil =>
    rw [List.map_nil, eq_comm, List.map_eq_nil_iff] at h
    rw [h, List.map_nil, List.map_nil]
  | cons c cases ih =>
    obtain ⟨d, ds', rfl, hc, hcases⟩ := List.map_eq_cons_iff.mp h.symm
    rw [List.forall_mem_cons] at hholds
    have hinteger : c.integer? = some (storedInteger d) := by
      unfold EnumCase.integer?
      rw [← hc]
      exact congrArg some (toInt_ofInt_of_holds hholds.1)
    rw [List.map_cons, List.map_cons, hinteger, ih hcases.symm hholds.2]

/-- A type is only found if no `repr` attribute is reported. -/
theorem reprOf_snd_of_some {as : List Attribute} : ∀ {found : Option IntegerType},
    (reprOf as found).1 = some t → (reprOf as found).2 = none := by
  induction as with
  | nil => intro found _; rfl
  | cons a as ih =>
    intro found h
    unfold reprOf at h ⊢
    split at h
    · cases h
    · exact ih h

theorem integerRepr_snd_of_some {attrs : List Attribute} (h : (integerRepr attrs).1 = some t) :
    (integerRepr attrs).2 = [] := by
  have hnone := reprOf_snd_of_some h
  unfold integerRepr
  simp only [hnone, Option.map_none, Option.toList_none]

namespace KeyEnum

/-- Every case is stored as its discriminant. -/
def Stores (k : KeyEnum) (ds : List ℤ) : Prop := k.cases.map EnumCase.integer? = ds.map some

variable {attrs : List Attribute} {ds : List ℤ}

theorem ofParts_of_integerRepr (name : Ident) (h : (integerRepr attrs).1 = some t) :
    ofParts name attrs vs =
      (⟨name, derivesCodingKey attrs, .integer t, (casesOf (.integer t) 0 vs).1⟩,
        (casesOf (.integer t) 0 vs).2.map fun f => .ofProblem (.invalidKey f)) := by
  have hrepr : integerRepr attrs = (some t, []) := Prod.ext h (integerRepr_snd_of_some h)
  unfold ofParts
  simp only [hrepr, Option.map_some, Option.getD_some, List.nil_append]

/-- Let all discriminants be integers of the type. Nothing is reported exactly if the cases have
    no `key` attribute and give integers of a magnitude below `2 ^ 63`. Then every case is stored
    as its discriminant if all of these are below `2 ^ 63`, and only then: larger ones are stored
    as negative integers. Only `u64` and `usize` have larger ones. -/
theorem ofParts_discriminants (name : Ident) (hrepr : (integerRepr attrs).1 = some t)
    (hunit : ∀ v ∈ vs, v.payload = none) (hds : discriminants? 0 vs = some ds)
    (hholds : ∀ d ∈ ds, t.Holds d) :
    ((ofParts name attrs vs).2 = [] ↔ ∀ v ∈ vs, keyAttribute? v = none ∧
      ∀ e z, v.discriminant = some e → integerOf? e = some z → |z| < 2 ^ 63) ∧
    ((ofParts name attrs vs).2 = [] →
      (ofParts name attrs vs).1.cases.map EnumCase.name = vs.map Variant.name ∧
      (ofParts name attrs vs).1.cases.map EnumCase.integer? =
        ds.map (fun d => some (storedInteger d)) ∧
      ((ofParts name attrs vs).1.Stores ds ↔ ∀ d ∈ ds, d < 2 ^ 63) ∧
      (t ≠ .u64 → t ≠ .usize → (ofParts name attrs vs).1.Stores ds)) := by
  rw [ofParts_of_integerRepr name hrepr, List.map_eq_nil_iff, casesOf_eq_nil_iff]
  refine ⟨forall₂_congr fun v hv => ?_, fun h => ?_⟩
  · exact isIntegerCase_iff (hunit v hv) (exists_integerOf?_of_discriminants? hds v hv)
  obtain ⟨ds', cases, hds', hcases, hnames, hliterals⟩ := casesOf_of_isIntegerCase (t := t) 0 h
  obtain rfl : ds' = ds := Option.some.inj (hds'.symm.trans hds)
  have hintegers := map_integer?_of_literals hliterals hholds
  have hcases' : (casesOf (.integer t) 0 vs).1 = cases := congrArg Prod.fst hcases
  unfold Stores
  rw [hcases', hintegers, map_storedInteger_eq_iff]
  refine ⟨hnames, rfl, Iff.rfl, fun hu64 husize d hd => ?_⟩
  exact (hholds d hd).2.trans_le (IntegerType.bound_le_of_ne hu64 husize)

/-- The attribute that names a type. -/
def reprAttribute (t : IntegerType) : Attribute :=
  ⟨false, ⟨false, [.ofName "repr"]⟩, .arguments .paren [.ident (.ofName t.name)]⟩

/-- A case that holds no data. -/
def unitCase (name : String) (discriminant : Option Expr) : Variant :=
  ⟨[], .ofName name, none, discriminant⟩

/-- Four cases, two of which give an integer. -/
def countedCases : List Variant :=
  [unitCase "A" none, unitCase "B" (some (.literal [] "10")), unitCase "C" none,
    unitCase "D" (some (.negation [] (.literal [] "2")))]

/-- Given integers and those after them are stored. -/
theorem ofParts_discriminants_i32 :
    let k := ofParts (.ofName "Keys") [reprAttribute .i32] countedCases
    discriminants? 0 countedCases = some [0, 10, 11, -2] ∧ k.2 = [] ∧
      k.1.Stores [0, 10, 11, -2] := by
  intro k
  have hrepr : (integerRepr [reprAttribute .i32]).1 = some .i32 := by decide +kernel
  have hunit : ∀ v ∈ countedCases, v.payload = none := by simp [countedCases, unitCase]
  have hds : discriminants? 0 countedCases = some [0, 10, 11, -2] := by decide +kernel
  have hholds : ∀ d ∈ [0, 10, 11, -2], IntegerType.i32.Holds d := by
    unfold IntegerType.Holds
    decide
  have hnil : k.2 = [] := by decide +kernel
  obtain ⟨-, hstored⟩ := ofParts_discriminants (.ofName "Keys") hrepr hunit hds hholds
  exact ⟨hds, hnil, (hstored hnil).2.2.2 (by decide) (by decide)⟩

/-- A case at the largest signed integer of 64 bits, and one after it. -/
def largeCases (discriminant : Option Expr) : List Variant :=
  [unitCase "A" (some (.literal [] "9223372036854775807")), unitCase "B" discriminant]

/-- The discriminant after the largest signed one is an integer of `u64`. Nothing is reported, and
    the case is stored as the least signed integer. -/
theorem ofParts_wraps_u64 :
    let k := ofParts (.ofName "Keys") [reprAttribute .u64] (largeCases none)
    (integerRepr [reprAttribute .u64]).1 = some .u64 ∧
    (∀ v ∈ largeCases none, v.payload = none) ∧
    discriminants? 0 (largeCases none) = some [2 ^ 63 - 1, 2 ^ 63] ∧
    (∀ d ∈ [2 ^ 63 - 1, 2 ^ 63], IntegerType.u64.Holds d) ∧
    k.2 = [] ∧ k.1.cases.map EnumCase.integer? = [some (2 ^ 63 - 1), some (-2 ^ 63)] ∧
    ¬ k.1.Stores [2 ^ 63 - 1, 2 ^ 63] := by
  intro k
  have hintegers : k.1.cases.map EnumCase.integer? = [some (2 ^ 63 - 1), some (-2 ^ 63)] := by
    decide +kernel
  refine ⟨by decide +kernel, by simp [largeCases, unitCase], by decide +kernel, ?_,
    by decide +kernel, hintegers, ?_⟩
  · unfold IntegerType.Holds
    decide
  · unfold Stores
    rw [hintegers]
    decide

-- The same discriminant is refused if it is given.
example : (ofParts (.ofName "Keys") [reprAttribute .u64]
    (largeCases (some (.literal [] "9223372036854775808")))).2 =
      [.ofProblem (.invalidKey (.notInteger "B"))] := by decide +kernel

end KeyEnum

end KeyedRecords.Description

import KeyedRecords.Proofs.Description.Discriminants
import KeyedRecords.Proofs.Source.IntegerLiteral

/-!
# Which integers a case can give

An integer literal under signs and parentheses is read with 64 bits, and signs are applied to what
was read. So the magnitude has to fit by itself: of all integers of 64 bits only the least one
cannot be given, since its magnitude does not fit. No sign overflows for the same reason.

Results:
* `integerValue?_eq_some_iff`: what is read of an expression is the integer that it denotes.
* `integer_accepted_iff`: which integers are read, and what becomes of a case that gives one.
* `integer_refused_least`: the least integer is refused.
-/

namespace KeyedRecords.Description

open Source

/-- The expression is an integer literal under signs and parentheses and denotes the integer. -/
inductive Denotes : Expr → ℤ → Prop
  | literal {attrs : Tokens} {text : String} {n : ℕ} (written : Literal.Writes text n) :
    Denotes (.literal attrs text) n
  | negation {attrs : Tokens} {e : Expr} {z : ℤ} (operand : Denotes e z) :
    Denotes (.negation attrs e) (-z)
  | paren {attrs : Tokens} {e : Expr} {z : ℤ} (inside : Denotes e z) : Denotes (.paren attrs e) z
  | group {e : Expr} {z : ℤ} (inside : Denotes e z) : Denotes (.group e) z

variable {e : Expr} {z : ℤ} {i : Int64}

theorem integerOf?_literal {attrs : Tokens} {text : String} :
    integerOf? (.literal attrs text) = some z ↔ ∃ n : ℕ, Literal.Writes text n ∧ (n : ℤ) = z := by
  simp only [← Literal.naturalValue?_eq_some_iff]
  unfold integerOf?
  cases Literal.naturalValue? text with
  | none => simp
  | some n => simp

theorem denotes_iff : Denotes e z ↔ integerOf? e = some z := by
  constructor
  · intro h
    induction h with
    | literal written => exact integerOf?_literal.mpr ⟨_, written, rfl⟩
    | negation _ ih => rw [integerOf?, ih, Option.map_some]
    | paren _ ih => exact ih
    | group _ ih => exact ih
  · intro h
    induction e generalizing z with
    | literal attrs text =>
      obtain ⟨n, hn, rfl⟩ := integerOf?_literal.mp h
      exact .literal hn
    | negation attrs e ih =>
      obtain ⟨z', hz', rfl⟩ := Option.map_eq_some_iff.mp h
      exact .negation (ih hz')
    | paren attrs e ih => exact .paren (ih h)
    | group e ih => exact .group (ih h)
    | other ts => cases h

theorem ne_minValue_iff : i ≠ Int64.minValue ↔ i.toInt ≠ -2 ^ 63 := by
  rw [← Int64.toInt_inj.ne]
  rfl

/-- A sign overflows only before the least integer. -/
theorem toInt_neg_of_ne_minValue (h : i ≠ Int64.minValue) : (-i).toInt = -i.toInt := by
  have hne := ne_minValue_iff.mp h
  have hle := i.le_toInt
  have hlt := i.toInt_lt
  rw [Int64.toInt_neg, Int.bmod_eq_of_le (by omega) (by omega)]

/-- What is read of an expression is the integer that it denotes, and never the least one. -/
theorem integerValue?_eq_some_iff :
    integerValue? e = some i ↔ Denotes e i.toInt ∧ i ≠ Int64.minValue := by
  have hle := i.le_toInt
  have hlt := i.toInt_lt
  rw [integerValue?_eq, denotes_iff, ne_minValue_iff]
  simp only [Option.map_eq_some_iff, Option.filter_eq_some_iff, decide_eq_true_eq]
  constructor
  · rintro ⟨z, ⟨hz, habs⟩, rfl⟩
    obtain ⟨hgt, hlt⟩ := abs_lt.mp habs
    rw [Int64.toInt_ofInt_of_le hgt.le hlt]
    exact ⟨hz, hgt.ne'⟩
  · rintro ⟨hz, hne⟩
    exact ⟨i.toInt, ⟨hz, abs_lt.mpr ⟨lt_of_le_of_ne hle hne.symm, hlt⟩⟩, Int64.ofInt_toInt i⟩

theorem integerValue?_of_denotes (h : Denotes e z) (hgt : -2 ^ 63 < z) (hlt : z < 2 ^ 63) :
    integerValue? e = some (Int64.ofInt z) := by
  have hz : (Int64.ofInt z).toInt = z := Int64.toInt_ofInt_of_le hgt.le hlt
  refine integerValue?_eq_some_iff.mpr ⟨hz.symm ▸ h, fun hleast => ?_⟩
  rw [hleast] at hz
  exact hgt.ne hz

theorem isSome_integerValue?_iff (h : Denotes e z) :
    (integerValue? e).isSome ↔ -2 ^ 63 < z ∧ z < 2 ^ 63 := by
  constructor
  · intro hsome
    obtain ⟨i, hi⟩ := Option.isSome_iff_exists.mp hsome
    obtain ⟨w, hw, habs⟩ := exists_integerValue?_iff.mp ⟨i, hi⟩
    rw [denotes_iff.mp h, Option.some_inj] at hw
    exact abs_lt.mp (hw ▸ habs)
  · rintro ⟨hgt, hlt⟩
    rw [integerValue?_of_denotes h hgt hlt]
    rfl

/-- What a sign is applied to is never the least integer. -/
theorem exists_of_integerValue?_negation {attrs : Tokens}
    (h : integerValue? (.negation attrs e) = some i) :
    ∃ j, integerValue? e = some j ∧ i.toInt = -j.toInt := by
  rw [integerValue?, Option.map_eq_some_iff] at h
  obtain ⟨j, hj, rfl⟩ := h
  exact ⟨j, hj, toInt_neg_of_ne_minValue (integerValue?_eq_some_iff.mp hj).2⟩

/-- A case is stored under the integer that it gives, or reported if that is the least one. -/
theorem caseLiteral_of_denotes {t : IntegerType} {next : Int64} {v : Variant}
    (hunit : v.payload = none) (hkey : keyAttribute? v = none) (he : v.discriminant = some e)
    (hz : Denotes e z) (hle : -2 ^ 63 ≤ z) (hlt : z < 2 ^ 63) :
    caseLiteral (.integer t) next v =
      if z = -2 ^ 63 then (none, some (.notInteger v.name.text))
      else (some (.int (Int64.ofInt z)), none) := by
  have hread : integerValue? e = if z = -2 ^ 63 then none else some (Int64.ofInt z) := by
    split_ifs with hleast
    · rw [← Option.not_isSome_iff_eq_none, isSome_integerValue?_iff hz, hleast]
      exact fun h => h.1.false
    · exact integerValue?_of_denotes hz (lt_of_le_of_ne hle (Ne.symm hleast)) hlt
  unfold caseLiteral integerLiteral
  rw [hunit, hkey, he]
  simp only [hread, Option.isSome_none, Bool.false_eq_true, if_false]
  split_ifs <;> rfl

/-- An expression is read as the integer that it denotes if the integer fits in 64 bits and is not
    the least one; any other is refused. A sign is only applied where its result fits. A case that
    gives an integer of 64 bits is stored under it, and reported if it is the least one. -/
theorem integer_accepted_iff (e : Expr) :
    (∀ i, integerValue? e = some i ↔ Denotes e i.toInt ∧ i ≠ Int64.minValue) ∧
    (∀ z, Denotes e z → ((integerValue? e).isSome ↔ -2 ^ 63 < z ∧ z < 2 ^ 63)) ∧
    (∀ attrs i, integerValue? (.negation attrs e) = some i →
      ∃ j, integerValue? e = some j ∧ i.toInt = -j.toInt) ∧
    ∀ (t : IntegerType) (next : Int64) (v : Variant) (z : ℤ), v.payload = none →
      keyAttribute? v = none → v.discriminant = some e → Denotes e z → -2 ^ 63 ≤ z → z < 2 ^ 63 →
        caseLiteral (.integer t) next v =
          if z = -2 ^ 63 then (none, some (.notInteger v.name.text))
          else (some (.int (Int64.ofInt z)), none) := by
  exact ⟨fun _ => integerValue?_eq_some_iff, fun _ => isSome_integerValue?_iff,
    fun _ _ => exists_of_integerValue?_negation,
    fun _ _ _ _ hunit hkey he hz hle hlt => caseLiteral_of_denotes hunit hkey he hz hle hlt⟩

/-- The integer of largest magnitude, under three signs, with a mark, underscores and a suffix. -/
def largestNegated : Expr :=
  .negation [] (.paren [] (.negation [] (.group (.negation []
    (.literal [] "0x7fff_FFFF_ffff_FFFFi64")))))

/-- The integer is stored, and one more sign does not overflow. -/
theorem integer_accepted_largestNegated :
    let v := KeyEnum.unitCase "A" (some largestNegated)
    Denotes largestNegated (-2 ^ 63 + 1) ∧ (integerValue? largestNegated).isSome ∧
      (∃ i j, integerValue? (.negation [] largestNegated) = some i ∧
        integerValue? largestNegated = some j ∧ i.toInt = -j.toInt) ∧
      v.payload = none ∧ keyAttribute? v = none ∧ v.discriminant = some largestNegated ∧
      caseLiteral (.integer .i64) 0 v = (some (.int (Int64.ofInt (-2 ^ 63 + 1))), none) := by
  intro v
  obtain ⟨-, hsome, hsign, hcase⟩ := integer_accepted_iff largestNegated
  have hdenotes : Denotes largestNegated (-2 ^ 63 + 1) := denotes_iff.mpr (by decide +kernel)
  have hnegated : integerValue? (.negation [] largestNegated) =
      some (Int64.ofInt (2 ^ 63 - 1)) := by decide +kernel
  obtain ⟨j, hj, hi⟩ := hsign [] _ hnegated
  refine ⟨hdenotes, (hsome _ hdenotes).mpr (by decide), ⟨_, j, hnegated, hj, hi⟩, rfl, rfl, rfl, ?_⟩
  rw [hcase .i64 0 v _ rfl rfl rfl hdenotes (by decide) (by decide), if_neg (by decide)]

/-- The least integer of 64 bits is denoted by a literal after a sign, and refused. -/
theorem integer_refused_least :
    let e : Expr := .negation [] (.literal [] "9223372036854775808")
    Denotes e (-2 ^ 63) ∧ integerValue? e = none ∧
      (KeyEnum.ofParts (.ofName "Keys") [KeyEnum.reprAttribute .i64]
        [KeyEnum.unitCase "A" (some e)]).2 = [.ofProblem (.invalidKey (.notInteger "A"))] := by
  intro e
  exact ⟨denotes_iff.mpr (by decide +kernel), by decide +kernel, by decide +kernel⟩

end KeyedRecords.Description

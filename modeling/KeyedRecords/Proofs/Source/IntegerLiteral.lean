import Mathlib.Data.Nat.Digits.Defs
import KeyedRecords.Source.Literal
import KeyedRecords.Proofs.Source.Lexer

/-!
# Integer literals

An integer is written with a mark that announces its base, its digits, most significant first and
with underscores among them, and perhaps a suffix. Without a mark it is decimal and begins with a
digit. What follows the digits is a suffix only if it cannot be taken for more digits or for an
exponent.

Results:
* `digitsValue_eq_some_iff`: what is read as digits up to a suffix.
* `naturalValue?_eq_some_iff`: a literal is read as a number exactly if it writes that number.
-/

namespace KeyedRecords.Source.Literal

/-! ## How integers are written -/

/-- The base that an integer is written in. -/
inductive Base
  | binary
  | octal
  | decimal
  | hexadecimal
  deriving DecidableEq, Repr

namespace Base

/-- The number of digits of a base. -/
def radix : Base → ℕ
  | binary => 2
  | octal => 8
  | decimal => 10
  | hexadecimal => 16

/-- What announces a base. -/
def mark : Base → List Char
  | binary => ['0', 'b']
  | octal => ['0', 'o']
  | decimal => []
  | hexadecimal => ['0', 'x']

/-- Whether the character is a digit of the base. -/
def hasDigit (b : Base) (c : Char) : Bool := (hexDigit? c).any fun d => d < b.radix

/-- Whether the character can stand among the digits. -/
def takes (b : Base) (c : Char) : Bool := c == '_' || b.hasDigit c

theorem radix_eq_ten_iff {b : Base} : b.radix = 10 ↔ b = decimal := by cases b <;> decide

theorem radix_eq_of_ten_lt {b : Base} : 10 < b.radix → b.radix = 16 := by cases b <;> decide

end Base

/-- The number that digits write, the most significant first. Underscores have no value. -/
def number (b : Base) (digits : List Char) : ℕ :=
  Nat.ofDigits b.radix (digits.filterMap hexDigit?).reverse

/-- An exponent: its letter, underscores and a digit. -/
def IsExponent (cs : List Char) : Prop :=
  ∃ letter underscores digit rest, cs = letter :: (underscores ++ digit :: rest) ∧
    (letter = 'e' ∨ letter = 'E') ∧ (∀ c ∈ underscores, c = '_') ∧ isDigit digit

/-- Digits and the suffix after them: nothing, or a name that does not go on the digits and is no
    exponent. -/
structure DigitsAndSuffix (b : Base) (digits suffix : List Char) : Prop where
  taken : ∀ c ∈ digits, b.takes c
  some_digit : ∃ c ∈ digits, b.hasDigit c
  name : suffix = [] ∨ afterName suffix = some []
  ends : ∀ c ∈ suffix.head?, b.takes c = false
  noExponent : b = .decimal → ¬ IsExponent suffix

/-- The text of a literal that writes the number in some base. -/
def Writes (text : String) (n : ℕ) : Prop :=
  ∃ b digits suffix, text.toList = b.mark ++ (digits ++ suffix) ∧ DigitsAndSuffix b digits suffix ∧
    (b = .decimal → (∃ c ∈ digits.head?, isDigit c) ∧
      ∀ b' ≠ Base.decimal, ¬ b'.mark <+: digits ++ suffix) ∧
    number b digits = n

variable {b : Base} {c : Char} {cs digits suffix rest : List Char} {value n : ℕ} {any : Bool}

/-! ## Digits -/

theorem number_eq_foldl :
    number b digits = (digits.filterMap hexDigit?).foldl (fun v d => b.radix * v + d) 0 := by
  unfold number
  rw [Nat.ofDigits_eq_foldr, List.foldr_reverse]
  simp only [Nat.cast_id, add_comm]

/-- Underscores are skipped and digits are added at the end. -/
theorem digitsValue_append (htaken : ∀ c ∈ digits, b.takes c) :
    digitsValue b.radix value any (digits ++ suffix) =
      digitsValue b.radix ((digits.filterMap hexDigit?).foldl (fun v d => b.radix * v + d) value)
        (any || digits.any b.hasDigit) suffix := by
  induction digits generalizing value any with
  | nil => simp
  | cons c digits ih =>
    rw [List.forall_mem_cons] at htaken
    by_cases hc : c = '_'
    · subst hc
      have hnone : hexDigit? '_' = none := by decide
      rw [List.cons_append, digitsValue, if_pos rfl, ih htaken.2, List.filterMap_cons, hnone,
        List.any_cons, Base.hasDigit, hnone, Option.any_none, Bool.false_or]
    · have hdigit : b.hasDigit c := by simpa [Base.takes, hc] using htaken.1
      obtain ⟨d, hd, hlt⟩ := (Option.any_eq_true _ _).mp hdigit
      rw [decide_eq_true_eq] at hlt
      have hfilter : (hexDigit? c).filter (fun d => d < 10 || 10 < b.radix) = some d := by
        have hten : d < 10 ∨ 10 < b.radix :=
          (Nat.lt_or_ge 10 b.radix).symm.imp_left hlt.trans_le
        rw [hd, Option.filter_some, if_pos (by simpa using hten)]
      rw [List.cons_append, digitsValue, if_neg hc, hfilter]
      simp only [hlt, if_true]
      rw [ih htaken.2, List.filterMap_cons, hd, List.any_cons, hdigit]
      simp only [List.foldl_cons, Bool.true_or, Bool.or_true]

/-! ## What follows the digits -/

theorem hexDigit?_lt {d : ℕ} (h : hexDigit? c = some d) : d < 16 := by
  unfold hexDigit? at h
  split_ifs at h with hdigit hlower hupper
  · have hle : c.toNat ≤ 57 := hdigit.2
    cases h
    omega
  · have hle : c.toNat ≤ 102 := hlower.2
    cases h
    omega
  · have hle : c.toNat ≤ 70 := hupper.2
    cases h
    omega

theorem startsName_of_afterName (h : afterName (c :: rest) = some []) :
    startsName c ∧ ∀ d ∈ rest, continuesName d := by
  obtain ⟨⟨_, ⟨⟩, hstarts⟩, hcontinues⟩ := afterName_eq_nil_iff.mp h
  exact ⟨hstarts, hcontinues⟩

theorem isExponent_cons_iff : IsExponent (c :: rest) ↔
    (c = 'e' ∨ c = 'E') ∧ ∃ d ∈ (rest.dropWhile (· == '_')).head?, isDigit d := by
  constructor
  · rintro ⟨letter, underscores, digit, more, heq, hletter, hunderscores, hdigit⟩
    obtain ⟨rfl, rfl⟩ := List.cons.inj heq
    have hne : digit ≠ '_' := by
      rintro rfl
      cases hdigit
    refine ⟨hletter, digit, ?_, hdigit⟩
    rw [List.dropWhile_append_of_pos fun c hc => by rw [hunderscores c hc]; rfl,
      List.dropWhile_cons_of_neg (by simpa using hne)]
    rfl
  · rintro ⟨hletter, d, hd, hdigit⟩
    obtain ⟨more, hmore⟩ := List.head?_eq_some_iff.mp hd
    refine ⟨c, rest.takeWhile (· == '_'), d, more, ?_, hletter, fun e he => ?_, hdigit⟩
    · rw [← hmore, List.takeWhile_append_dropWhile]
    · simpa using List.mem_takeWhile_imp he

/-- Where the digits end, nothing is read or all that was read before. -/
theorem digitsValue_of_ends (hends : ∀ c ∈ suffix.head?, b.takes c = false) :
    digitsValue b.radix value any suffix = none ∨
      digitsValue b.radix value any suffix = some (value, suffix) := by
  cases suffix with
  | nil => cases any <;> simp [digitsValue]
  | cons c rest =>
    have hc := hends c rfl
    rw [Base.takes, Bool.or_eq_false_iff] at hc
    cases hd : (hexDigit? c).filter fun d => d < 10 || 10 < b.radix with
    | some d =>
      have hlt : ¬ d < b.radix := by
        have hdigit := hc.2
        rw [Base.hasDigit, (Option.filter_eq_some_iff.mp hd).1] at hdigit
        simpa using hdigit
      rw [digitsValue, if_neg (by simpa using hc.1), hd]
      exact .inl (if_neg hlt)
    | none =>
      rw [digitsValue, if_neg (by simpa using hc.1), hd]
      simp only
      split_ifs <;> simp

/-- No sign stands within a name, so only a digit makes an exponent of one. -/
theorem isExponent_iff_of_name (hcontinues : ∀ d ∈ rest, continuesName d) :
    IsExponent (c :: rest) ↔ (c = 'e' ∨ c = 'E') ∧
      ((rest.dropWhile (· == '_')).head?.any fun d => isDigit d || d == '+' || d == '-') := by
  rw [isExponent_cons_iff, Option.any_eq_true]
  refine and_congr_right fun _ => exists_congr fun d => and_congr_right fun hd => ?_
  have hmem : d ∈ rest := (List.dropWhile_suffix _).subset (List.mem_of_mem_head? hd)
  have hnot : d ∉ separators := not_mem_of_continuesName (hcontinues d hmem)
  have hplus : d ≠ '+' := ne_of_not_mem hnot (by decide)
  have hminus : d ≠ '-' := ne_of_not_mem hnot (by decide)
  simp [hplus, hminus]

/-- A letter that starts a name is a digit of this base or of none. -/
theorem filter_hexDigit?_of_startsName (hstarts : startsName c) (hnot : b.hasDigit c = false) :
    (hexDigit? c).filter (fun d => d < 10 || 10 < b.radix) = none := by
  rw [Option.filter_eq_none_iff]
  intro d hd
  have hlt : ¬ d < b.radix := by simpa [Base.hasDigit, hd] using hnot
  have hten : ¬ d < 10 := by
    intro h
    have hdigit := lt_ten_of_hexDigit? hd h
    rw [isDigit_of_startsName hstarts] at hdigit
    cases hdigit
  have hbase : ¬ 10 < b.radix := by
    intro h
    have hsixteen := hexDigit?_lt hd
    exact hlt (by rwa [Base.radix_eq_of_ten_lt h])
  simp [hten, hbase]

/-- Before a suffix the number is complete, if a digit was read. -/
theorem digitsValue_of_name (hends : ∀ c ∈ suffix.head?, b.takes c = false)
    (hname : suffix = [] ∨ afterName suffix = some []) :
    digitsValue b.radix value any suffix = some (value, suffix) ↔
      any = true ∧ (b = .decimal → ¬ IsExponent suffix) := by
  rcases hname with rfl | hname
  · have hnot : ¬ IsExponent [] := by
      rintro ⟨letter, underscores, digit, rest, heq, -⟩
      cases heq
    cases any <;> simp [digitsValue, hnot]
  · cases suffix with
    | nil => cases hname
    | cons c rest =>
      obtain ⟨hstarts, hcontinues⟩ := startsName_of_afterName hname
      have htakes := hends c rfl
      rw [Base.takes, Bool.or_eq_false_iff, beq_eq_false_iff_ne] at htakes
      have hdot : c ≠ '.' := ne_of_not_mem (not_mem_of_startsName hstarts) (by decide)
      rw [digitsValue, if_neg htakes.1, filter_hexDigit?_of_startsName hstarts htakes.2,
        isExponent_iff_of_name hcontinues]
      simp only [hdot, and_false, if_false, Base.radix_eq_ten_iff]
      by_cases hexponent : b = .decimal ∧ (c = 'e' ∨ c = 'E')
      · rw [if_pos hexponent]
        simp only [hexponent.1, hexponent.2, true_and, forall_const]
        split_ifs with hsign hany
        · simp [hsign]
        · simp [hsign, hany]
        · simp [hany]
      · have hno : b = .decimal → ¬ ((c = 'e' ∨ c = 'E') ∧
            ((rest.dropWhile (· == '_')).head?.any fun d => isDigit d || d == '+' || d == '-')) :=
          fun hten h => hexponent ⟨hten, h.1⟩
        rw [if_neg hexponent]
        split_ifs with hany
        · exact iff_of_true rfl ⟨hany, hno⟩
        · exact iff_of_false (by simp) fun h => hany h.1

/-- Digits are read up to a suffix exactly if they and the suffix are written so. -/
theorem digitsValue_eq_some_iff (hname : suffix = [] ∨ afterName suffix = some []) :
    digitsValue b.radix 0 false cs = some (n, suffix) ↔
      ∃ digits, cs = digits ++ suffix ∧ DigitsAndSuffix b digits suffix ∧ number b digits = n := by
  constructor
  · intro h
    have hsplit : cs.takeWhile b.takes ++ cs.dropWhile b.takes = cs := List.takeWhile_append_dropWhile
    have htaken : ∀ c ∈ cs.takeWhile b.takes, b.takes c := fun c hc => List.mem_takeWhile_imp hc
    have hends : ∀ c ∈ (cs.dropWhile b.takes).head?, b.takes c = false := by
      intro c hc
      have hnot := List.head?_dropWhile_not b.takes cs
      rwa [hc] at hnot
    rw [← hsplit, digitsValue_append htaken, ← number_eq_foldl] at h
    rcases digitsValue_of_ends hends with hnone | hsome
    · rw [hnone] at h
      cases h
    · have hboth := hsome
      rw [h] at hboth
      obtain ⟨rfl, rfl⟩ := Prod.mk.inj (Option.some.inj hboth)
      obtain ⟨hany, hexponent⟩ := (digitsValue_of_name hends hname).mp hsome
      refine ⟨_, hsplit.symm, ⟨htaken, ?_, hname, hends, hexponent⟩, rfl⟩
      simpa using hany
  · rintro ⟨digits, rfl, h, rfl⟩
    have hany : (false || digits.any b.hasDigit) = true := by
      simpa using h.some_digit
    rw [digitsValue_append h.taken, ← number_eq_foldl]
    exact (digitsValue_of_name h.ends h.name).mpr ⟨hany, h.noExponent⟩

/-! ## Whole literals -/

theorem numberBase_of_mark (hb : b ≠ .decimal) : numberBase (b.mark ++ cs) = (b.radix, cs) := by
  cases b with
  | decimal => exact absurd rfl hb
  | _ => rfl

theorem numberBase_of_unmarked (h : ∀ b ≠ Base.decimal, ¬ b.mark <+: cs) :
    numberBase cs = (Base.decimal.radix, cs) := by
  unfold numberBase
  split
  · exact absurd (List.prefix_append _ _) (h .hexadecimal (by decide))
  · exact absurd (List.prefix_append _ _) (h .octal (by decide))
  · exact absurd (List.prefix_append _ _) (h .binary (by decide))
  · rfl

theorem isSuffix_iff : isSuffix cs = true ↔ cs = [] ∨ afterName cs = some [] := by
  unfold isSuffix
  rw [Bool.or_eq_true, List.isEmpty_iff, beq_iff_eq]

theorem naturalValue?_of_numberBase {text : String} (h : numberBase text.toList = (b.radix, cs)) :
    naturalValue? text = some n ↔ (b = .decimal → ∃ c ∈ cs.head?, isDigit c) ∧
      ∃ digits suffix, cs = digits ++ suffix ∧ DigitsAndSuffix b digits suffix ∧
        number b digits = n := by
  have hread : ((digitsValue b.radix 0 false cs).filter fun r => isSuffix r.2).map Prod.fst =
      some n ↔ ∃ digits suffix, cs = digits ++ suffix ∧ DigitsAndSuffix b digits suffix ∧
        number b digits = n := by
    simp only [Option.map_eq_some_iff, Option.filter_eq_some_iff]
    constructor
    · rintro ⟨⟨value, suffix⟩, ⟨hvalue, hsuffix⟩, rfl⟩
      obtain ⟨digits, hread⟩ := (digitsValue_eq_some_iff (isSuffix_iff.mp hsuffix)).mp hvalue
      exact ⟨digits, suffix, hread⟩
    · rintro ⟨digits, suffix, hcs, hwritten, hn⟩
      have hvalue := (digitsValue_eq_some_iff hwritten.name).mpr ⟨digits, hcs, hwritten, hn⟩
      exact ⟨(n, suffix), ⟨hvalue, isSuffix_iff.mpr hwritten.name⟩, rfl⟩
  unfold naturalValue?
  simp only [h]
  rw [Option.ite_none_right_eq_some, hread, Bool.or_eq_true, bne_iff_ne, ne_eq,
    Base.radix_eq_ten_iff, ← imp_iff_not_or, Option.any_eq_true]
  rfl

/-- A literal is read as a number exactly if it writes that number in some base. -/
theorem naturalValue?_eq_some_iff {text : String} : naturalValue? text = some n ↔ Writes text n := by
  constructor
  · intro h
    by_cases hmarked : ∃ b ≠ Base.decimal, b.mark <+: text.toList
    · obtain ⟨b, hb, rest, hrest⟩ := hmarked
      have hbase : numberBase text.toList = (b.radix, rest) := by
        rw [← hrest, numberBase_of_mark hb]
      obtain ⟨-, digits, suffix, rfl, hwritten, hn⟩ := (naturalValue?_of_numberBase hbase).mp h
      exact ⟨b, digits, suffix, hrest.symm, hwritten, fun hten => absurd hten hb, hn⟩
    · push Not at hmarked
      obtain ⟨hfirst, digits, suffix, hcs, hwritten, hn⟩ :=
        (naturalValue?_of_numberBase (numberBase_of_unmarked hmarked)).mp h
      obtain ⟨c, hc, -⟩ := hwritten.some_digit
      refine ⟨.decimal, digits, suffix, hcs, hwritten, fun _ => ⟨?_, hcs ▸ hmarked⟩, hn⟩
      rw [← List.head?_append_of_ne_nil digits (List.ne_nil_of_mem hc), ← hcs]
      exact hfirst rfl
  · rintro ⟨b, digits, suffix, htext, hwritten, hdecimal, hn⟩
    by_cases hb : b = .decimal
    · obtain ⟨⟨c, hc, hdigit⟩, hunmarked⟩ := hdecimal hb
      subst hb
      have hbase : numberBase text.toList = (Base.decimal.radix, digits ++ suffix) := by
        rw [htext]
        exact numberBase_of_unmarked hunmarked
      refine (naturalValue?_of_numberBase hbase).mpr
        ⟨fun _ => ⟨c, ?_, hdigit⟩, digits, suffix, rfl, hwritten, hn⟩
      rw [List.head?_append_of_ne_nil digits (by rintro rfl; cases hc)]
      exact hc
    · have hbase : numberBase text.toList = (b.radix, digits ++ suffix) := by
        rw [htext, numberBase_of_mark hb]
      exact (naturalValue?_of_numberBase hbase).mpr
        ⟨fun hten => absurd hten hb, digits, suffix, rfl, hwritten, hn⟩

end KeyedRecords.Source.Literal

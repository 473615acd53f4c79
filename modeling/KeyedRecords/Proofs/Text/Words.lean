import Mathlib.Data.Bool.AllAny
import Mathlib.Tactic
import KeyedRecords.Proofs.Lists
import KeyedRecords.Text.Words

/-!
# Names that survive a change of case

A name in snake case becomes one in camel case and back, but not every name comes back. Words are
lost where underscores stand next to each other, where a word begins with a digit, and where two
capitals meet: `value_2` becomes `Value2` and then `value2`, and `a_b` becomes `AB` and then `ab`.
The names that come back are those of lowered words which stay apart in camel case.

Case conversion is one to one for the letters considered here (`SimpleChar`): all below U+0080, and
every other letter whose two cases are one character each and become each other.

Results:
* `splitRun_capitalised_iff`: capitalised words are found again where they are joined exactly if
  neighbours stay apart.
* `snakeCase_upperCamelCase_iff`: the names that snake case gives back from camel case.
* `upperCamelCase_snakeCase_iff`: the names that camel case gives back from snake case.
-/

namespace KeyedRecords.Text

/-! ## Letters -/

/-- The two cases of one letter: each becomes the other and nothing else, and both may stand at
    the same places of a name. -/
structure CasePair (small capital : Char) : Prop where
  letters : alphanumeric.holds small ∧ alphanumeric.holds capital
  lower : lowercase.holds small ∧ lowercase.holds capital = false
  upper : uppercase.holds small = false ∧ uppercase.holds capital
  lowered : lowerChars small = [small] ∧ lowerChars capital = [small]
  raised : upperChars small = [capital] ∧ upperChars capital = [capital]
  noSigma : small ≠ 'Σ' ∧ capital ≠ 'Σ'
  starts : identifierStart.holds capital = identifierStart.holds small
  continues : identifierContinue.holds capital = identifierContinue.holds small

/-- A letter or number without cases. -/
structure Caseless (c : Char) : Prop where
  letter : alphanumeric.holds c
  lower : lowercase.holds c = false
  upper : uppercase.holds c = false
  lowered : lowerChars c = [c]
  raised : upperChars c = [c]
  noSigma : c ≠ 'Σ'

/-- A letter in lower case. -/
def IsSmall (c : Char) : Prop := ∃ capital, CasePair c capital

/-- A letter in upper case. -/
def IsCapital (c : Char) : Prop := ∃ small, CasePair small c

/-- What a lowered word consists of. -/
def IsLowered (c : Char) : Prop := Caseless c ∨ IsSmall c

/-- What a capitalised word begins with. -/
def IsRaised (c : Char) : Prop := Caseless c ∨ IsCapital c

/-- A letter or number whose cases are one character each. -/
def SimpleLetter (c : Char) : Prop := Caseless c ∨ IsSmall c ∨ IsCapital c

/-- A character of a name: a simple letter, or one that separates words. -/
def SimpleChar (c : Char) : Prop := alphanumeric.holds c = false ∨ SimpleLetter c

/-- The lower case of a simple letter. -/
def lowerOf (c : Char) : Char := (lowerChars c).headD c

/-- The upper case of a simple letter. -/
def capitalOf (c : Char) : Char := (upperChars c).headD c

section Letters

variable {c : Char}

theorem IsLowered.simple (h : IsLowered c) : SimpleLetter c := h.imp_right .inl

theorem IsRaised.simple (h : IsRaised c) : SimpleLetter c := h.imp_right .inr

theorem SimpleChar.simple (h : SimpleChar c) (hc : alphanumeric.holds c) : SimpleLetter c := by
  rcases h with hnot | h
  · rw [hc] at hnot
    cases hnot
  · exact h

theorem SimpleLetter.alphanumeric (h : SimpleLetter c) : alphanumeric.holds c := by
  rcases h with h | ⟨capital, h⟩ | ⟨small, h⟩
  · exact h.letter
  · exact h.letters.1
  · exact h.letters.2

theorem SimpleLetter.noSigma (h : SimpleLetter c) : c ≠ 'Σ' := by
  rcases h with h | ⟨capital, h⟩ | ⟨small, h⟩
  · exact h.noSigma
  · exact h.noSigma.1
  · exact h.noSigma.2

theorem SimpleLetter.lowerChars (h : SimpleLetter c) : lowerChars c = [lowerOf c] := by
  unfold lowerOf
  rcases h with h | ⟨capital, h⟩ | ⟨small, h⟩
  · rw [h.lowered]; rfl
  · rw [h.lowered.1]; rfl
  · rw [h.lowered.2]; rfl

theorem SimpleLetter.upperChars (h : SimpleLetter c) : upperChars c = [capitalOf c] := by
  unfold capitalOf
  rcases h with h | ⟨capital, h⟩ | ⟨small, h⟩
  · rw [h.raised]; rfl
  · rw [h.raised.1]; rfl
  · rw [h.raised.2]; rfl

theorem CasePair.lowerOf_capital {small capital : Char} (h : CasePair small capital) :
    lowerOf capital = small := by
  unfold lowerOf
  rw [h.lowered.2]
  rfl

theorem CasePair.capitalOf_small {small capital : Char} (h : CasePair small capital) :
    capitalOf small = capital := by
  unfold capitalOf
  rw [h.raised.1]
  rfl

theorem IsLowered.lowerOf_eq (h : IsLowered c) : lowerOf c = c := by
  unfold lowerOf
  rcases h with h | ⟨capital, h⟩
  · rw [h.lowered]; rfl
  · rw [h.lowered.1]; rfl

theorem IsRaised.capitalOf_eq (h : IsRaised c) : capitalOf c = c := by
  unfold capitalOf
  rcases h with h | ⟨small, h⟩
  · rw [h.raised]; rfl
  · rw [h.raised.2]; rfl

theorem SimpleLetter.isLowered (h : SimpleLetter c) : IsLowered (lowerOf c) := by
  rcases h with h | h | ⟨small, h⟩
  · rw [IsLowered.lowerOf_eq (.inl h)]; exact .inl h
  · rw [IsLowered.lowerOf_eq (.inr h)]; exact .inr h
  · rw [h.lowerOf_capital]; exact .inr ⟨c, h⟩

theorem SimpleLetter.isRaised (h : SimpleLetter c) : IsRaised (capitalOf c) := by
  rcases h with h | ⟨capital, h⟩ | h
  · rw [IsRaised.capitalOf_eq (.inl h)]; exact .inl h
  · rw [h.capitalOf_small]; exact .inr ⟨c, h⟩
  · rw [IsRaised.capitalOf_eq (.inr h)]; exact .inr h

theorem IsLowered.lowerOf_capitalOf (h : IsLowered c) : lowerOf (capitalOf c) = c := by
  rcases h with h | ⟨capital, h⟩
  · rw [IsRaised.capitalOf_eq (.inl h), IsLowered.lowerOf_eq (.inl h)]
  · rw [h.capitalOf_small, h.lowerOf_capital]

theorem SimpleLetter.capitalOf_lowerOf (h : SimpleLetter c) :
    capitalOf (lowerOf c) = capitalOf c := by
  rcases h with h | h | ⟨small, h⟩
  · rw [IsLowered.lowerOf_eq (.inl h)]
  · rw [IsLowered.lowerOf_eq (.inr h)]
  · rw [h.lowerOf_capital, h.capitalOf_small, IsRaised.capitalOf_eq (.inr ⟨small, h⟩)]

/-- Of what a lowered word consists of, the letters in lower case are those that have a capital. -/
theorem IsLowered.lowercase_iff (h : IsLowered c) : lowercase.holds c = true ↔ IsSmall c := by
  rcases h with h | ⟨capital, h⟩
  · rw [h.lower]
    exact ⟨nofun, fun ⟨capital, hpair⟩ => absurd hpair.lower.1 (by rw [h.lower]; exact nofun)⟩
  · exact ⟨fun _ => ⟨capital, h⟩, fun _ => h.lower.1⟩

theorem IsLowered.not_uppercase (h : IsLowered c) : uppercase.holds c = false := by
  rcases h with h | ⟨capital, h⟩
  · exact h.upper
  · exact h.upper.1

theorem IsRaised.not_lowercase (h : IsRaised c) : lowercase.holds c = false := by
  rcases h with h | ⟨small, h⟩
  · exact h.lower
  · exact h.lower.2

/-- The beginning of a capitalised word is a capital if its letter has one. -/
theorem IsLowered.uppercase_capitalOf_iff (h : IsLowered c) :
    uppercase.holds (capitalOf c) = true ↔ IsSmall c := by
  rw [← h.lowercase_iff]
  rcases h with h | ⟨capital, h⟩
  · rw [IsRaised.capitalOf_eq (.inl h), h.upper, h.lower]
  · rw [h.capitalOf_small]
    exact ⟨fun _ => h.lower.1, fun _ => h.upper.2⟩

/-- Both cases of a letter may stand at the same places of a name. -/
theorem SimpleLetter.starts (h : SimpleLetter c) :
    identifierStart.holds (capitalOf c) = identifierStart.holds c := by
  rcases h with h | ⟨capital, h⟩ | ⟨small, h⟩
  · rw [IsRaised.capitalOf_eq (.inl h)]
  · rw [h.capitalOf_small, h.starts]
  · rw [IsRaised.capitalOf_eq (.inr ⟨small, h⟩)]

theorem SimpleLetter.continues (h : SimpleLetter c) :
    identifierContinue.holds (lowerOf c) = identifierContinue.holds c ∧
      identifierContinue.holds (capitalOf c) = identifierContinue.holds c := by
  rcases h with h | ⟨capital, h⟩ | ⟨small, h⟩
  · rw [IsRaised.capitalOf_eq (.inl h), IsLowered.lowerOf_eq (.inl h)]
    exact ⟨rfl, rfl⟩
  · rw [h.capitalOf_small, IsLowered.lowerOf_eq (.inr ⟨capital, h⟩)]
    exact ⟨rfl, h.continues⟩
  · rw [IsRaised.capitalOf_eq (.inr ⟨small, h⟩), h.lowerOf_capital]
    exact ⟨h.continues.symm, rfl⟩

end Letters

/-! ## Words -/

/-- A word in lower case. -/
structure IsLoweredWord (w : List Char) : Prop where
  ne_nil : w ≠ []
  lowered : ∀ c ∈ w, IsLowered c

/-- A lowered word with a capital at its beginning. -/
def capitalised : List Char → List Char
  | [] => []
  | c :: cs => capitalOf c :: cs

theorem length_capitalised (w : List Char) : (capitalised w).length = w.length := by
  cases w with
  | nil => rfl
  | cons c cs => rfl

theorem lowerWord_eq : ∀ {w : List Char}, (∀ c ∈ w, SimpleLetter c) → lowerWord w = w.map lowerOf
  | [], _ => rfl
  | [c], h => by
    have hc : SimpleLetter c := h c List.mem_cons_self
    rw [lowerWord, if_neg hc.noSigma, hc.lowerChars, List.map_singleton]
  | c :: d :: cs, h => by
    have hc : SimpleLetter c := h c List.mem_cons_self
    have ih : lowerWord (d :: cs) = (d :: cs).map lowerOf :=
      lowerWord_eq fun e he => h e (List.mem_cons_of_mem c he)
    calc lowerWord (c :: d :: cs) = lowerChars c ++ lowerWord (d :: cs) := rfl
      _ = (c :: d :: cs).map lowerOf := by rw [hc.lowerChars, ih]; rfl

theorem IsLoweredWord.map_lowerOf {w : List Char} (h : IsLoweredWord w) : w.map lowerOf = w :=
  map_eq_self fun c hc => (h.lowered c hc).lowerOf_eq

/-- Lowering undoes capitalising. -/
theorem IsLoweredWord.map_lowerOf_capitalised {w : List Char} (h : IsLoweredWord w) :
    (capitalised w).map lowerOf = w := by
  obtain ⟨c, cs, rfl⟩ := List.exists_cons_of_ne_nil h.ne_nil
  obtain ⟨hc, hcs⟩ := List.forall_mem_cons.mp h.lowered
  rw [capitalised, List.map_cons, hc.lowerOf_capitalOf,
    map_eq_self fun d hd => (hcs d hd).lowerOf_eq]

/-- A word of simple letters is a lowered word once it is lowered. -/
theorem isLoweredWord_map {w : List Char} (hne : w ≠ []) (h : ∀ c ∈ w, SimpleLetter c) :
    IsLoweredWord (w.map lowerOf) := by
  refine ⟨by rwa [ne_eq, List.map_eq_nil_iff], fun c hc => ?_⟩
  obtain ⟨d, hd, rfl⟩ := List.mem_map.mp hc
  exact (h d hd).isLowered

/-! ## Runs of letters and numbers -/

theorem alphanumericRuns_append_cons {sep : Char} (hsep : alphanumeric.holds sep = false)
    (rest : List Char) : ∀ {run : List Char}, (∀ c ∈ run, alphanumeric.holds c) →
      alphanumericRuns (run ++ sep :: rest) = run :: alphanumericRuns rest
  | [], _ => by rw [List.nil_append, alphanumericRuns, hsep]; rfl
  | c :: run, h => by
    rw [List.forall_mem_cons] at h
    rw [List.cons_append, alphanumericRuns, if_pos h.1, alphanumericRuns_append_cons hsep rest h.2]

theorem alphanumericRuns_of_letters : ∀ {run : List Char}, (∀ c ∈ run, alphanumeric.holds c) →
    alphanumericRuns run = [run]
  | [], _ => rfl
  | c :: run, h => by
    rw [List.forall_mem_cons] at h
    rw [alphanumericRuns, if_pos h.1, alphanumericRuns_of_letters h.2]

/-- The runs of a text hold its letters and numbers. -/
theorem flatten_alphanumericRuns (cs : List Char) :
    (alphanumericRuns cs).flatten = cs.filter alphanumeric.holds := by
  induction cs with
  | nil => rfl
  | cons c cs ih =>
    rw [alphanumericRuns, List.filter_cons]
    split_ifs with hc
    · rw [← ih]
      cases alphanumericRuns cs with
      | nil => rfl
      | cons run runs => rfl
    · exact ih

/-! ## Words inside a run -/

/-- Nothing of a run is lost. -/
theorem flatten_splitRun (mode : WordMode) (taken cs : List Char) (hne : cs ≠ []) :
    (splitRun mode taken cs).flatten = taken.reverse ++ cs := by
  fun_induction splitRun mode taken cs with
  | case1 => exact absurd rfl hne
  | case2 mode taken c => simp
  | case3 mode taken c next rest mode' h ih =>
    rw [List.flatten_cons, ih (List.cons_ne_nil _ _)]
    simp
  | case4 mode taken c next rest mode' h h' ih =>
    rw [List.flatten_cons, ih (List.cons_ne_nil _ _)]
    simp
  | case5 mode taken c next rest mode' h h' ih =>
    rw [ih (List.cons_ne_nil _ _)]
    simp

/-- No word is empty. A capital has been read before a boundary in front of a letter. -/
theorem ne_nil_of_mem_splitRun (mode : WordMode) (taken cs : List Char)
    (hmode : mode = .upper → taken ≠ []) : ∀ w ∈ splitRun mode taken cs, w ≠ [] := by
  fun_induction splitRun mode taken cs with
  | case1 => nofun
  | case2 mode taken c => simp
  | case3 mode taken c next rest mode' h ih =>
    rw [List.forall_mem_cons]
    exact ⟨by simp, ih nofun⟩
  | case4 mode taken c next rest mode' h h' ih =>
    rw [List.forall_mem_cons]
    exact ⟨by simpa using hmode h'.1, ih nofun⟩
  | case5 mode taken c next rest mode' h h' ih => exact ih fun _ => List.cons_ne_nil _ _

/-- The first word has at least the letters that were taken before. -/
theorem exists_length_le_of_splitRun (mode : WordMode) (taken cs : List Char) (hne : cs ≠ []) :
    ∃ w ws, splitRun mode taken cs = w :: ws ∧ taken.length ≤ w.length := by
  fun_induction splitRun mode taken cs with
  | case1 => exact absurd rfl hne
  | case2 mode taken c => exact ⟨_, _, rfl, by simp⟩
  | case3 mode taken c next rest mode' h ih => exact ⟨_, _, rfl, by simp⟩
  | case4 mode taken c next rest mode' h h' ih => exact ⟨_, _, rfl, by simp⟩
  | case5 mode taken c next rest mode' h h' ih =>
    obtain ⟨w, ws, hw, hle⟩ := ih (List.cons_ne_nil _ _)
    refine ⟨w, ws, hw, ?_⟩
    rw [List.length_cons] at hle
    omega

/-- The mode after reading some characters. -/
def modeAfter (mode : WordMode) (cs : List Char) : WordMode := cs.foldl WordMode.after mode

section Boundaries

variable {mode : WordMode} {taken rest : List Char} {c d : Char}

/-- After a character that is no capital a word can end only in front of a capital. -/
theorem splitRun_cons (hc : uppercase.holds c = false) :
    splitRun mode taken (c :: d :: rest) =
      if mode.after c = .lower ∧ uppercase.holds d then
        (c :: taken).reverse :: splitRun .start [] (d :: rest)
      else splitRun (mode.after c) (c :: taken) (d :: rest) := by
  rw [splitRun]
  simp only [hc, Bool.false_eq_true, false_and, and_false, if_false]

/-- So it is after several such characters. -/
theorem splitRun_append {cs : List Char} (hne : cs ≠ [])
    (hcs : ∀ c ∈ cs, uppercase.holds c = false) :
    splitRun mode taken (cs ++ d :: rest) =
      if modeAfter mode cs = .lower ∧ uppercase.holds d then
        (taken.reverse ++ cs) :: splitRun .start [] (d :: rest)
      else splitRun (modeAfter mode cs) (cs.reverse ++ taken) (d :: rest) := by
  induction cs generalizing mode taken with
  | nil => exact absurd rfl hne
  | cons c cs ih =>
    rw [List.forall_mem_cons] at hcs
    cases cs with
    | nil =>
      rw [List.singleton_append, splitRun_cons hcs.1, List.reverse_cons, List.reverse_singleton]
      rfl
    | cons c' cs =>
      have hc' : uppercase.holds c' = false := hcs.2 c' List.mem_cons_self
      rw [List.cons_append, List.cons_append, splitRun_cons hcs.1, hc',
        if_neg (by simp), ← List.cons_append, ih (List.cons_ne_nil c' cs) hcs.2]
      simp [modeAfter]

/-- A run without capitals but at its beginning is one word. -/
theorem splitRun_lowered {cs : List Char} (hcs : ∀ c ∈ cs, uppercase.holds c = false)
    (hne : cs ≠ []) : splitRun mode taken cs = [taken.reverse ++ cs] := by
  induction cs generalizing mode taken with
  | nil => exact absurd rfl hne
  | cons c cs ih =>
    rw [List.forall_mem_cons] at hcs
    cases cs with
    | nil => simp [splitRun]
    | cons c' cs =>
      have hc' : uppercase.holds c' = false := hcs.2 c' List.mem_cons_self
      rw [splitRun_cons hcs.1, hc', if_neg (by simp), ih hcs.2 (List.cons_ne_nil c' cs)]
      simp

end Boundaries

/-! ## Words that stay apart -/

/-- Two neighbouring words stay apart in camel case. The second begins with a letter that has a
    capital. The first goes on with such a letter, or begins with one and both letters at the
    beginning of the second are such. -/
def Apart (v w : List Char) : Prop :=
  (∃ c ∈ w.head?, IsSmall c) ∧
    ((∃ c ∈ v.tail, IsSmall c) ∨ (∃ c ∈ v.head?, IsSmall c) ∧ ∃ c ∈ w.tail.head?, IsSmall c)

theorem modeAfter_of_small {cs : List Char} (hcs : ∀ c ∈ cs, IsLowered c)
    (hsmall : ∃ c ∈ cs, IsSmall c) (mode : WordMode) : modeAfter mode cs = .lower := by
  induction cs generalizing mode with
  | nil => obtain ⟨c, hc, -⟩ := hsmall; cases hc
  | cons c cs ih =>
    rw [List.forall_mem_cons] at hcs
    by_cases hrest : ∃ d ∈ cs, IsSmall d
    · exact ih hcs.2 hrest (mode.after c)
    · have hc : lowercase.holds c = true := by
        obtain ⟨d, hd, hdsmall⟩ := hsmall
        rcases List.mem_cons.mp hd with rfl | hd
        · exact hcs.1.lowercase_iff.mpr hdsmall
        · exact absurd ⟨d, hd, hdsmall⟩ hrest
      have hkeep : ∀ {ds : List Char}, (∀ d ∈ ds, IsLowered d) → modeAfter .lower ds = .lower := by
        intro ds
        induction ds with
        | nil => intro _; rfl
        | cons d ds ihds =>
          intro h
          rw [List.forall_mem_cons] at h
          have hafter : WordMode.lower.after d = .lower := by
            simp [WordMode.after, h.1.not_uppercase]
          rw [modeAfter, List.foldl_cons, hafter]
          exact ihds h.2
      rw [modeAfter, List.foldl_cons, WordMode.after, if_pos hc]
      exact hkeep hcs.2

theorem modeAfter_of_not_small {cs : List Char} (hcs : ∀ c ∈ cs, IsLowered c)
    (hsmall : ¬ ∃ c ∈ cs, IsSmall c) (mode : WordMode) : modeAfter mode cs = mode := by
  induction cs generalizing mode with
  | nil => rfl
  | cons c cs ih =>
    rw [List.forall_mem_cons] at hcs
    have hc : ¬ IsSmall c := fun h => hsmall ⟨c, List.mem_cons_self, h⟩
    have hrest : ¬ ∃ d ∈ cs, IsSmall d :=
      fun ⟨d, hd, h⟩ => hsmall ⟨d, List.mem_cons_of_mem c hd, h⟩
    have hafter : mode.after c = mode := by
      rw [← hcs.1.lowercase_iff] at hc
      simp [WordMode.after, hc, hcs.1.not_uppercase]
    rw [modeAfter, List.foldl_cons, hafter]
    exact ih hcs.2 hrest mode

theorem IsRaised.start_after_ne_lower {c : Char} (h : IsRaised c) :
    WordMode.start.after c ≠ .lower := by
  rw [WordMode.after, h.not_lowercase, if_neg Bool.false_ne_true]
  split_ifs <;> decide

/-- The mode after a capitalised word. -/
def wordMode (w : List Char) : WordMode := modeAfter .start (capitalised w)

theorem wordMode_eq_lower_iff {c : Char} {cs : List Char} (h : IsLoweredWord (c :: cs)) :
    wordMode (c :: cs) = .lower ↔ ∃ d ∈ cs, IsSmall d := by
  obtain ⟨hc, hcs⟩ := List.forall_mem_cons.mp h.lowered
  have hstart := hc.simple.isRaised.start_after_ne_lower
  by_cases hsmall : ∃ d ∈ cs, IsSmall d
  · exact ⟨fun _ => hsmall, fun _ => modeAfter_of_small hcs hsmall _⟩
  · have hmode : wordMode (c :: cs) = WordMode.start.after (capitalOf c) :=
      modeAfter_of_not_small hcs hsmall _
    rw [hmode]
    exact ⟨fun h => absurd h hstart, fun h => absurd h hsmall⟩

/-- Without a letter in lower case after its beginning, a word ends in upper case exactly if its
    beginning has a capital. -/
theorem wordMode_eq_upper_iff {c : Char} {cs : List Char} (h : IsLoweredWord (c :: cs))
    (hsmall : ¬ ∃ d ∈ cs, IsSmall d) : wordMode (c :: cs) = .upper ↔ IsSmall c := by
  obtain ⟨hc, hcs⟩ := List.forall_mem_cons.mp h.lowered
  have hmode : wordMode (c :: cs) = WordMode.start.after (capitalOf c) :=
    modeAfter_of_not_small hcs hsmall _
  rw [hmode, WordMode.after, hc.simple.isRaised.not_lowercase, if_neg Bool.false_ne_true,
    ← hc.uppercase_capitalOf_iff]
  cases uppercase.holds (capitalOf c) <;> simp

section Neighbours

variable {v w rest : List Char}

/-- A capitalised word at the beginning of a run ends in front of a capital if it goes on with a
    letter in lower case, and otherwise what follows decides. -/
theorem splitRun_capitalised_append (hv : IsLoweredWord v) (d : Char) :
    splitRun .start [] (capitalised v ++ d :: rest) =
      if wordMode v = .lower ∧ uppercase.holds d then
        capitalised v :: splitRun .start [] (d :: rest)
      else splitRun (wordMode v) (capitalised v).reverse (d :: rest) := by
  obtain ⟨c, cs, rfl⟩ := List.exists_cons_of_ne_nil hv.ne_nil
  obtain ⟨hc, hcs⟩ := List.forall_mem_cons.mp hv.lowered
  have hstart := hc.simple.isRaised.start_after_ne_lower
  have hfirst : ∀ e es, splitRun .start [] (capitalOf c :: e :: es) =
      splitRun (WordMode.start.after (capitalOf c)) [capitalOf c] (e :: es) := by
    intro e es
    rw [splitRun]
    simp only [hstart, false_and, if_false, reduceCtorEq]
  cases cs with
  | nil =>
    have hmode : wordMode [c] = WordMode.start.after (capitalOf c) := rfl
    rw [hmode, if_neg fun h => hstart h.1]
    exact hfirst d rest
  | cons e es =>
    have hupper : ∀ f ∈ e :: es, uppercase.holds f = false := fun f hf => (hcs f hf).not_uppercase
    rw [capitalised, List.reverse_cons]
    exact (hfirst e (es ++ d :: rest)).trans (splitRun_append (List.cons_ne_nil e es) hupper)

/-- A capital in front of a letter in lower case may count as taken or not. -/
theorem splitRun_taken {d e : Char} (hd : IsRaised d) (hlower : lowercase.holds e)
    (hupper : uppercase.holds e = false) :
    splitRun .start [d] (e :: rest) = splitRun .start [] (d :: e :: rest) := by
  have hafter : ∀ mode : WordMode, mode.after e = .lower := by
    intro mode
    rw [WordMode.after, if_pos hlower]
  have hnot := hd.start_after_ne_lower
  have hstep : splitRun .start [] (d :: e :: rest) =
      splitRun (WordMode.start.after d) [d] (e :: rest) := by
    rw [splitRun]
    simp only [hnot, false_and, if_false, reduceCtorEq]
  rw [hstep]
  cases rest with
  | nil => rfl
  | cons f rest => rw [splitRun_cons hupper, splitRun_cons hupper, hafter, hafter]

/-- A word that stays apart from the next one ends where it does. -/
theorem splitRun_of_apart (hv : IsLoweredWord v) (hw : IsLoweredWord w) (h : Apart v w) :
    splitRun .start [] (capitalised v ++ (capitalised w ++ rest)) =
      capitalised v :: splitRun .start [] (capitalised w ++ rest) := by
  obtain ⟨c, cs, rfl⟩ := List.exists_cons_of_ne_nil hv.ne_nil
  obtain ⟨d, ds, rfl⟩ := List.exists_cons_of_ne_nil hw.ne_nil
  obtain ⟨hd, hds⟩ := List.forall_mem_cons.mp hw.lowered
  obtain ⟨⟨d', hd', hdsmall⟩, hcases⟩ := h
  obtain rfl : d = d' := by simpa using hd'
  have hupper : uppercase.holds (capitalOf d) = true := hd.uppercase_capitalOf_iff.mpr hdsmall
  rw [show capitalised (d :: ds) ++ rest = capitalOf d :: (ds ++ rest) from rfl,
    splitRun_capitalised_append hv]
  by_cases hsmall : ∃ e ∈ cs, IsSmall e
  · rw [if_pos ⟨(wordMode_eq_lower_iff hv).mpr hsmall, hupper⟩]
  · -- The first word has no letter in lower case any more, so the second letter of the next one
    -- decides.
    obtain ⟨⟨c', hc', hcsmall⟩, e, he, hesmall⟩ := hcases.resolve_left hsmall
    obtain rfl : c = c' := by simpa using hc'
    obtain ⟨es, rfl⟩ : ∃ es, ds = e :: es := List.head?_eq_some_iff.mp he
    have he' : IsLowered e := hds e List.mem_cons_self
    have hlower : lowercase.holds e = true := he'.lowercase_iff.mpr hesmall
    have hmode : wordMode (c :: cs) = .upper := (wordMode_eq_upper_iff hv hsmall).mpr hcsmall
    have hafter : WordMode.upper.after (capitalOf d) = .upper := by
      rw [WordMode.after, hd.simple.isRaised.not_lowercase, if_neg Bool.false_ne_true, if_pos hupper]
    rw [hmode, if_neg (by simp), List.cons_append, splitRun]
    simp only [hafter, reduceCtorEq, false_and, if_false, hupper, hlower, and_self, if_true,
      List.reverse_reverse]
    rw [splitRun_taken hd.simple.isRaised hlower he'.not_uppercase]

/-- A word that does not stay apart from the next one does not end where it does. -/
theorem exists_longer_of_not_apart (hv : IsLoweredWord v) (hw : IsLoweredWord w)
    (hrest : ∀ e ∈ rest.head?, IsRaised e) (h : ¬ Apart v w) :
    ∃ u us, splitRun .start [] (capitalised v ++ (capitalised w ++ rest)) = u :: us ∧
      (capitalised v).length < u.length := by
  obtain ⟨c, cs, rfl⟩ := List.exists_cons_of_ne_nil hv.ne_nil
  obtain ⟨d, ds, rfl⟩ := List.exists_cons_of_ne_nil hw.ne_nil
  obtain ⟨hd, hds⟩ := List.forall_mem_cons.mp hw.lowered
  rw [show capitalised (d :: ds) ++ rest = capitalOf d :: (ds ++ rest) from rfl,
    splitRun_capitalised_append hv]
  have hupper := hd.uppercase_capitalOf_iff
  rw [if_neg fun hboth => h ⟨⟨d, rfl, hupper.mp hboth.2⟩,
    .inl ((wordMode_eq_lower_iff hv).mp hboth.1)⟩]
  cases htail : ds ++ rest with
  | nil => exact ⟨_, _, by rw [splitRun], by simp⟩
  | cons e es =>
    rw [splitRun]
    split_ifs with hlower hboundary
    · exact ⟨_, _, rfl, by simp⟩
    · obtain ⟨hmode, hcapital, he⟩ := hboundary
      have hsmall : ¬ ∃ e ∈ cs, IsSmall e := by
        rw [← wordMode_eq_lower_iff hv, hmode]
        decide
      have hesmall : ∃ e' ∈ ds.head?, IsSmall e' := by
        cases ds with
        | nil =>
          rw [List.nil_append] at htail
          have hraised : IsRaised e := hrest e (by rw [htail]; rfl)
          rw [hraised.not_lowercase] at he
          cases he
        | cons e' ds =>
          obtain rfl : e' = e := (List.cons.inj htail).1
          exact ⟨e', rfl, (hds e' List.mem_cons_self).lowercase_iff.mp he⟩
      have hc : IsSmall c := (wordMode_eq_upper_iff hv hsmall).mp hmode
      exact absurd ⟨⟨d, rfl, hupper.mp hcapital⟩, .inr ⟨⟨c, rfl, hc⟩, hesmall⟩⟩ h
    · obtain ⟨u, us, hu, hle⟩ := exists_length_le_of_splitRun
        ((wordMode (c :: cs)).after (capitalOf d)) (capitalOf d :: (capitalised (c :: cs)).reverse)
        (e :: es) (List.cons_ne_nil e es)
      rw [List.length_cons, List.length_reverse] at hle
      exact ⟨u, us, hu, hle⟩

end Neighbours

/-- A capitalised word alone is one word. -/
theorem splitRun_capitalised {w : List Char} (hw : IsLoweredWord w) :
    splitRun .start [] (capitalised w) = [capitalised w] := by
  obtain ⟨c, cs, rfl⟩ := List.exists_cons_of_ne_nil hw.ne_nil
  obtain ⟨hc, hcs⟩ := List.forall_mem_cons.mp hw.lowered
  have hstart := hc.simple.isRaised.start_after_ne_lower
  cases cs with
  | nil => rfl
  | cons d ds =>
    have hupper : ∀ e ∈ d :: ds, uppercase.holds e = false := fun e he => (hcs e he).not_uppercase
    rw [capitalised, splitRun]
    simp only [hstart, false_and, if_false, reduceCtorEq]
    exact splitRun_lowered hupper (List.cons_ne_nil d ds)

/-- Capitalised words are found again where they are joined exactly if neighbours stay apart. -/
theorem splitRun_capitalised_iff {ws : List (List Char)} (hws : ∀ w ∈ ws, IsLoweredWord w) :
    splitRun .start [] (ws.flatMap capitalised) = ws.map capitalised ↔ ws.IsChain Apart := by
  induction ws with
  | nil => simp [splitRun]
  | cons v ws ih =>
    rw [List.forall_mem_cons] at hws
    cases ws with
    | nil => simp [splitRun_capitalised hws.1]
    | cons w ws =>
      have hw : IsLoweredWord w := hws.2 w List.mem_cons_self
      have hrest : ∀ c ∈ (ws.flatMap capitalised).head?, IsRaised c := by
        cases ws with
        | nil => nofun
        | cons u us =>
          have hu : IsLoweredWord u := hws.2 u (List.mem_cons_of_mem w List.mem_cons_self)
          obtain ⟨c, cs, rfl⟩ := List.exists_cons_of_ne_nil hu.ne_nil
          rintro c' ⟨⟩
          exact (hu.lowered c List.mem_cons_self).simple.isRaised
      rw [List.flatMap_cons, List.map_cons, List.isChain_cons_cons, ← ih hws.2, List.flatMap_cons]
      by_cases h : Apart v w
      · rw [splitRun_of_apart hws.1 hw h]
        simp [h]
      · obtain ⟨u, us, hu, hlt⟩ := exists_longer_of_not_apart hws.1 hw hrest h
        rw [hu]
        constructor
        · intro he
          rw [(List.cons.inj he).1] at hlt
          exact absurd hlt (lt_irrefl _)
        · exact fun he => absurd he.1 h

/-! ## Names -/

/-- A name whose letters are simple. -/
def SimpleName (s : String) : Prop := ∀ c ∈ s.toList, SimpleChar c

/-- Lowered words of which neighbours stay apart in camel case. -/
structure ApartWords (ws : List (List Char)) : Prop where
  lowered : ∀ w ∈ ws, IsLoweredWord w
  apart : ws.IsChain Apart

/-- A name in snake case: words that stay apart, with underscores between them. -/
def InSnakeCase (s : String) : Prop := ∃ ws, ApartWords ws ∧ s.toList = ['_'].intercalate ws

/-- A name in camel case: words that stay apart, each capitalised. -/
def InCamelCase (s : String) : Prop := ∃ ws, ApartWords ws ∧ s.toList = ws.flatMap capitalised

/-- The words of a name in lower case. -/
def loweredWords (s : String) : List (List Char) := (wordsOf s).map (List.map lowerOf)

section Names

variable {s : String} {ws : List (List Char)}

/-- The letters of a name are those of its words. -/
theorem flatten_wordsOf (s : String) : (wordsOf s).flatten = s.toList.filter alphanumeric.holds := by
  rw [← flatten_alphanumericRuns, wordsOf]
  induction alphanumericRuns s.toList with
  | nil => rfl
  | cons run runs ih =>
    have hrun : (splitRun .start [] run).flatten = run := by
      by_cases hne : run = []
      · rw [hne]
        rfl
      · exact flatten_splitRun _ _ _ hne
    rw [List.flatMap_cons, List.flatten_append, ih, hrun, List.flatten_cons]

/-- A word of a name is not empty, and its letters are letters of the name. -/
theorem of_mem_wordsOf {w : List Char} (hw : w ∈ wordsOf s) :
    w ≠ [] ∧ ∀ c ∈ w, c ∈ s.toList ∧ alphanumeric.holds c := by
  obtain ⟨run, -, hrun⟩ := List.mem_flatMap.mp hw
  refine ⟨ne_nil_of_mem_splitRun .start [] run nofun w hrun, fun c hc => ?_⟩
  have hletters : c ∈ (wordsOf s).flatten := List.mem_flatten_of_mem hw hc
  rw [flatten_wordsOf] at hletters
  exact List.mem_filter.mp hletters

theorem letters_of_mem_wordsOf (h : SimpleName s) {w : List Char} (hw : w ∈ wordsOf s) :
    w ≠ [] ∧ ∀ c ∈ w, SimpleLetter c := by
  obtain ⟨hne, hletters⟩ := of_mem_wordsOf hw
  exact ⟨hne, fun c hc => (h c (hletters c hc).1).simple (hletters c hc).2⟩

theorem isLoweredWord_of_mem (h : SimpleName s) : ∀ w ∈ loweredWords s, IsLoweredWord w := by
  intro w hw
  obtain ⟨v, hv, rfl⟩ := List.mem_map.mp hw
  obtain ⟨hne, hletters⟩ := letters_of_mem_wordsOf h hv
  exact isLoweredWord_map hne hletters

theorem toList_snakeCase (h : SimpleName s) :
    (snakeCase s).toList = ['_'].intercalate (loweredWords s) := by
  rw [snakeCase, String.toList_ofList, loweredWords]
  congr 1
  exact List.map_congr_left fun w hw => lowerWord_eq (letters_of_mem_wordsOf h hw).2

theorem toList_upperCamelCase (h : SimpleName s) :
    (upperCamelCase s).toList = (loweredWords s).flatMap capitalised := by
  rw [upperCamelCase, String.toList_ofList, loweredWords, List.flatMap_map]
  refine List.flatMap_congr fun w hw => ?_
  obtain ⟨hne, hletters⟩ := letters_of_mem_wordsOf h hw
  obtain ⟨c, cs, rfl⟩ := List.exists_cons_of_ne_nil hne
  rw [List.forall_mem_cons] at hletters
  rw [capitalWord, hletters.1.upperChars, lowerWord_eq hletters.2, List.map_cons, capitalised,
    hletters.1.capitalOf_lowerOf, List.singleton_append]

/-- A name in camel case begins with the capital of its first letter. -/
theorem head?_upperCamelCase (h : SimpleName s) : (upperCamelCase s).toList.head? =
    (s.toList.find? alphanumeric.holds).map capitalOf := by
  rw [← List.head?_filter, ← flatten_wordsOf, toList_upperCamelCase h, loweredWords]
  cases hwords : wordsOf s with
  | nil => rfl
  | cons w ws =>
    obtain ⟨hne, hletters⟩ := letters_of_mem_wordsOf h (hwords ▸ List.mem_cons_self)
    obtain ⟨c, cs, rfl⟩ := List.exists_cons_of_ne_nil hne
    have hc : SimpleLetter c := hletters c List.mem_cons_self
    exact congrArg some hc.capitalOf_lowerOf

/-- After its first letter a name in camel case has the other letters, in one of their cases. -/
theorem of_mem_tail_upperCamelCase (h : SimpleName s) {c : Char}
    (hc : c ∈ (upperCamelCase s).toList.tail) : ∃ d ∈ (s.toList.filter alphanumeric.holds).tail,
      SimpleLetter d ∧ (c = lowerOf d ∨ c = capitalOf d) := by
  have hletters := fun w (hw : w ∈ wordsOf s) => letters_of_mem_wordsOf h hw
  rw [toList_upperCamelCase h, loweredWords, List.flatMap_map] at hc
  rw [← flatten_wordsOf]
  cases hwords : wordsOf s with
  | nil => rw [hwords] at hc; cases hc
  | cons w ws =>
    rw [hwords] at hc hletters
    rw [List.forall_mem_cons] at hletters
    obtain ⟨⟨hne, hw⟩, hws⟩ := hletters
    obtain ⟨d, ds, rfl⟩ := List.exists_cons_of_ne_nil hne
    rcases List.mem_append.mp (show c ∈ ds.map lowerOf ++ _ from hc) with hc | hc
    · obtain ⟨e, he, rfl⟩ := List.mem_map.mp hc
      exact ⟨e, List.mem_append_left _ he, hw e (List.mem_cons_of_mem d he), .inl rfl⟩
    · obtain ⟨v, hv, hc⟩ := List.mem_flatMap.mp hc
      obtain ⟨hne', hv'⟩ := hws v hv
      have hmem : ∀ e ∈ v, e ∈ ds ++ ws.flatten := fun e he =>
        List.mem_append_right ds (List.mem_flatten_of_mem hv he)
      obtain ⟨e, es, rfl⟩ := List.exists_cons_of_ne_nil hne'
      have he : SimpleLetter e := hv' e List.mem_cons_self
      rcases List.mem_cons.mp hc with rfl | hc
      · exact ⟨e, hmem e List.mem_cons_self, he, .inr he.capitalOf_lowerOf⟩
      · obtain ⟨e', he', rfl⟩ := List.mem_map.mp hc
        have hmem' : e' ∈ e :: es := List.mem_cons_of_mem e he'
        exact ⟨e', hmem e' hmem', hv' e' hmem', .inl rfl⟩

/-- Words with underscores between them are the words of a name. -/
theorem wordsOf_of_intercalate (hws : ∀ w ∈ ws, IsLoweredWord w)
    (hs : s.toList = ['_'].intercalate ws) : wordsOf s = ws := by
  have hletters : ∀ w ∈ ws, ∀ c ∈ w, alphanumeric.holds c := fun w hw c hc =>
    ((hws w hw).lowered c hc).simple.alphanumeric
  have hwords : ∀ w ∈ ws, splitRun .start [] w = [w] := fun w hw =>
    splitRun_lowered (fun c hc => ((hws w hw).lowered c hc).not_uppercase) (hws w hw).ne_nil
  rw [wordsOf, hs]
  clear hs
  induction ws with
  | nil => rfl
  | cons v ws ih =>
    rw [List.forall_mem_cons] at hws hletters hwords
    cases ws with
    | nil =>
      rw [List.intercalate_singleton, alphanumericRuns_of_letters hletters.1,
        List.flatMap_singleton, hwords.1]
    | cons w ws =>
      rw [List.intercalate_cons_cons, List.append_assoc, List.singleton_append,
        alphanumericRuns_append_cons (by decide) _ hletters.1, List.flatMap_cons, hwords.1,
        ih hws.2 hletters.2 hwords.2, List.singleton_append]

/-- A run of letters and numbers is not cut before its words are found. -/
theorem wordsOf_of_letters (h : ∀ c ∈ s.toList, alphanumeric.holds c) :
    wordsOf s = splitRun .start [] s.toList := by
  rw [wordsOf, alphanumericRuns_of_letters h, List.flatMap_singleton]

theorem letters_of_flatMap (hws : ∀ w ∈ ws, IsLoweredWord w) :
    ∀ c ∈ ws.flatMap capitalised, SimpleLetter c := by
  intro c hc
  obtain ⟨w, hw, hc⟩ := List.mem_flatMap.mp hc
  obtain ⟨d, ds, rfl⟩ := List.exists_cons_of_ne_nil (hws w hw).ne_nil
  obtain ⟨hd, hds⟩ := List.forall_mem_cons.mp (hws _ hw).lowered
  rcases List.mem_cons.mp hc with rfl | hc
  · exact hd.simple.isRaised.simple
  · exact (hds c hc).simple

/-- The words of joined capitalised words are these exactly if neighbours stay apart. -/
theorem wordsOf_of_flatMap_iff (hws : ∀ w ∈ ws, IsLoweredWord w)
    (hs : s.toList = ws.flatMap capitalised) :
    wordsOf s = ws.map capitalised ↔ ws.IsChain Apart := by
  have hletters : ∀ c ∈ s.toList, alphanumeric.holds c := by
    rw [hs]
    exact fun c hc => (letters_of_flatMap hws c hc).alphanumeric
  rw [wordsOf_of_letters hletters, hs, splitRun_capitalised_iff hws]

/-- Lowering undoes capitalising, word by word. -/
theorem loweredWords_of_capitalised (hws : ∀ w ∈ ws, IsLoweredWord w)
    (hs : wordsOf s = ws.map capitalised) : loweredWords s = ws := by
  rw [loweredWords, hs, List.map_map]
  exact map_eq_self fun w hw => (hws w hw).map_lowerOf_capitalised

/-- Joined capitalised words whose letters are lowered word by word are those words, and so their
    neighbours stay apart. -/
theorem isChain_of_loweredWords (hws : ∀ w ∈ ws, IsLoweredWord w)
    (hs : s.toList = ws.flatMap capitalised) (hlowered : loweredWords s = ws) :
    ws.IsChain Apart := by
  rw [← wordsOf_of_flatMap_iff hws hs, List.eq_iff_flatten_eq]
  constructor
  · have hletters : ∀ c ∈ s.toList, alphanumeric.holds c := by
      rw [hs]
      exact fun c hc => (letters_of_flatMap hws c hc).alphanumeric
    rw [flatten_wordsOf, List.filter_eq_self.mpr hletters, hs, List.flatMap_def]
  · rw [← hlowered, loweredWords, List.map_map, List.map_map]
    refine List.map_congr_left fun w _ => ?_
    rw [Function.comp_apply, Function.comp_apply, length_capitalised, List.length_map]

theorem simpleName_of_intercalate (hws : ∀ w ∈ ws, IsLoweredWord w)
    (hs : s.toList = ['_'].intercalate ws) : SimpleName s := by
  rw [SimpleName, hs]
  clear hs
  induction ws with
  | nil => nofun
  | cons v ws ih =>
    rw [List.forall_mem_cons] at hws
    have hv : ∀ c ∈ v, SimpleChar c := fun c hc => .inr (hws.1.lowered c hc).simple
    cases ws with
    | nil => rwa [List.intercalate_singleton]
    | cons w ws =>
      rw [List.intercalate_cons_cons, List.forall_mem_append, List.forall_mem_append]
      exact ⟨⟨hv, List.forall_mem_singleton.mpr (.inl (by decide))⟩, ih hws.2⟩

theorem simpleName_of_flatMap (hws : ∀ w ∈ ws, IsLoweredWord w)
    (hs : s.toList = ws.flatMap capitalised) : SimpleName s := by
  rw [SimpleName, hs]
  exact fun c hc => .inr (letters_of_flatMap hws c hc)

theorem loweredWords_of_intercalate (hws : ∀ w ∈ ws, IsLoweredWord w)
    (hs : s.toList = ['_'].intercalate ws) : loweredWords s = ws := by
  rw [loweredWords, wordsOf_of_intercalate hws hs]
  exact map_eq_self fun w hw => (hws w hw).map_lowerOf

theorem ApartWords.loweredWords (h : ApartWords ws) (hs : s.toList = ws.flatMap capitalised) :
    loweredWords s = ws :=
  loweredWords_of_capitalised h.lowered ((wordsOf_of_flatMap_iff h.lowered hs).mpr h.apart)

/-! ## Changing the case and back -/

/-- A name in snake case comes back from camel case, where it is in camel case. -/
theorem InSnakeCase.upperCamelCase (h : InSnakeCase s) :
    InCamelCase (upperCamelCase s) ∧ snakeCase (upperCamelCase s) = s := by
  obtain ⟨ws, hws, hs⟩ := h
  have hcamel : (Text.upperCamelCase s).toList = ws.flatMap capitalised := by
    rw [toList_upperCamelCase (simpleName_of_intercalate hws.lowered hs),
      loweredWords_of_intercalate hws.lowered hs]
  refine ⟨⟨ws, hws, hcamel⟩, String.toList_inj.mp ?_⟩
  rw [toList_snakeCase (simpleName_of_flatMap hws.lowered hcamel), hws.loweredWords hcamel, hs]

/-- The names that come back from camel case are those in snake case. -/
theorem snakeCase_upperCamelCase_iff (h : SimpleName s) :
    snakeCase (upperCamelCase s) = s ↔ InSnakeCase s := by
  refine ⟨fun he => ?_, fun hs => hs.upperCamelCase.2⟩
  have hlowered := isLoweredWord_of_mem h
  have hcamel := toList_upperCamelCase h
  have hsimple : SimpleName (upperCamelCase s) := simpleName_of_flatMap hlowered hcamel
  have hback := toList_snakeCase hsimple
  rw [he] at hback
  have hwords : loweredWords s = loweredWords (upperCamelCase s) :=
    loweredWords_of_intercalate (isLoweredWord_of_mem hsimple) hback
  have hchain := isChain_of_loweredWords hlowered hcamel hwords.symm
  exact ⟨loweredWords s, ⟨hlowered, hchain⟩, by rw [hback, hwords]⟩

/-- The names that come back from snake case are those in camel case. -/
theorem upperCamelCase_snakeCase_iff (h : SimpleName s) :
    upperCamelCase (snakeCase s) = s ↔ InCamelCase s := by
  have hlowered := isLoweredWord_of_mem h
  have hsnake := toList_snakeCase h
  have hback : (upperCamelCase (snakeCase s)).toList = (loweredWords s).flatMap capitalised := by
    rw [toList_upperCamelCase (simpleName_of_intercalate hlowered hsnake),
      loweredWords_of_intercalate hlowered hsnake]
  rw [← String.toList_inj, hback]
  constructor
  · intro he
    exact ⟨loweredWords s, ⟨hlowered, isChain_of_loweredWords hlowered he.symm rfl⟩, he.symm⟩
  · rintro ⟨ws, hws, hs⟩
    rw [hws.loweredWords hs, hs]

end Names

/-! ## Names below U+0080 -/

theorem isSmall_iff {c : Char} : IsSmall c ↔ CasePair c (capitalOf c) :=
  ⟨fun ⟨_, h⟩ => h.capitalOf_small ▸ h, fun h => ⟨_, h⟩⟩

theorem isCapital_iff {c : Char} : IsCapital c ↔ CasePair (lowerOf c) c :=
  ⟨fun ⟨_, h⟩ => h.lowerOf_capital ▸ h, fun h => ⟨_, h⟩⟩

instance (small capital : Char) : Decidable (CasePair small capital) :=
  decidable_of_iff
    ((alphanumeric.holds small ∧ alphanumeric.holds capital) ∧
      (lowercase.holds small ∧ lowercase.holds capital = false) ∧
      (uppercase.holds small = false ∧ uppercase.holds capital) ∧
      (lowerChars small = [small] ∧ lowerChars capital = [small]) ∧
      (upperChars small = [capital] ∧ upperChars capital = [capital]) ∧
      (small ≠ 'Σ' ∧ capital ≠ 'Σ') ∧
      identifierStart.holds capital = identifierStart.holds small ∧
      identifierContinue.holds capital = identifierContinue.holds small)
    ⟨fun ⟨h1, h2, h3, h4, h5, h6, h7, h8⟩ => ⟨h1, h2, h3, h4, h5, h6, h7, h8⟩,
      fun h => ⟨h.letters, h.lower, h.upper, h.lowered, h.raised, h.noSigma, h.starts, h.continues⟩⟩

instance (c : Char) : Decidable (Caseless c) :=
  decidable_of_iff
    (alphanumeric.holds c ∧ lowercase.holds c = false ∧ uppercase.holds c = false ∧
      lowerChars c = [c] ∧ upperChars c = [c] ∧ c ≠ 'Σ')
    ⟨fun ⟨h1, h2, h3, h4, h5, h6⟩ => ⟨h1, h2, h3, h4, h5, h6⟩,
      fun h => ⟨h.letter, h.lower, h.upper, h.lowered, h.raised, h.noSigma⟩⟩

instance (c : Char) : Decidable (IsSmall c) := decidable_of_iff _ isSmall_iff.symm

instance (c : Char) : Decidable (IsCapital c) := decidable_of_iff _ isCapital_iff.symm

instance (c : Char) : Decidable (IsLowered c) := inferInstanceAs (Decidable (_ ∨ _))

instance (c : Char) : Decidable (SimpleChar c) := inferInstanceAs (Decidable (_ ∨ _ ∨ _ ∨ _))

-- What is asked of the characters of a word is decided by trying these, not all characters.

instance (w : List Char) : Decidable (IsLoweredWord w) :=
  have : Decidable (∀ c ∈ w, IsLowered c) := List.decidableBAll IsLowered w
  decidable_of_iff (w ≠ [] ∧ ∀ c ∈ w, IsLowered c)
    ⟨fun ⟨hne, h⟩ => ⟨hne, h⟩, fun h => ⟨h.ne_nil, h.lowered⟩⟩

instance (v w : List Char) : Decidable (Apart v w) :=
  have (o : Option Char) : Decidable (∃ c ∈ o, IsSmall c) := Option.decidableExistsMem o
  have : Decidable (∃ c ∈ v.tail, IsSmall c) := List.decidableBEx IsSmall v.tail
  inferInstanceAs (Decidable (_ ∧ _))

instance (ws : List (List Char)) : Decidable (ApartWords ws) :=
  decidable_of_iff ((∀ w ∈ ws, IsLoweredWord w) ∧ ws.IsChain Apart)
    ⟨fun ⟨hlowered, h⟩ => ⟨hlowered, h⟩, fun h => ⟨h.lowered, h.apart⟩⟩

/-- All characters below U+0080 have cases of one character each, if any. -/
theorem simpleName_of_ascii {s : String} (h : s.toList.all fun c => c.toNat < 128) :
    SimpleName s := by
  have hall : ∀ n : Fin 128, SimpleChar (Char.ofNat n) := by decide +kernel
  intro c hc
  have hsimple := hall ⟨c.toNat, List.all_iff_forall_prop.mp h c hc⟩
  rwa [Char.ofNat_toNat] at hsimple

/-- Words that begin with a digit and words of one letter are lost between the two cases. -/
example : ¬ ApartWords ["value".toList, "2".toList] ∧ ¬ ApartWords ["a".toList, "b".toList] ∧
    ApartWords ["created".toList, "at".toList] ∧ ApartWords ["x1".toList, "axis".toList] := by
  decide +kernel

end KeyedRecords.Text

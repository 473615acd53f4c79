import Mathlib.Data.Bool.AllAny
import Mathlib.Data.List.TakeWhile
import Mathlib.Tactic
import KeyedRecords.Source.Lexer

/-!
# Names and punctuation are read back

A name that a separator follows is read as a whole: it can be taken neither for a
literal nor for punctuation, and it goes on to the separator. `Lexes` describes what
is still to be read of a text, and has no bound on the number of tokens.

Results:
* `scanLeaf_ident`: a name is read as the identifier that it writes.
* `Lexes.ident`, `Lexes.punct`, `Lexes.space`: one token or a space in front of a text.
* `Lexes.opened`, `Lexes.closed`, `Lexes.done`: the ends of groups and of the text.
-/

namespace KeyedRecords.Source

open Text

/-! ## Characters -/

section Characters

variable {c d : Char}

/-- What names neither begin with nor go on with: punctuation, brackets, double quotes, spaces. -/
def separators : List Char := punctuation ++ "()[]\x7b\x7d\" ".toList

theorem of_mem_separators : ∀ d ∈ separators, startsName d = false ∧ continuesName d = false :=
  List.all_iff_forall_prop.mp (by decide +kernel)

theorem not_mem_of_startsName (hc : startsName c) : c ∉ separators := by
  intro hmem
  rw [(of_mem_separators c hmem).1] at hc
  cases hc

theorem not_mem_of_continuesName (hc : continuesName c) : c ∉ separators := by
  intro hmem
  rw [(of_mem_separators c hmem).2] at hc
  cases hc

theorem ne_of_not_mem (hc : c ∉ separators) (hd : d ∈ separators) : c ≠ d := by
  rintro rfl
  exact hc hd

/-- No name begins with a digit. -/
theorem isDigit_of_startsName (hc : startsName c) : isDigit c = false := by
  have hdigits : ∀ n : Fin 10, startsName (Char.ofNat (48 + n)) = false := by decide +kernel
  cases hdigit : isDigit c with
  | false => rfl
  | true =>
    unfold isDigit at hdigit
    rw [Bool.and_eq_true, decide_eq_true_iff, decide_eq_true_iff] at hdigit
    have hge : 48 ≤ c.toNat := hdigit.1
    have hle : c.toNat ≤ 57 := hdigit.2
    have hstart := hdigits ⟨c.toNat - 48, by omega⟩
    rw [show 48 + (c.toNat - 48) = c.toNat by omega, Char.ofNat_toNat, hc] at hstart
    cases hstart

end Characters

/-! ## What is no literal -/

section Literals

variable {c : Char} {cs : List Char}

/-- The text does not go on with what could make a literal of a letter. -/
def Clean (cs : List Char) : Prop := ∀ d ∈ cs.head?, d ≠ '"' ∧ d ≠ '#' ∧ d ≠ quote

theorem afterRaw_of_clean {k : QuotedKind} (h : Clean cs) : afterRaw k cs = none := by
  unfold afterRaw
  cases cs with
  | nil => rfl
  | cons d ds =>
    obtain ⟨hquote, hhash, -⟩ := h d rfl
    have hhashes : ((d :: ds).takeWhile (· == '#')).length = 0 := by simp [hhash]
    simp only [hhashes, List.drop_zero]
    split
    · next heq => exact absurd (List.cons.inj heq).1 hquote
    · rfl

theorem afterTextLiteral_of_clean (hquote : c ≠ '"' ∧ c ≠ quote) (h : Clean cs)
    (hr : ∀ ds, cs = 'r' :: ds → Clean ds) : afterTextLiteral (c :: cs) = none := by
  unfold afterTextLiteral
  split
  · next heq => exact absurd (List.cons.inj heq).1 hquote.1
  · next heq =>
    obtain ⟨-, rfl⟩ := List.cons.inj heq
    exact afterRaw_of_clean h
  · next heq =>
    obtain ⟨-, rfl⟩ := List.cons.inj heq
    exact absurd rfl (h '"' rfl).1
  · next heq =>
    obtain ⟨-, rfl⟩ := List.cons.inj heq
    exact afterRaw_of_clean (hr _ rfl)
  · next heq =>
    obtain ⟨-, rfl⟩ := List.cons.inj heq
    exact absurd rfl (h '"' rfl).1
  · next heq =>
    obtain ⟨-, rfl⟩ := List.cons.inj heq
    exact afterRaw_of_clean (hr _ rfl)
  · next heq =>
    obtain ⟨-, rfl⟩ := List.cons.inj heq
    exact if_neg (h _ rfl).2.2
  · next heq =>
    obtain ⟨rfl, -⟩ := List.cons.inj heq
    exact if_neg hquote.2
  · next heq => cases heq

theorem lt_ten_of_hexDigit? {n : Nat} (hd : hexDigit? c = some n) (hn : n < 10) : isDigit c := by
  unfold hexDigit? at hd
  unfold isDigit
  split_ifs at hd with hdigit hlower hupper
  · simpa using hdigit
  · have hge : 97 ≤ c.toNat := hlower.1
    cases hd
    omega
  · have hge : 65 ≤ c.toNat := hupper.1
    cases hd
    omega

/-- A number begins with a digit. -/
theorem afterNumberLiteral_of_not_isDigit (h : isDigit c = false) :
    afterNumberLiteral (c :: cs) = none := by
  have hfloat : afterFloatDigits (c :: cs) = none := by
    unfold afterFloatDigits
    simp [h]
  have hbase : numberBase (c :: cs) = (10, c :: cs) := by
    unfold numberBase
    have hzero : c ≠ '0' := by
      rintro rfl
      cases h
    split <;> simp_all
  have hdigits : afterDigits 10 true (c :: cs) = none := by
    unfold afterDigits
    cases hc : hexDigit? c with
    | none => simp
    | some n =>
      have hn : ¬ n < 10 := fun hn => by
        have hdigit := lt_ten_of_hexDigit? hc hn
        rw [h] at hdigit
        cases hdigit
      simp [hn, h]
  unfold afterNumberLiteral
  simp only [hfloat, Option.bind_none, hbase, hdigits]

theorem scanLiteral_of_clean (hdigit : isDigit c = false) (h : afterTextLiteral (c :: cs) = none) :
    scanLiteral (c :: cs) = none := by
  unfold scanLiteral
  simp only [h, afterNumberLiteral_of_not_isDigit hdigit, Option.map_none]

end Literals

/-! ## Names -/

/-- A name alone is read as a whole: it begins with what may begin one and goes on with what may go
    on. -/
theorem afterName_eq_nil_iff {cs : List Char} : afterName cs = some [] ↔
    (∃ c ∈ cs.head?, startsName c) ∧ ∀ c ∈ cs.tail, continuesName c := by
  cases cs with
  | nil => simp [afterName]
  | cons c cs =>
    unfold afterName
    cases hstarts : startsName c <;> simp [hstarts, List.dropWhile_eq_nil_iff]

/-- An identifier that is read as it is written. No white space may begin it, which no name does. -/
structure Ident.Spelled (i : Ident) : Prop where
  name : afterName i.name.toList = some []
  visible : ∀ c ∈ i.name.toList.head?, isBlank c = false
  raw : i.raw → i.name ∉ ["_", "super", "self", "Self", "crate"]

-- Only the first character is tried, if there is one.
instance (i : Ident) : Decidable i.Spelled :=
  have : Decidable (∀ c ∈ i.name.toList.head?, isBlank c = false) :=
    Option.decidableForallMem _
  decidable_of_iff (afterName i.name.toList = some [] ∧
      (∀ c ∈ i.name.toList.head?, isBlank c = false) ∧
      (i.raw → i.name ∉ ["_", "super", "self", "Self", "crate"]))
    ⟨fun ⟨h1, h2, h3⟩ => ⟨h1, h2, h3⟩, fun h => ⟨h.name, h.visible, h.raw⟩⟩

/-- The text ends a name that stands before it. -/
def Ends (cs : List Char) : Prop := ∀ c ∈ cs.head?, c ∈ separators ∧ c ∉ ['"', '#', quote]

section Names

variable {i : Ident} {c : Char} {cs rest : List Char}

theorem Ends.clean (h : Ends rest) : Clean rest := by
  intro c hc
  have hnot := (h c hc).2
  simp only [List.mem_cons, List.not_mem_nil, or_false, not_or] at hnot
  exact hnot

theorem clean_of_continuesName (hc : continuesName c) : Clean (c :: cs) := by
  rintro d ⟨⟩
  have hnot : c ∉ separators := not_mem_of_continuesName hc
  exact ⟨ne_of_not_mem hnot (by decide), ne_of_not_mem hnot (by decide),
    ne_of_not_mem hnot (by decide)⟩

theorem clean_append (hcs : ∀ d ∈ cs, continuesName d) (h : Ends rest) : Clean (cs ++ rest) := by
  cases cs with
  | nil => exact h.clean
  | cons c cs => exact clean_of_continuesName (hcs c List.mem_cons_self)

/-- What follows a letter of a name is clean. -/
theorem clean_of_append_eq_cons {ds : List Char} (hcs : ∀ d ∈ cs, continuesName d) (h : Ends rest)
    (hc : c ∉ separators) (he : cs ++ rest = c :: ds) : Clean ds := by
  cases cs with
  | nil =>
    rw [List.nil_append] at he
    exact absurd (h c (by rw [he]; rfl)).1 hc
  | cons c' cs =>
    rw [List.cons_append] at he
    rw [← (List.cons.inj he).2]
    exact clean_append (fun d hd => hcs d (List.mem_cons_of_mem c' hd)) h

theorem afterName_append (hc : startsName c) (hcs : ∀ d ∈ cs, continuesName d) (h : Ends rest) :
    afterName (c :: (cs ++ rest)) = some rest := by
  have hrest : rest.dropWhile continuesName = rest := by
    cases rest with
    | nil => rfl
    | cons d ds => simp [(of_mem_separators d (h d rfl).1).2]
  simp only [afterName, hc, if_true, List.dropWhile_append_of_pos hcs, hrest]

theorem consumed_append (cs rest : List Char) : consumed (cs ++ rest) rest = String.ofList cs := by
  unfold consumed
  simp

theorem scanIdent_plain (hc : startsName c) (hcs : ∀ d ∈ cs, continuesName d) (h : Ends rest) :
    scanIdent (c :: (cs ++ rest)) = some (⟨String.ofList (c :: cs), false⟩, rest) := by
  have hword : afterWord "r#" (c :: (cs ++ rest)) = none := by
    unfold afterWord
    cases hrest : cs ++ rest with
    | nil => simp [List.isPrefixOf]
    | cons d ds =>
      have hhash : d ≠ '#' := (clean_append hcs h d (by rw [hrest]; rfl)).2.1
      simp [List.isPrefixOf, hhash.symm]
  have hconsumed := consumed_append (c :: cs) rest
  rw [List.cons_append] at hconsumed
  simp only [scanIdent, hword, afterName_append hc hcs h, Option.bind_eq_bind, Option.bind_some,
    hconsumed]

theorem scanIdent_raw (hc : startsName c) (hcs : ∀ d ∈ cs, continuesName d) (h : Ends rest)
    (hraw : String.ofList (c :: cs) ∉ ["_", "super", "self", "Self", "crate"]) :
    scanIdent ('r' :: '#' :: c :: (cs ++ rest)) = some (⟨String.ofList (c :: cs), true⟩, rest) := by
  have hword : afterWord "r#" ('r' :: '#' :: c :: (cs ++ rest)) = some (c :: (cs ++ rest)) := by
    have hlength : "r#".length = 2 := rfl
    simp [afterWord, List.isPrefixOf, hlength]
  have hconsumed := consumed_append (c :: cs) rest
  rw [List.cons_append] at hconsumed
  have hcontains : ["_", "super", "self", "Self", "crate"].contains (String.ofList (c :: cs)) =
      false := by
    simpa using hraw
  simp only [scanIdent, hword, afterName_append hc hcs h, Option.bind_eq_bind, Option.bind_some,
    hconsumed, hcontains, Bool.false_eq_true, if_false]

theorem startsPunctuation_of_startsName (hc : startsName c) :
    startsPunctuation (c :: cs) = false := by
  have hnot := not_mem_of_startsName hc
  have hslash : c ≠ '/' := ne_of_not_mem hnot (by decide)
  have hmem : c ∉ punctuation := fun h => hnot (List.mem_append_left _ h)
  unfold startsPunctuation
  split <;> simp_all

/-- A name is neither a literal nor punctuation, nor does it begin like one. -/
theorem scanLeaf_of_startsName (hc : startsName c) (htext : afterTextLiteral (c :: cs) = none)
    (hstarts : (literalStarts.any fun s => s.toList.isPrefixOf (c :: cs)) = false) :
    scanLeaf (c :: cs) = (scanIdent (c :: cs)).map fun (i, rest) => (.ident i, rest) := by
  have hpunct : scanPunct (c :: cs) = none := by
    simp only [scanPunct, startsPunctuation_of_startsName hc, Bool.not_false, if_true]
  simp only [scanLeaf, scanLiteral_of_clean (isDigit_of_startsName hc) htext, hpunct, hstarts,
    Bool.false_eq_true, if_false]

theorem scanLeaf_plain (hc : startsName c) (hcs : ∀ d ∈ cs, continuesName d) (h : Ends rest) :
    scanLeaf (c :: (cs ++ rest)) = some (.ident ⟨String.ofList (c :: cs), false⟩, rest) := by
  have hnot := not_mem_of_startsName hc
  have hclean := clean_append hcs h
  have hr : ∀ d, d ∉ separators → ∀ ds, cs ++ rest = d :: ds → Clean ds :=
    fun d hd ds he => clean_of_append_eq_cons hcs h hd he
  have htext : afterTextLiteral (c :: (cs ++ rest)) = none :=
    afterTextLiteral_of_clean ⟨ne_of_not_mem hnot (by decide), ne_of_not_mem hnot (by decide)⟩
      hclean (hr 'r' (by decide))
  have hstarts : (literalStarts.any fun s => s.toList.isPrefixOf (c :: (cs ++ rest))) = false := by
    cases htail : cs ++ rest with
    | nil => simp [literalStarts, List.isPrefixOf]
    | cons d ds =>
      obtain ⟨hquote, hhash, hsingle⟩ := hclean d (by rw [htail]; rfl)
      have hsingle' : '\x27' ≠ d := hsingle.symm
      have hds : 'r' = d → Clean ds := by
        rintro rfl
        exact hr 'r' (by decide) ds htail
      cases ds with
      | nil => simp [literalStarts, List.isPrefixOf, hquote.symm, hsingle']
      | cons e es =>
        have he : 'r' = d → '"' ≠ e ∧ '#' ≠ e := fun hd =>
          ⟨(hds hd e rfl).1.symm, (hds hd e rfl).2.1.symm⟩
        simp only [ne_eq] at he
        simp [literalStarts, List.isPrefixOf, hquote.symm, hhash.symm, hsingle']
        tauto
  rw [scanLeaf_of_startsName hc htext hstarts, scanIdent_plain hc hcs h]
  rfl

theorem scanLeaf_raw (hc : startsName c) (hcs : ∀ d ∈ cs, continuesName d) (h : Ends rest)
    (hraw : String.ofList (c :: cs) ∉ ["_", "super", "self", "Self", "crate"]) :
    scanLeaf ('r' :: '#' :: c :: (cs ++ rest)) =
      some (.ident ⟨String.ofList (c :: cs), true⟩, rest) := by
  have hnot := not_mem_of_startsName hc
  have hhash : c ≠ '#' := ne_of_not_mem hnot (by decide)
  have hquote : c ≠ '"' := ne_of_not_mem hnot (by decide)
  have htext : afterTextLiteral ('r' :: '#' :: c :: (cs ++ rest)) = none := by
    have hhashes : (('#' :: c :: (cs ++ rest)).takeWhile (· == '#')).length = 1 := by simp [hhash]
    simp only [afterTextLiteral, afterRaw, hhashes, List.drop_succ_cons, List.drop_zero]
    split
    · next heq => exact absurd (List.cons.inj heq).1 hquote
    · rfl
  have hstarts : (literalStarts.any fun s =>
      s.toList.isPrefixOf ('r' :: '#' :: c :: (cs ++ rest))) = false := by
    simp [literalStarts, List.isPrefixOf, hhash.symm, hquote.symm]
  rw [scanLeaf_of_startsName (by decide) htext hstarts, scanIdent_raw hc hcs h hraw]
  rfl

theorem Ident.Spelled.exists_cons (h : i.Spelled) : ∃ c cs, i.name = String.ofList (c :: cs) ∧
    startsName c ∧ isBlank c = false ∧ ∀ d ∈ cs, continuesName d := by
  obtain ⟨⟨c, hc, hstarts⟩, hcontinues⟩ := afterName_eq_nil_iff.mp h.name
  obtain ⟨cs, hcs⟩ := List.head?_eq_some_iff.mp hc
  rw [hcs] at hcontinues
  refine ⟨c, cs, ?_, hstarts, h.visible c hc, hcontinues⟩
  rw [← hcs, String.ofList_toList]

/-- The written form of an identifier begins like a name. -/
theorem Ident.Spelled.text_cons (h : i.Spelled) : ∃ c cs, i.text.toList = c :: cs ∧
    startsName c ∧ isBlank c = false := by
  obtain ⟨c, cs, hname, hc, hblank, -⟩ := h.exists_cons
  unfold Ident.text
  cases i.raw with
  | true => exact ⟨'r', '#' :: c :: cs, by simp [hname], by decide, by decide⟩
  | false => exact ⟨c, cs, by simp [hname], hc, hblank⟩

/-- A name is read as the identifier that it writes. -/
theorem scanLeaf_ident (h : i.Spelled) (hrest : Ends rest) :
    scanLeaf (i.text.toList ++ rest) = some (.ident i, rest) := by
  obtain ⟨c, cs, hname, hc, -, hcs⟩ := h.exists_cons
  obtain ⟨name, raw⟩ := i
  obtain rfl : name = String.ofList (c :: cs) := hname
  cases raw with
  | true =>
    have htext : (Ident.text ⟨String.ofList (c :: cs), true⟩).toList = 'r' :: '#' :: c :: cs := by
      simp [Ident.text]
    rw [htext]
    exact scanLeaf_raw hc hcs hrest (h.raw rfl)
  | false =>
    have htext : (Ident.text ⟨String.ofList (c :: cs), false⟩).toList = c :: cs := by
      simp [Ident.text]
    rw [htext]
    exact scanLeaf_plain hc hcs hrest

end Names

/-! ## Token trees -/

/-- What is left of a text completes what was read before it to these tokens. -/
def Lexes (stack : OpenGroups) (taken : List Token) (cs : List Char) (ts : Tokens) : Prop :=
  ∀ fuel, cs.length < fuel → scanTokens fuel stack taken cs = some ts

namespace Lexes

variable {stack : OpenGroups} {taken : List Token} {c : Char} {cs rest : List Char} {ts : Tokens}

/-- Nothing is skipped in front of a character that is neither blank nor begins a comment. -/
theorem skipBlanks_eq (hslash : c ≠ '/') (hblank : isBlank c = false) (fuel : ℕ) :
    skipBlanks (fuel + 1) (c :: cs) = c :: cs := by
  have hcomment : afterComment (c :: cs) = none := by
    unfold afterComment
    split <;> simp_all
  simp [skipBlanks, hcomment, hblank]

theorem scanDoc_eq_none (hslash : c ≠ '/') : scanDoc (c :: cs) = none := by
  unfold scanDoc
  split <;> simp_all

theorem leaf {t : Token} (hslash : c ≠ '/') (hblank : isBlank c = false)
    (hdelimiter : opening? c = none ∧ closing? c = none)
    (hleaf : scanLeaf (c :: cs) = some (t, rest)) (hle : rest.length ≤ cs.length)
    (h : Lexes stack (t :: taken) rest ts) : Lexes stack taken (c :: cs) ts := by
  intro fuel hfuel
  obtain ⟨n, rfl⟩ : ∃ n, fuel = n + 1 := ⟨fuel - 1, by omega⟩
  rw [List.length_cons] at hfuel
  simp only [scanTokens, skipBlanks_eq hslash hblank, scanDoc_eq_none hslash, hdelimiter, hleaf]
  exact h n (by omega)

theorem space (h : Lexes stack taken rest ts) : Lexes stack taken (' ' :: rest) ts := by
  intro fuel hfuel
  obtain ⟨n, rfl⟩ : ∃ n, fuel = n + 1 := ⟨fuel - 1, by omega⟩
  rw [List.length_cons] at hfuel
  have hskip : skipBlanks (rest.length + 1 + 1) (' ' :: rest) = skipBlanks (rest.length + 1) rest :=
    rfl
  have hrest := h (n + 1) (by omega)
  simp only [scanTokens] at hrest ⊢
  rw [List.length_cons, hskip]
  exact hrest

theorem opening?_of_not_mem (hc : c ∉ separators) : opening? c = none ∧ closing? c = none := by
  have hne : ∀ d ∈ separators, c ≠ d := fun d hd => ne_of_not_mem hc hd
  unfold opening? closing?
  simp only [hne '(' (by decide), hne '[' (by decide), hne '\x7b' (by decide), hne ')' (by decide),
    hne ']' (by decide), hne '\x7d' (by decide), if_false, and_self]

theorem ident {i : Ident} (hi : i.Spelled) (hrest : Ends rest)
    (h : Lexes stack (.ident i :: taken) rest ts) : Lexes stack taken (i.text.toList ++ rest) ts := by
  obtain ⟨c, cs, htext, hc, hblank⟩ := hi.text_cons
  have hleaf := scanLeaf_ident hi hrest
  rw [htext, List.cons_append] at hleaf ⊢
  have hnot := not_mem_of_startsName hc
  have hle : rest.length ≤ (cs ++ rest).length := by
    rw [List.length_append]
    omega
  exact leaf (ne_of_not_mem hnot (by decide)) hblank (opening?_of_not_mem hnot) hleaf hle h

theorem of_mem_punctuation : ∀ c ∈ punctuation, isBlank c = false ∧ isDigit c = false ∧
    c ∉ "\"rbc".toList ∧ opening? c = none ∧ closing? c = none :=
  List.all_iff_forall_prop.mp (by decide +kernel)

/-- A punctuation character that begins neither a comment nor a lifetime. -/
theorem punct (hc : c ∈ punctuation) (hslash : c ≠ '/') (hquote : c ≠ quote)
    (h : Lexes stack (.punct c (startsPunctuation rest) :: taken) rest ts) :
    Lexes stack taken (c :: rest) ts := by
  obtain ⟨hblank, hdigit, hletter, hdelimiter⟩ := of_mem_punctuation c hc
  have htext : afterTextLiteral (c :: rest) = none := by
    unfold afterTextLiteral
    split <;> simp_all
  have hstarts : startsPunctuation (c :: rest) = true := by
    unfold startsPunctuation
    split <;> simp_all
  have hleaf : scanLeaf (c :: rest) = some (.punct c (startsPunctuation rest), rest) := by
    simp only [scanLeaf, scanLiteral_of_clean hdigit htext, scanPunct, hstarts, hquote,
      Bool.not_true, Bool.false_eq_true, if_false]
  exact leaf hslash hblank hdelimiter hleaf le_rfl h

theorem of_delimiter {d : Delimiter} (h : opening? c = some d ∨ closing? c = some d) :
    c ≠ '/' ∧ isBlank c = false := by
  have hdelimiters : ∀ c ∈ "()[]\x7b\x7d".toList, c ≠ '/' ∧ isBlank c = false :=
    List.all_iff_forall_prop.mp (by decide +kernel)
  refine hdelimiters c ?_
  by_contra hnot
  unfold opening? closing? at h
  simp_all

theorem opened {d : Delimiter} (hc : opening? c = some d)
    (h : Lexes ((d, taken) :: stack) [] rest ts) : Lexes stack taken (c :: rest) ts := by
  intro fuel hfuel
  obtain ⟨n, rfl⟩ : ∃ n, fuel = n + 1 := ⟨fuel - 1, by omega⟩
  rw [List.length_cons] at hfuel
  obtain ⟨hslash, hblank⟩ := of_delimiter (.inl hc)
  simp only [scanTokens, skipBlanks_eq hslash hblank, scanDoc_eq_none hslash, hc]
  exact h n (by omega)

theorem closed {d : Delimiter} {before : List Token} (hc : closing? c = some d)
    (h : Lexes stack (.group d taken.reverse :: before) rest ts) :
    Lexes ((d, before) :: stack) taken (c :: rest) ts := by
  intro fuel hfuel
  obtain ⟨n, rfl⟩ : ∃ n, fuel = n + 1 := ⟨fuel - 1, by omega⟩
  rw [List.length_cons] at hfuel
  obtain ⟨hslash, hblank⟩ := of_delimiter (.inr hc)
  have hopening : opening? c = none := by
    unfold closing? at hc
    unfold opening?
    split_ifs at hc with h1 h2 h3 <;> simp [*]
  simp only [scanTokens, skipBlanks_eq hslash hblank, scanDoc_eq_none hslash, hopening, hc, if_true]
  exact h n (by omega)

theorem done : Lexes [] taken [] taken.reverse := by
  intro fuel hfuel
  obtain ⟨n, rfl⟩ : ∃ n, fuel = n + 1 := ⟨fuel - 1, by omega⟩
  rfl

end Lexes

end KeyedRecords.Source

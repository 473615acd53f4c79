import Mathlib.Data.Fintype.Fin
import Mathlib.Data.List.Duplicate
import KeyedRecords.Proofs.Description.KeySet

/-!
# Repeated literals are reported once

The cases of an enumeration are passed with the literals before them. A case is reported when
exactly one case before it has its literal, so that a third and a fourth say nothing more.

Results:
* `isSecond_iff`: being the second with a literal, by counting.
* `duplicatesFrom_eq`: what is reported, by position.
* `count_duplicatesFrom`: how often a literal is reported.
* `duplicates_exactly_once`: every repeated literal is reported once, at its second case.
-/

namespace KeyedRecords.Description.KeyEnum

/-- The case at this position is the second that has its literal: exactly one before it has it. -/
def IsSecond (cases : List EnumCase) (i : Fin cases.length) : Prop :=
  ∃! j : Fin cases.length, j < i ∧ (cases.get j).literal = (cases.get i).literal

/-! ## Counting -/

/-- Elements before a position are counted by their positions. -/
theorem card_positions {α : Type} (p : α → Bool) (as : List α) (n : ℕ) :
    (Finset.univ.filter fun j : Fin as.length => j.val < n ∧ p (as.get j)).card =
      (as.take n).countP p := by
  induction as generalizing n with
  | nil => simp
  | cons a as ih =>
    cases n with
    | zero => simp
    | succ n =>
      have hcard := (Fin.card_filter_univ_succ fun j : Fin (as.length + 1) =>
        j.val < n + 1 ∧ p ((a :: as).get j))
      simp only [Fin.val_zero, Fin.val_succ, Nat.succ_lt_succ_iff, Nat.zero_lt_succ, true_and,
        List.get_cons_zero, List.get_cons_succ'] at hcard
      rw [List.take_succ_cons, List.countP_cons, ← ih n]
      refine hcard.trans ?_
      split_ifs <;> rfl

theorem isSecond_iff {cases : List EnumCase} {i : Fin cases.length} : IsSecond cases i ↔
    ((cases.take i).map EnumCase.literal).count (cases.get i).literal = 1 := by
  have hcount : ((cases.take i).map EnumCase.literal).count (cases.get i).literal =
      (cases.take i).countP fun c => c.literal = (cases.get i).literal := by
    rw [List.count, List.countP_map]
    rfl
  unfold IsSecond
  rw [Fintype.existsUnique_iff_card_one, hcount, ← card_positions]
  simp only [Fin.lt_def, decide_eq_true_eq]

/-- Reported are the cases whose literal is counted once among all that were before. -/
theorem duplicatesFrom_eq (seen : List KeyLiteral) (cs : List EnumCase) :
    duplicatesFrom seen cs = ((List.finRange cs.length).filter fun i =>
      seen.count (cs.get i).literal +
        ((cs.take i).map EnumCase.literal).count (cs.get i).literal = 1).map cs.get := by
  induction cs generalizing seen with
  | nil => rfl
  | cons c cs ih =>
    have hpositions : List.finRange (c :: cs).length =
        (0 : Fin (c :: cs).length) :: (List.finRange cs.length).map Fin.succ := List.finRange_succ
    have hcount : ∀ i : Fin cs.length,
        (c.literal :: seen).count (cs.get i).literal +
            ((cs.take i).map EnumCase.literal).count (cs.get i).literal =
          seen.count ((c :: cs).get i.succ).literal +
            (((c :: cs).take i.succ).map EnumCase.literal).count ((c :: cs).get i.succ).literal := by
      intro i
      rw [Fin.val_succ, List.take_succ_cons, List.map_cons, List.count_cons, List.count_cons,
        List.get_cons_succ']
      omega
    have hhead : seen.count ((c :: cs).get 0).literal +
        (((c :: cs).take (0 : Fin (c :: cs).length)).map EnumCase.literal).count
          ((c :: cs).get 0).literal = seen.count c.literal := rfl
    rw [duplicatesFrom, ih, hpositions, List.filter_cons, List.filter_map, hhead]
    simp only [hcount, decide_eq_true_eq]
    split_ifs
    · rw [List.map_cons, List.map_map]
      rfl
    · rw [List.map_map]
      rfl

/-- A literal is reported if it is repeated, and only once. -/
theorem count_duplicatesFrom (l : KeyLiteral) (seen : List KeyLiteral) (cs : List EnumCase) :
    ((duplicatesFrom seen cs).map EnumCase.literal).count l =
      if seen.count l < 2 ∧ 2 ≤ seen.count l + (cs.map EnumCase.literal).count l then 1 else 0 := by
  induction cs generalizing seen with
  | nil =>
    rw [duplicatesFrom, List.map_nil, List.count_nil, if_neg (by omega)]
  | cons c cs ih =>
    rw [duplicatesFrom, List.map_append, List.count_append, ih, List.map_cons, List.count_cons,
      List.count_cons]
    by_cases hc : c.literal = l
    · subst hc
      by_cases hone : seen.count c.literal = 1
      · simp [hone]
      · simp only [hone, if_false, List.map_nil, List.count_nil, beq_self_eq_true, if_true]
        split_ifs <;> omega
    · have hlist : ((if seen.count c.literal = 1 then [c] else []).map EnumCase.literal).count l =
          0 := by
        split_ifs <;> simp [hc]
      simp only [hlist, beq_iff_eq, hc, if_false, Nat.add_zero, Nat.zero_add]

/-! ## What is reported -/

/-- Every literal that two cases have is reported once and no other is. The case that is reported
    is the second that has the literal, and the reports come in the order of these cases. -/
theorem duplicates_exactly_once (k : KeyEnum) :
    (∃ positions : List (Fin k.cases.length), positions.Pairwise (· < ·) ∧
      (∀ i, i ∈ positions ↔ IsSecond k.cases i) ∧ k.duplicates = positions.map k.cases.get) ∧
    (∀ l, (k.duplicates.map EnumCase.literal).count l =
      if List.Duplicate l (k.cases.map EnumCase.literal) then 1 else 0) ∧
    (k.duplicates = [] ↔ (k.cases.map EnumCase.literal).Nodup) := by
  refine ⟨⟨_, ?_, fun i => ?_, duplicatesFrom_eq [] k.cases⟩, fun l => ?_, ?_⟩
  · exact (List.pairwise_lt_finRange _).filter _
  · rw [List.mem_filter, isSecond_iff, List.count_nil, Nat.zero_add, decide_eq_true_eq]
    exact and_iff_right (List.mem_finRange i)
  · simp only [duplicates, count_duplicatesFrom, List.duplicate_iff_two_le_count, List.count_nil,
      Nat.zero_add, Nat.two_pos, true_and]
  · rw [← duplicateProblems_eq_nil_iff, duplicateProblems, List.map_eq_nil_iff]

/-- A text and an integer, both repeated, the integer within the repetition of the text. -/
example : duplicates ⟨.ofName "Keys", true, .text,
      [⟨.ofName "A", .text "x"⟩, ⟨.ofName "B", .int 1⟩, ⟨.ofName "C", .int 1⟩,
        ⟨.ofName "D", .text "x"⟩, ⟨.ofName "E", .text "x"⟩, ⟨.ofName "F", .text "1"⟩]⟩ =
    [⟨.ofName "C", .int 1⟩, ⟨.ofName "D", .text "x"⟩] := by
  decide

end KeyedRecords.Description.KeyEnum

import Mathlib.Tactic
import KeyedRecords.Source.Reader

/-!
# What readers make of tokens

Every reader is described by what it takes from the front of some tokens and what
it leaves. `Steps` describes a repetition by the steps that are taken, and has no
bound on their number.

Results:
* `Steps.steps`: a repetition takes its steps, however many there are.
* `separatedStep_last`, `separatedStep_comma`: one step of a list with commas.
-/

namespace KeyedRecords.Source.Reader

variable {α β : Type} {ts rest : Tokens}

/-! ## Single readers -/

theorem bind_apply (r : Reader α) (f : α → Reader β) (ts : Tokens) :
    (r >>= f) ts = (r ts).bind fun x => f x.1 x.2 := by
  show StateT.bind r f ts = _
  unfold StateT.bind
  cases r ts <;> rfl

theorem map_apply {r : Reader α} (f : α → β) {a : α} (h : r ts = some (a, rest)) :
    (f <$> r) ts = some (f a, rest) := by
  rw [map_eq_pure_bind, bind_apply, h]
  rfl

theorem atEnd_apply (ts : Tokens) : atEnd ts = some (ts.isEmpty, ts) := rfl

theorem atOp_apply (text : String) (ts : Tokens) :
    atOp text ts = some (startsWith text.toList ts, ts) := rfl

theorem after_apply (n : ℕ) (r : Reader α) (ts : Tokens) :
    after n r ts = some ((r (ts.drop n)).map Prod.fst, ts) := rfl

section Operators

variable {text : String}

theorem op_apply (h : startsWith text.toList ts = true) :
    op text ts = some (operator text, ts.drop text.length) := by
  unfold op
  simp only [bind_apply, atOp_apply, Option.bind_some, h]
  rfl

theorem opIf_of_startsWith (h : startsWith text.toList ts = true) :
    opIf text ts = some (operator text, ts.drop text.length) := by
  unfold opIf
  simp only [bind_apply, atOp_apply, Option.bind_some, h, if_true, op_apply]

theorem opIf_of_not_startsWith (h : startsWith text.toList ts = false) :
    opIf text ts = some ([], ts) := by
  unfold opIf
  simp only [bind_apply, atOp_apply, Option.bind_some, h]
  rfl

end Operators

section Names

variable (i : Ident) (rest : Tokens)

theorem nextWord?_ident : nextWord? (.ident i :: rest) = some (some i, .ident i :: rest) := rfl

theorem atWord_ident (word : String) :
    atWord word (.ident i :: rest) = some (i.isWord word, .ident i :: rest) := rfl

theorem atAnyWord_ident (words : List String) :
    atAnyWord words (.ident i :: rest) = some (words.any i.isWord, .ident i :: rest) := rfl

theorem anyIdent_ident : anyIdent (.ident i :: rest) = some (i, rest) := rfl

theorem ident_ident {i : Ident} (h : i.isKeyword = false) :
    ident (.ident i :: rest) = some (i, rest) := by
  unfold ident
  simp only [bind_apply, anyIdent_ident, Option.bind_some, h]
  rfl

end Names

theorem inGroup_group {d : Delimiter} {content : Tokens} {r : Reader α} {a : α}
    (h : r content = some (a, [])) : inGroup d r (.group d content :: rest) = some (a, rest) := by
  have hcontent : groupContent d (.group d content :: rest) = some (content, rest) := by
    show (if d = d then pure content else fail : Reader Tokens) rest = _
    rw [if_pos rfl]
    rfl
  unfold inGroup
  simp only [bind_apply, hcontent, Option.bind_some, within, h]

/-! ## Repetition -/

/-- The steps that are taken on some tokens, and what they leave. Every step takes a token. -/
inductive Steps (step : Reader (Option α)) : Tokens → List α → Tokens → Prop
  | done {ts rest : Tokens} (h : step ts = some (none, rest)) : Steps step ts [] rest
  | more {ts ts' rest : Tokens} {a : α} {as : List α} (h : step ts = some (some a, ts'))
      (hlt : ts'.length < ts.length) (hmore : Steps step ts' as rest) : Steps step ts (a :: as) rest

theorem Steps.stepsFrom {step : Reader (Option α)} {as : List α} (h : Steps step ts as rest) :
    ∀ {fuel : ℕ}, ts.length < fuel → stepsFrom step fuel ts = some (as, rest) := by
  induction h with
  | done h =>
    intro fuel hfuel
    obtain ⟨n, rfl⟩ : ∃ n, fuel = n + 1 := ⟨fuel - 1, by omega⟩
    simp only [Reader.stepsFrom, bind_apply, h, Option.bind_some]
    rfl
  | more h hlt _ ih =>
    intro fuel hfuel
    obtain ⟨n, rfl⟩ : ∃ n, fuel = n + 1 := ⟨fuel - 1, by omega⟩
    simp only [Reader.stepsFrom, bind_apply, h, Option.bind_some, ih (show _ < n by omega)]
    rfl

/-- A repetition takes its steps. -/
theorem Steps.steps {step : Reader (Option α)} {as : List α} (h : Steps step ts as rest) :
    steps step ts = some (as, rest) :=
  h.stepsFrom (Nat.lt_succ_self _)

/-! ## Items with commas between them -/

/-- Reads an item and the comma behind it, if anything is left. -/
def separatedStep (item : Reader α) : Reader (Option (α × Bool)) := do
  if ← atEnd then pure none
  else
    let a ← item
    let more ← atEnd
    if more then pure (some (a, false))
    else
      let _ ← op ","
      pure (some (a, true))

theorem separated_eq_steps (item : Reader α) : separated item = steps (separatedStep item) := rfl

section Separated

variable {item : Reader α} {a : α} {t : Token}

theorem separatedStep_last (h : item (t :: ts) = some (a, [])) :
    separatedStep item (t :: ts) = some (some (a, false), []) := by
  unfold separatedStep
  simp only [bind_apply, atEnd_apply, List.isEmpty_cons, Bool.false_eq_true, if_false, h,
    Option.bind_some]
  rfl

theorem separatedStep_comma {joint : Bool}
    (h : item (t :: ts) = some (a, .punct ',' joint :: rest)) :
    separatedStep item (t :: ts) = some (some (a, true), rest) := by
  unfold separatedStep
  simp only [bind_apply, atEnd_apply, List.isEmpty_cons, Bool.false_eq_true, if_false, h,
    Option.bind_some]
  rfl

end Separated

end KeyedRecords.Source.Reader

import Mathlib.Data.List.DropRight
import KeyedRecords.Proofs.Model.Trace

/-!
# The latest events

A registrar drops its oldest event only when it keeps exactly as many as its limit: it tests for
equality. That is enough, because at any time the kept events are the last of all that were emitted
since they were last taken, and so never more than the limit. `Keeps` is this invariant.

Results:
* `Registrar.keeps_after`: the invariant holds after anything that is done with a registrar.
* `Registrar.kept_is_latest`: what is kept, taken and counted, however the registrar was used.
* `Session.drain_gives_latest`: what is taken in a session is the end of its trace.
-/

namespace KeyedRecords

/-! ## The end of a list -/

theorem length_rtake {α : Type} (as : List α) (n : ℕ) : (as.rtake n).length = min n as.length := by
  rw [List.rtake, List.length_drop]
  omega

theorem rtake_min_length {α : Type} (as : List α) (n : ℕ) :
    as.rtake (min n as.length) = as.rtake n := by
  unfold List.rtake
  congr 1
  omega

namespace Registrar

/-! ## What is done with a registrar -/

/-- One thing that is done with a registrar and changes it. -/
inductive Step
  /-- An event is recorded and passed to the observers. -/
  | emit (e : Event)
  /-- The kept events are taken. -/
  | drain
  /-- An observer is added. -/
  | observe
  /-- The calls of the observers are taken. -/
  | takeCalls
  deriving DecidableEq

/-- The event of a step. -/
def Step.emitted? : Step → Option Event
  | emit e => some e
  | drain | observe | takeCalls => none

/-- The registrar after a step. -/
def step (r : Registrar) : Step → Registrar
  | .emit e => r.emit e
  | .drain => r.drain.2
  | .observe => r.observe
  | .takeCalls => r.takeCalls.2

/-- The registrar after some steps. -/
def after (r : Registrar) (steps : List Step) : Registrar := steps.foldl step r

/-- The events of the steps after the last drain, or of all steps if there is none. -/
def sinceDrain (steps : List Step) : List Event :=
  (steps.rtakeWhile (· ≠ .drain)).filterMap Step.emitted?

theorem sinceDrain_concat_drain (steps : List Step) : sinceDrain (steps ++ [.drain]) = [] := by
  unfold sinceDrain
  rw [List.rtakeWhile_concat_neg _ _ _ (by simp), List.filterMap_nil]

theorem sinceDrain_concat_of_ne {s : Step} (hs : s ≠ .drain) (steps : List Step) :
    sinceDrain (steps ++ [s]) = sinceDrain steps ++ s.emitted?.toList := by
  unfold sinceDrain
  rw [List.rtakeWhile_concat_pos _ _ _ (by simpa using hs), List.filterMap_append]
  cases s <;> rfl

/-! ## What is kept -/

/-- To record an event behind the latest of some events gives the latest of these and the event. -/
theorem record_rtake (limit : ℕ) (es : List Event) (e : Event) :
    record limit (es.rtake limit) e = (es ++ [e]).rtake limit := by
  cases limit with
  | zero => simp [record]
  | succ n =>
    have hlength := length_rtake es (n + 1)
    -- At the limit the first of `n + 1` events goes; below it there are no more than `n`.
    have hroom : (if (es.rtake (n + 1)).length = n + 1 then (es.rtake (n + 1)).drop 1
        else es.rtake (n + 1)) = es.rtake n := by
      unfold List.rtake at hlength ⊢
      split_ifs with hfull
      · rw [List.drop_drop]
        congr 1
        omega
      · congr 1
        omega
    rw [record, if_pos n.succ_pos, hroom, List.rtake_concat_succ]

/-- The registrar has this limit and keeps the latest of these events, as many as the limit
    lets it. -/
structure Keeps (limit : ℕ) (es : List Event) (r : Registrar) : Prop where
  limit_eq : r.limit = limit
  history_eq : r.history = es.rtake limit

variable {limit : ℕ} {es : List Event} {r : Registrar}

theorem keeps_withHistory (limit : ℕ) : Keeps limit [] (withHistory limit) :=
  ⟨rfl, (List.rtake_nil limit).symm⟩

theorem Keeps.emit (h : Keeps limit es r) (e : Event) : Keeps limit (es ++ [e]) (r.emit e) := by
  refine ⟨h.limit_eq, ?_⟩
  rw [← record_rtake, ← h.history_eq, ← h.limit_eq]
  rfl

theorem Keeps.emitAll (h : Keeps limit es r) (es' : List Event) :
    Keeps limit (es ++ es') (r.emitAll es') := by
  induction es' generalizing es r with
  | nil => rwa [List.append_nil]
  | cons e es' ih =>
    rw [List.append_cons]
    exact ih (h.emit e)

theorem keeps_drain (r : Registrar) : Keeps r.limit [] r.drain.2 :=
  ⟨rfl, (List.rtake_nil r.limit).symm⟩

theorem Keeps.observe (h : Keeps limit es r) : Keeps limit es r.observe :=
  ⟨h.limit_eq, h.history_eq⟩

theorem Keeps.takeCalls (h : Keeps limit es r) : Keeps limit es r.takeCalls.2 :=
  ⟨h.limit_eq, h.history_eq⟩

/-- A step adds its event to those that the kept ones are the latest of, and a drain starts
    anew. -/
theorem Keeps.step {steps : List Step} (h : Keeps limit (sinceDrain steps) r) (s : Step) :
    Keeps limit (sinceDrain (steps ++ [s])) (r.step s) := by
  cases s with
  | emit e =>
    rw [sinceDrain_concat_of_ne (by simp)]
    exact h.emit e
  | drain =>
    rw [sinceDrain_concat_drain, ← h.limit_eq]
    exact keeps_drain r
  | observe =>
    rw [sinceDrain_concat_of_ne (by simp), Step.emitted?, Option.toList_none, List.append_nil]
    exact h.observe
  | takeCalls =>
    rw [sinceDrain_concat_of_ne (by simp), Step.emitted?, Option.toList_none, List.append_nil]
    exact h.takeCalls

theorem keeps_after (limit : ℕ) (steps : List Step) :
    Keeps limit (sinceDrain steps) ((withHistory limit).after steps) := by
  induction steps using List.reverseRecOn with
  | nil => exact keeps_withHistory limit
  | append_singleton steps s ih =>
    rw [after, List.foldl_concat]
    exact ih.step s

/-- However a registrar was used, it keeps no more events than its limit, and these are the latest
    of all that were emitted since they were last taken, in their order. They are what is taken
    next, after which none is kept, and what is counted. -/
theorem kept_is_latest (limit : ℕ) (steps : List Step) :
    let r := (withHistory limit).after steps
    let es := sinceDrain steps
    let latest := es.rtake (min limit es.length)
    r.history.length ≤ limit ∧ r.events = latest ∧ r.drain.1 = latest ∧ r.drain.2.events = [] ∧
      ∀ e, r.count e = latest.count e := by
  intro r es latest
  have hhistory : r.history = latest :=
    (keeps_after limit steps).history_eq.trans (rtake_min_length es limit).symm
  have hbound : r.history.length ≤ limit := by
    rw [hhistory, length_rtake]
    omega
  exact ⟨hbound, hhistory, hhistory, rfl, fun e => congrArg (List.count e) hhistory⟩

/-- Of three events two are kept. -/
example (number text : FieldId) :
    ((withHistory 2).after [.emit ⟨.access, number⟩, .emit ⟨.willMutate, text⟩,
      .emit ⟨.didMutate, text⟩]).events = [⟨.willMutate, text⟩, ⟨.didMutate, text⟩] := by
  rfl

end Registrar

/-! ## Sessions -/

namespace Session

variable {ι : Type} [DecidableEq ι] {models : ι → Model} {σ : Type} (rs : RecordStore σ)

variable {w : Session models σ} {limit : ℕ} {es : List Event}

theorem keeps_call (h : w.shared.registrar.Keeps limit es) {c : Call models σ} (hc : c ≠ .drain) :
    (w.call rs c).2.shared.registrar.Keeps limit (es ++ w.events rs c) := by
  rw [registrar_call]
  have hemitted := h.emitAll (w.events rs c)
  cases c with
  | drain => exact absurd rfl hc
  | observe => exact hemitted.observe
  | make _ _ _ | use _ _ | ask _ _ | poison | outside _ => exact hemitted

theorem keeps_of_trace (h : w.shared.registrar.Keeps limit es) {calls : List (Call models σ)}
    (hcalls : .drain ∉ calls) :
    (w.after rs calls).shared.registrar.Keeps limit (es ++ w.trace rs calls) := by
  induction calls generalizing w es with
  | nil => rwa [trace, List.append_nil]
  | cons c calls ih =>
    obtain ⟨hc, hcalls'⟩ := not_or.mp (mt List.mem_cons.mpr hcalls)
    rw [after_cons, trace, ← List.append_assoc]
    exact ih (keeps_call rs h fun hdrain => hc hdrain.symm) hcalls'

/-- Between two drains a session goes on as it likes: the second one gives the end of what was
    emitted since the first, up to the limit of the registrar. -/
theorem drain_gives_latest (w : Session models σ) {calls : List (Call models σ)}
    (hcalls : .drain ∉ calls) :
    let drained := (w.call rs .drain).2
    ((drained.after rs calls).call rs .drain).1 =
      some (.ok ((drained.trace rs calls).rtake w.shared.registrar.limit)) := by
  intro drained
  have hdrained : drained.shared.registrar.Keeps w.shared.registrar.limit [] :=
    Registrar.keeps_drain w.shared.registrar
  exact congrArg (some ∘ Except.ok) (keeps_of_trace rs hdrained hcalls).history_eq

end Session

end KeyedRecords

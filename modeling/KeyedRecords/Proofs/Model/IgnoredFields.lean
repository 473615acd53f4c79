import KeyedRecords.Proofs.Model.Quiet
import KeyedRecords.Proofs.Model.Session

/-!
# Ignored fields stay out of the record

Two runs that differ in the values of ignored fields, in the use of their accessors and in the
sinks store the same and give the same. The proof is a simulation: what is stored, the gate and the
slots of all instances agree in both runs, whatever their ignored values, the registrar and the log
are.

Results:
* `Action.Alike`, `Method.Alike`: actions and methods that do the same to what must agree, with a
  rule for each way to put them together.
* `Session.agrees_call`: calls that differ in what is ignored keep sessions in agreement.
* `Session.same_transcript`: so do runs, and they give the same all along.
-/

namespace KeyedRecords

/-! ## Actions that do the same -/

namespace Action

variable {σ α β : Type}

/-- From states that agree, the actions give the same and get to states that agree. -/
def Alike (a b : Action σ α) : Prop :=
  ∀ rt rt' : Runtime σ, rt.Agrees rt' → (a rt).1 = (b rt').1 ∧ (a rt).2.Agrees (b rt').2

theorem Alike.pure (v : α) : Alike (pure v : Action σ α) (pure v) := fun _ _ h => ⟨rfl, h⟩

theorem Alike.bind {a b : Action σ α} {f g : α → Action σ β} (ha : Alike a b)
    (hf : ∀ v, Alike (f v) (g v)) : Alike (a >>= f) (b >>= g) := by
  intro rt rt' h
  obtain ⟨hr, hagrees⟩ := ha rt rt' h
  rw [bind_apply, bind_apply, ← hr]
  cases (a rt).1 with
  | ok v => exact hf v _ _ hagrees
  | error e => exact ⟨rfl, hagrees⟩

/-- An action that takes no notice of what was logged and observed is like itself. -/
theorem Quiet.alike {a : Action σ α} (ha : Quiet a) : Alike a a :=
  fun rt rt' h => ⟨ha.result rt rt' h, ha.agrees rt rt' h⟩

/-- Actions are alike if they end alike, however the store and the gate are. -/
theorem Alike.of_ends {a b : Action σ α} {result : σ → Bool → Except Failure α}
    {next : σ → Bool → σ} (ha : ∀ s p, Ends a s p (result s p) (next s p))
    (hb : ∀ s p, Ends b s p (result s p) (next s p)) : Alike a b := by
  intro rt rt' h
  obtain ⟨hr, hs, hp⟩ := ha rt.store rt.poisoned rt rfl rfl
  obtain ⟨hr', hs', hp'⟩ := hb rt.store rt.poisoned rt' h.store.symm h.gate.symm
  exact ⟨hr.trans hr'.symm, hs.trans hs'.symm, hp.trans hp'.symm⟩

end Action

/-! ## Contexts with different sinks -/

namespace RecordStore

open KeyedRecords.Action

variable {σ : Type} (rs : RecordStore σ) (sink sink' : Sink)

theorem alike_access (field : FieldId) :
    Alike ((rs.context sink).access field) ((rs.context sink').access field) :=
  .of_ends (fun _ _ => Context.ends_access _ field) fun _ _ => Context.ends_access _ field

/-- A value is exchanged once, however often either sink runs the exchange. -/
theorem alike_replace {α : Type} (field : FieldId) (slot value : α) :
    Alike ((rs.context sink).replace field slot value) ((rs.context sink').replace field slot value) :=
  .of_ends (fun _ _ => Context.ends_replace _ field slot value)
    fun _ _ => Context.ends_replace _ field slot value

theorem alike_commit (s : RecordSchema) (field : FieldId) (r : s.Record)
    (i : Fin s.fields.length) (v : (s.fields.get i).type.Value) :
    Alike ((rs.context sink).commit s field r i v) ((rs.context sink').commit s field r i v) := by
  refine (rs.alike_replace sink sink' field _ v).bind fun exchanged => ?_
  refine ((rs.context sink).quiet_save s _).attempt.alike.bind fun outcome => ?_
  cases outcome with
  | ok u => exact .pure _
  | error e =>
    exact (quiet_log _ _).alike.bind fun _ =>
      (rs.alike_replace sink sink' field _ exchanged.2).bind fun _ => .pure _

end RecordStore

theorem Request.alike {σ : Type} (rs : RecordStore σ) (sink sink' : Sink) (q : Request) :
    Action.Alike (q.run (rs.context sink)) (q.run (rs.context sink')) := by
  -- A sink has no part in what goes through the gate.
  cases q with
  | isPersisted => exact (rs.context sink).quiet_isPersisted.alike
  | readContainer => exact (rs.context sink).quiet_readContainer.alike
  | load s => exact ((rs.context sink).quiet_load s).alike
  | save s r => exact ((rs.context sink).quiet_save s r).alike
  | commit s field r i v => exact rs.alike_commit sink sink' s field r i v
  | delete => exact (rs.context sink).quiet_delete.alike
  | shouldMigrate model s => exact ((rs.context sink).quiet_shouldMigrate model s).alike
  | migrate model s => exact ((rs.context sink).quiet_migrate model s).alike

/-! ## Instances with different ignored values -/

namespace Method

variable {m : Model} {σ α β : Type}

/-- From instances with the same slots and states that agree, the methods give the same and get to
    such instances and such states. -/
def Alike (a b : Method m σ α) : Prop :=
  ∀ (inst inst' : Instance m) (rt rt' : Runtime σ), inst.slots = inst'.slots → rt.Agrees rt' →
    (a (inst, rt)).1 = (b (inst', rt')).1 ∧
      (a (inst, rt)).2.1.slots = (b (inst', rt')).2.1.slots ∧
      (a (inst, rt)).2.2.Agrees (b (inst', rt')).2.2

/-- Methods that end alike meet in states that agree. -/
theorem Ends.meet {a b : Method m σ α} {inst inst' next next' : Instance m} {rt rt' : Runtime σ}
    {result : Except Failure α} {st : σ}
    (ha : Ends a inst rt.store rt.poisoned result next st)
    (hb : Ends b inst' rt.store rt.poisoned result next' st)
    (hslots : next.slots = next'.slots) (h : rt.Agrees rt') :
    (a (inst, rt)).1 = (b (inst', rt')).1 ∧
      (a (inst, rt)).2.1.slots = (b (inst', rt')).2.1.slots ∧
      (a (inst, rt)).2.2.Agrees (b (inst', rt')).2.2 := by
  obtain ⟨hr, hi, hs, hp⟩ := ha rt rfl rfl
  obtain ⟨hr', hi', hs', hp'⟩ := hb rt' h.store.symm h.gate.symm
  rw [hr, hr', hi, hi']
  exact ⟨rfl, hslots, hs.trans hs'.symm, hp.trans hp'.symm⟩

theorem Alike.pure (v : α) : Alike (pure v : Method m σ α) (pure v) :=
  fun _ _ _ _ hslots h => ⟨rfl, hslots, h⟩

theorem Alike.throw (e : Failure) : Alike (throw e : Method m σ α) (throw e) :=
  fun _ _ _ _ hslots h => ⟨rfl, hslots, h⟩

theorem Alike.bind {a b : Method m σ α} {f g : α → Method m σ β} (ha : Alike a b)
    (hf : ∀ v, Alike (f v) (g v)) : Alike (a >>= f) (b >>= g) := by
  intro inst inst' rt rt' hslots h
  obtain ⟨hr, hslots', hagrees⟩ := ha inst inst' rt rt' hslots h
  rw [bind_apply, bind_apply, ← hr]
  cases (a (inst, rt)).1 with
  | ok v => exact hf v _ _ _ _ hslots' hagrees
  | error e => exact ⟨rfl, hslots', hagrees⟩

theorem alike_lift {a b : Action σ α} (h : a.Alike b) :
    Alike (lift a : Method m σ α) (lift b) := by
  intro inst inst' rt rt' hslots hrt
  obtain ⟨hr, hagrees⟩ := h rt rt' hrt
  exact ⟨hr, hslots, hagrees⟩

theorem alike_setSlots (slots : Option m.schema.Record) :
    Alike (setSlots slots : Method m σ Unit) (setSlots slots) :=
  fun _ _ _ _ _ h => ⟨rfl, rfl, h⟩

end Method

namespace Instance

open KeyedRecords.Action Method

variable {m : Model} {σ : Type} (rs : RecordStore σ) (sink sink' : Sink)

theorem alike_populate (occasion : String) :
    Method.Alike (populate (rs.context sink) occasion : Method m σ _)
      (populate (rs.context sink') occasion) := by
  intro inst inst' rt rt' hslots h
  cases hinst : inst.slots with
  | some r =>
    exact (ends_populate_loaded hinst occasion).meet
      (ends_populate_loaded (hslots.symm.trans hinst) occasion) hslots h
  | none =>
    have hinst' : inst'.slots = none := hslots.symm.trans hinst
    -- What is loaded does not depend on the sink.
    cases hf : (rs.context sink).fetch m.schema rt.store rt.poisoned with
    | ok r =>
      exact (ends_populate_unloaded hinst hf occasion).meet
        (ends_populate_unloaded hinst' hf occasion) rfl h
    | error e =>
      exact (ends_populate_failed hinst hf occasion).meet
        (ends_populate_failed hinst' hf occasion) hslots h

/-- Whether an operation is on persisted fields. -/
def Op.persisted : Op m → Bool
  | get _ | set _ _ | save | reload | encode => true
  | getIgnored _ | setIgnored _ _ => false

theorem Op.alike {op : Op m} (hop : op.persisted = true) :
    Method.Alike (op.run (rs.context sink)) (op.run (rs.context sink')) := by
  have hpopulate (occasion : String) := alike_populate (m := m) rs sink sink' occasion
  cases op with
  | get i =>
    exact (alike_lift (rs.alike_access sink sink' _)).bind fun _ =>
      (hpopulate "first access").bind fun _ => .pure _
  | set i v =>
    refine (hpopulate "first write").bind fun r => ?_
    refine (alike_lift (rs.alike_commit sink sink' _ _ r i v)).bind fun committed => ?_
    refine (alike_setSlots _).bind fun _ => ?_
    cases committed.2 with
    | ok u => exact .pure _
    | error e => exact .throw _
  | getIgnored i => cases hop
  | setIgnored i v => cases hop
  | save =>
    exact (hpopulate "first access").bind fun r =>
      alike_lift ((rs.context sink).quiet_save m.schema r).alike
  | reload =>
    exact (alike_lift ((rs.context sink).quiet_load m.schema).alike).bind fun _ =>
      (alike_setSlots _).bind fun _ => .pure _
  | encode =>
    exact (hpopulate "first access").bind fun r => alike_lift (quiet_ofEncode _).alike

/-- The accessors of ignored fields have no part in what must agree. -/
theorem Op.agrees_of_not_persisted {op : Op m} (hop : ¬op.persisted = true) (ctx : Context σ)
    (inst : Instance m) (rt : Runtime σ) :
    (op.run ctx (inst, rt)).2.1.slots = inst.slots ∧ (op.run ctx (inst, rt)).2.2.Agrees rt := by
  cases op with
  | getIgnored i =>
    obtain ⟨-, hi, hs, hp⟩ := ends_getIgnored ctx inst rt.store rt.poisoned i rt rfl rfl
    exact ⟨congrArg slots hi, hs, hp⟩
  | setIgnored i v =>
    obtain ⟨-, hi, hs, hp⟩ := ends_setIgnored ctx inst rt.store rt.poisoned i v rt rfl rfl
    exact ⟨(congrArg slots hi).trans rfl, hs, hp⟩
  | get _ | set _ _ | save | reload | encode => exact absurd rfl hop

/-- How an instance comes by its record. -/
inductive Source (m : Model)
  | created (r : m.schema.Record)
  | opened
  | loaded
  | decoded (c : Container)

/-- What an origin says of the record. -/
def Origin.source : Origin m → Source m
  | created r _ => .created r
  | opened _ => .opened
  | loaded _ => .loaded
  | decoded c _ => .decoded c

/-- Instances that are made of the same have the same slots. -/
theorem meet_bind_pure {α : Type} {a b : Action σ α} (hab : a.Alike b) {f g : α → Instance m}
    (hfg : ∀ v, (f v).slots = (g v).slots) {rt rt' : Runtime σ} (h : rt.Agrees rt') :
    ((a >>= fun v => pure (f v)) rt).1.map slots = ((b >>= fun v => pure (g v)) rt').1.map slots ∧
      ((a >>= fun v => pure (f v)) rt).2.Agrees ((b >>= fun v => pure (g v)) rt').2 := by
  obtain ⟨hr, hagrees⟩ := hab rt rt' h
  rw [Action.bind_apply, Action.bind_apply, ← hr]
  cases (a rt).1 with
  | ok v => exact ⟨congrArg Except.ok (hfg v), hagrees⟩
  | error e => exact ⟨rfl, hagrees⟩

theorem Origin.meet {o o' : Origin m} (hsource : o.source = o'.source) {rt rt' : Runtime σ}
    (h : rt.Agrees rt') :
    (o.build (rs.context sink) rt).1.map slots = (o'.build (rs.context sink') rt').1.map slots ∧
      (o.build (rs.context sink) rt).2.Agrees (o'.build (rs.context sink') rt').2 := by
  cases o with
  | created r ignored =>
    obtain ⟨r', ignored'⟩ | _ | _ | _ := o' <;> cases hsource
    exact meet_bind_pure ((rs.context sink).quiet_save m.schema r).alike
      (f := fun _ => ⟨some r, ignored⟩) (g := fun _ => ⟨some r, ignored'⟩) (fun _ => rfl) h
  | opened ignored =>
    cases o' <;> cases hsource
    exact ⟨rfl, h⟩
  | loaded ignored =>
    obtain _ | _ | ⟨ignored'⟩ | _ := o' <;> cases hsource
    exact meet_bind_pure ((rs.context sink).quiet_load m.schema).alike
      (f := fun r => ⟨some r, ignored⟩) (g := fun r => ⟨some r, ignored'⟩) (fun _ => rfl) h
  | decoded c ignored =>
    cases o' <;> cases hsource
    simp only [build, ofContainer]
    cases m.schema.ofContainer c with
    | ok r => exact ⟨rfl, h⟩
    | error e => exact ⟨rfl, h⟩

end Instance

/-! ## Sessions that differ in what is ignored -/

namespace Session

open Instance

variable {ι : Type} {models : ι → Model} {σ : Type}

/-- What of a call is not ignored: a construction without its ignored values, an operation on
    persisted fields, a request, and what happens to the gate and the store. -/
inductive Visible (models : ι → Model) (σ : Type)
  | make (i : ι) (source : Source (models i))
  | use (i : ι) (op : Op (models i))
  | ask (q : Request)
  | poison
  | outside (change : σ → σ)

/-- What it gives when it succeeds. -/
abbrev Visible.Result : Visible models σ → Type
  | make _ _ => Unit
  | use _ op => op.Result
  | ask q => q.Result
  | poison => Unit
  | outside _ => Unit

/-- What of a call is not ignored, if anything. -/
def Call.visible : Call models σ → Option (Visible models σ)
  | make i _ o => some (.make i o.source)
  | use i op => if op.persisted then some (.use i op) else none
  | ask _ q => some (.ask q)
  | observe => none
  | drain => none
  | poison => some .poison
  | outside change => some (.outside change)

/-- One line of a transcript: a call as far as it is not ignored, what it gave, and the store after
    it. -/
structure Entry (models : ι → Model) (σ : Type) where
  call : Visible models σ
  reply : Option (Except Failure call.Result)
  store : σ

/-- The sessions have the same store and the same gate, and instances of the same names with the
    same slots. -/
structure Agrees (w w' : Session models σ) : Prop where
  shared : w.shared.Agrees w'.shared
  slots : ∀ i, (w.members i).map (fun mem => mem.inst.slots) =
    (w'.members i).map fun mem => mem.inst.slots

variable {w w' w'' : Session models σ}

theorem Agrees.refl (w : Session models σ) : w.Agrees w := ⟨.refl w.shared, fun _ => rfl⟩

theorem Agrees.trans (h : w.Agrees w') (h' : w'.Agrees w'') : w.Agrees w'' :=
  ⟨⟨h.shared.store.trans h'.shared.store, h.shared.gate.trans h'.shared.gate⟩,
    fun i => (h.slots i).trans (h'.slots i)⟩

theorem Agrees.members_none (h : w.Agrees w') {i : ι} (hmem : w.members i = none) :
    w'.members i = none := by
  have hslots := h.slots i
  rw [hmem] at hslots
  exact Option.map_eq_none_iff.mp hslots.symm

theorem Agrees.members_some (h : w.Agrees w') {i : ι} {mem : Member (models i)}
    (hmem : w.members i = some mem) :
    ∃ mem', w'.members i = some mem' ∧ mem.inst.slots = mem'.inst.slots := by
  have hslots := h.slots i
  rw [hmem] at hslots
  obtain ⟨mem', hmem', hslots'⟩ := Option.map_eq_some_iff.mp hslots.symm
  exact ⟨mem', hmem', hslots'.symm⟩

/-- The call is this one as far as it is not ignored. -/
def Visible.Shows : Visible models σ → Call models σ → Prop
  | make i source, c => ∃ sink o, c = .make i sink o ∧ o.source = source
  | use i op, c => c = .use i op ∧ op.persisted = true
  | ask q, c => ∃ sink, c = .ask sink q
  | poison, c => c = .poison
  | outside change, c => c = .outside change

theorem Call.shows_of_visible {c : Call models σ} {v : Visible models σ}
    (h : c.visible = some v) : v.Shows c := by
  cases c with
  | make i sink o => cases h; exact ⟨sink, o, rfl, rfl⟩
  | use i op =>
    obtain ⟨hop, hv⟩ := Option.ite_none_right_eq_some.mp h
    cases hv
    exact ⟨rfl, hop⟩
  | ask sink q => cases h; exact ⟨sink, rfl⟩
  | observe | drain => cases h
  | poison | outside _ => cases h; rfl

theorem Call.not_persisted_of_visible {i : ι} {op : Op (models i)}
    (h : (Call.use i op : Call models σ).visible = none) : ¬op.persisted = true := by
  intro hop
  rw [visible, if_pos hop] at h
  cases h

theorem Agrees.symm (h : w.Agrees w') : w'.Agrees w :=
  ⟨⟨h.shared.store.symm, h.shared.gate.symm⟩, fun i => (h.slots i).symm⟩

/-! ### Calls -/

variable [DecidableEq ι] (rs : RecordStore σ)

/-- The line of a call. -/
def entry (w : Session models σ) : Call models σ → Option (Entry models σ)
  | .make i sink o => some ⟨.make i o.source, (w.make rs i sink o).1, (w.make rs i sink o).2.shared.store⟩
  | .use i op =>
    if op.persisted then some ⟨.use i op, (w.use rs i op).1, (w.use rs i op).2.shared.store⟩ else none
  | .ask sink q => some ⟨.ask q, some (w.ask rs sink q).1, (w.ask rs sink q).2.shared.store⟩
  | .observe => none
  | .drain => none
  | .poison => some ⟨.poison, some (.ok ()), w.shared.store⟩
  | .outside change => some ⟨.outside change, some (.ok ()), change w.shared.store⟩

/-- The lines of a run. -/
def transcript : Session models σ → List (Call models σ) → List (Entry models σ)
  | _, [] => []
  | w, c :: calls => (w.entry rs c).toList ++ transcript (w.call rs c).2 calls

theorem agrees_put {i : ι} {mem mem' : Member (models i)} {rt rt' : Runtime σ} (h : w.Agrees w')
    (hslots : mem.inst.slots = mem'.inst.slots) (hrt : rt.Agrees rt') :
    (w.put i mem rt).Agrees (w'.put i mem' rt') := by
  refine ⟨hrt, fun j => ?_⟩
  by_cases hji : j = i
  · subst hji
    simp only [put_members_self, Option.map_some, hslots]
  · rw [put_members_of_ne w hji, put_members_of_ne w' hji]
    exact h.slots j

/-- What is ignored changes nothing that must agree. -/
theorem agrees_of_not_visible (w : Session models σ) {c : Call models σ} (hc : c.visible = none) :
    (w.call rs c).2.Agrees w := by
  cases c with
  | use i op =>
    have hop := Call.not_persisted_of_visible hc
    simp only [call, use]
    cases hmem : w.members i with
    | none => exact .refl w
    | some mem =>
      obtain ⟨hslots, hagrees⟩ :=
        op.agrees_of_not_persisted hop (rs.context mem.sink) mem.inst w.shared
      refine ⟨hagrees, fun j => ?_⟩
      by_cases hji : j = i
      · subst hji
        simp only [put_members_self, hmem, Option.map_some, hslots]
      · rw [put_members_of_ne w hji]
  | observe => exact ⟨⟨rfl, rfl⟩, fun _ => rfl⟩
  | drain => exact ⟨⟨rfl, rfl⟩, fun _ => rfl⟩
  | make _ _ _ | ask _ _ | poison | outside _ => cases hc

theorem entry_eq_none {c : Call models σ} (hc : c.visible = none) : w.entry rs c = none := by
  cases c with
  | use i op => exact if_neg (Call.not_persisted_of_visible hc)
  | observe | drain => rfl
  | make _ _ _ | ask _ _ | poison | outside _ => cases hc

theorem agrees_make (h : w.Agrees w') {i : ι} (sink sink' : Sink) {o o' : Origin (models i)}
    (hsource : o.source = o'.source) :
    (w.make rs i sink o).1 = (w'.make rs i sink' o').1 ∧
      (w.make rs i sink o).2.Agrees (w'.make rs i sink' o').2 := by
  obtain ⟨hr, hagrees⟩ := Origin.meet rs sink sink' hsource h.shared
  unfold make
  cases hmem : w.members i with
  | some mem =>
    obtain ⟨mem', hmem', -⟩ := h.members_some hmem
    simp only [hmem']
    exact ⟨trivial, h⟩
  | none =>
    simp only [h.members_none hmem]
    cases hresult : (o.build (rs.context sink) w.shared).1 with
    | ok inst =>
      rw [hresult] at hr
      obtain ⟨inst', hresult', hslots⟩ := map_eq_ok_iff.mp hr.symm
      simp only [hresult']
      exact ⟨trivial, agrees_put h hslots.symm hagrees⟩
    | error e =>
      rw [hresult] at hr
      have hresult' := map_eq_error_iff.mp hr.symm
      simp only [hresult']
      exact ⟨trivial, hagrees, h.slots⟩

theorem agrees_use (h : w.Agrees w') {i : ι} {op : Op (models i)} (hop : op.persisted = true) :
    (w.use rs i op).1 = (w'.use rs i op).1 ∧ (w.use rs i op).2.Agrees (w'.use rs i op).2 := by
  unfold use
  cases hmem : w.members i with
  | none =>
    simp only [h.members_none hmem]
    exact ⟨trivial, h⟩
  | some mem =>
    obtain ⟨mem', hmem', hslots⟩ := h.members_some hmem
    obtain ⟨hr, hslots', hagrees⟩ :=
      Op.alike rs mem.sink mem'.sink hop mem.inst mem'.inst w.shared w'.shared hslots h.shared
    simp only [hmem', hr]
    exact ⟨trivial, agrees_put h hslots' hagrees⟩

omit [DecidableEq ι] in
theorem agrees_ask (h : w.Agrees w') (sink sink' : Sink) (q : Request) :
    (w.ask rs sink q).1 = (w'.ask rs sink' q).1 ∧
      (w.ask rs sink q).2.Agrees (w'.ask rs sink' q).2 := by
  obtain ⟨hr, hagrees⟩ := q.alike rs sink sink' w.shared w'.shared h.shared
  exact ⟨hr, hagrees, h.slots⟩

/-- Calls that are shown alike keep sessions in agreement, and have the same line in the
    transcript. -/
theorem agrees_call (h : w.Agrees w') {c c' : Call models σ} {v : Visible models σ}
    (hc : v.Shows c) (hc' : v.Shows c') :
    w.entry rs c = w'.entry rs c' ∧ (w.call rs c).2.Agrees (w'.call rs c').2 := by
  cases v with
  | make i source =>
    obtain ⟨sink, o, rfl, hsource⟩ := hc
    obtain ⟨sink', o', rfl, rfl⟩ := hc'
    obtain ⟨hr, hagrees⟩ := agrees_make rs h sink sink' hsource
    simp only [entry, hr, hagrees.shared.store]
    refine ⟨?_, hagrees⟩
    exact congrArg (fun source => some (Entry.mk (.make i source) (w'.make rs i sink' o').1 _)) hsource
  | use i op =>
    obtain ⟨rfl, hop⟩ := hc
    obtain ⟨rfl, -⟩ := hc'
    obtain ⟨hr, hagrees⟩ := agrees_use rs h hop
    simp only [entry, hr, hagrees.shared.store]
    exact ⟨trivial, hagrees⟩
  | ask q =>
    obtain ⟨sink, rfl⟩ := hc
    obtain ⟨sink', rfl⟩ := hc'
    obtain ⟨hr, hagrees⟩ := agrees_ask rs h sink sink' q
    simp only [entry, hr, hagrees.shared.store]
    exact ⟨trivial, hagrees⟩
  | poison =>
    obtain rfl : c = .poison := hc
    obtain rfl : c' = .poison := hc'
    simp only [entry, h.shared.store]
    exact ⟨trivial, ⟨h.shared.store, rfl⟩, h.slots⟩
  | outside change =>
    obtain rfl : c = .outside change := hc
    obtain rfl : c' = .outside change := hc'
    simp only [entry, h.shared.store]
    exact ⟨trivial, ⟨congrArg change h.shared.store, h.shared.gate⟩, h.slots⟩

/-! ### Runs -/

theorem transcript_append (w : Session models σ) (before later : List (Call models σ)) :
    w.transcript rs (before ++ later) =
      w.transcript rs before ++ (w.after rs before).transcript rs later := by
  induction before generalizing w with
  | nil => rfl
  | cons c before ih =>
    rw [List.cons_append, transcript, ih, ← List.append_assoc]
    rfl

/-- A run of which everything is ignored leaves no line. -/
theorem transcript_eq_nil (w : Session models σ) {calls : List (Call models σ)}
    (hcalls : ∀ c ∈ calls, c.visible = none) :
    w.transcript rs calls = [] ∧ (w.after rs calls).Agrees w := by
  induction calls generalizing w with
  | nil => exact ⟨rfl, .refl w⟩
  | cons c calls ih =>
    have hc : c.visible = none := hcalls c List.mem_cons_self
    obtain ⟨hlines, hagrees⟩ :=
      ih (w.call rs c).2 fun c' hc' => hcalls c' (List.mem_cons_of_mem c hc')
    refine ⟨?_, hagrees.trans (agrees_of_not_visible rs w hc)⟩
    rw [transcript, entry_eq_none rs hc, hlines]
    rfl

theorem agrees_after (h : w.Agrees w') {calls calls' : List (Call models σ)}
    (hcalls : calls.filterMap Call.visible = calls'.filterMap Call.visible) :
    w.transcript rs calls = w'.transcript rs calls' ∧
      (w.after rs calls).Agrees (w'.after rs calls') := by
  induction calls generalizing w w' calls' with
  | nil =>
    obtain ⟨hlines, hagrees⟩ :=
      transcript_eq_nil rs w' (List.filterMap_eq_nil_iff.mp hcalls.symm)
    exact ⟨hlines.symm, h.trans hagrees.symm⟩
  | cons c calls ih =>
    cases hc : c.visible with
    | none =>
      rw [List.filterMap_cons_none hc] at hcalls
      obtain ⟨hlines, hagrees⟩ := ih ((agrees_of_not_visible rs w hc).trans h) hcalls
      rw [transcript, entry_eq_none rs hc]
      exact ⟨hlines, hagrees⟩
    | some v =>
      -- The other run comes to the same call after some that are ignored.
      rw [List.filterMap_cons_some hc] at hcalls
      obtain ⟨before, c', later, rfl, hbefore, hc', hlater⟩ :=
        List.filterMap_eq_cons_iff.mp hcalls.symm
      obtain ⟨hnone, hreached⟩ := transcript_eq_nil rs w' hbefore
      obtain ⟨hline, hnext⟩ := agrees_call rs (h.trans hreached.symm)
        (Call.shows_of_visible hc) (Call.shows_of_visible hc')
      obtain ⟨hlines, hagrees⟩ := ih hnext hlater.symm
      rw [transcript_append, hnone, after_append, transcript, transcript, hline, hlines]
      exact ⟨rfl, hagrees⟩

/-- Two runs that differ in the values of ignored fields only, in the use of their accessors and in
    the sinks give the same and store the same all along. What is ignored leaves the store as it
    is. -/
theorem same_transcript (rs : RecordStore σ) (h : w.Agrees w') {calls calls' : List (Call models σ)}
    (hcalls : calls.filterMap Call.visible = calls'.filterMap Call.visible) :
    w.transcript rs calls = w'.transcript rs calls' ∧
      (w.after rs calls).shared.store = (w'.after rs calls').shared.store ∧
      ∀ (u : Session models σ) (c : Call models σ), c.visible = none →
        (u.call rs c).2.shared.store = u.shared.store := by
  obtain ⟨hlines, hagrees⟩ := agrees_after rs h hcalls
  exact ⟨hlines, hagrees.shared.store, fun u c hc => (agrees_of_not_visible rs u hc).shared.store⟩

/-! ### Two runs on the settings -/

section Settings

open Samples RecordStore

/-- Settings are made and a number is assigned. -/
def plainCalls : List (Call (fun _ : Unit => migratingSettings) FaultyCell) :=
  [.make () .noop newSettings, .use () (.set number (8#64 : BitVec 64)), .use () .reload]

/-- The only ignored field of the settings. -/
abbrev draftField : Fin migratingSettings.ignored.length := ⟨0, by decide⟩

/-- The same with a draft that is read and changed, observers, and a sink that repeats what it is to
    run. -/
def busyCalls : List (Call (fun _ : Unit => migratingSettings) FaultyCell) :=
  [.make () .twice (.created (7#64, "a", ()) ("begun", ())), .observe,
    .use () (.setIgnored draftField "changed"), .use () (.set number (8#64 : BitVec 64)),
    .use () (.getIgnored draftField), .use () .reload]

/-- Both runs start with nothing stored, the second one under a registrar that keeps events. -/
theorem same_transcript_settings :
    (start ⟨none, []⟩ false 0).transcript (faulty "settings") plainCalls =
      (start ⟨none, []⟩ false 5).transcript (faulty "settings") busyCalls := by
  have hstart : (start ⟨none, []⟩ false 0 : Session (fun _ : Unit => migratingSettings)
      FaultyCell).Agrees (start ⟨none, []⟩ false 5) := ⟨⟨rfl, rfl⟩, fun _ => rfl⟩
  have hvisible : plainCalls.filterMap Call.visible = busyCalls.filterMap Call.visible := rfl
  exact (same_transcript (faulty "settings") hstart hvisible).1

end Settings

end Session

end KeyedRecords

import KeyedRecords.Proofs.Model.World

/-!
# What an instance reads

An instance reads the record that its slots were populated with, and on top of it what was assigned
through the instance since: a snapshot. `Chronicle` notes the snapshots of all instances next to
their world. What others write, and loads that fail, have no part in them.

Result:
* `reads_snapshot`: every getter reads the snapshot of its instance, and slots change only where
  they are populated or assigned.
-/

namespace KeyedRecords

variable {m : Model} {σ : Type}

/-! ## Snapshots -/

/-- A value given to a field. -/
structure Assignment (m : Model) where
  field : Fin m.schema.fields.length
  value : (m.schema.fields.get field).type.Value

/-- The record that slots were populated with, and the assignments that succeeded since, the latest
    first. -/
structure Snapshot (m : Model) where
  record : m.schema.Record
  assigned : List (Assignment m)

namespace Snapshot

/-- The value that was given to a field last. -/
def lastAssigned (i : Fin m.schema.fields.length) :
    List (Assignment m) → Option (m.schema.fields.get i).type.Value
  | [] => none
  | a :: as => if h : a.field = i then some (h ▸ a.value) else lastAssigned i as

/-- The value of a field: the one that was given to it last, or else the one that it was populated
    with. -/
def value (s : Snapshot m) (i : Fin m.schema.fields.length) : (m.schema.fields.get i).type.Value :=
  (lastAssigned i s.assigned).getD (s.record.get i)

/-- Slots that were just populated. -/
def ofRecord (r : m.schema.Record) : Snapshot m := ⟨r, []⟩

/-- One more assignment. -/
def assign (s : Snapshot m) (i : Fin m.schema.fields.length)
    (v : (m.schema.fields.get i).type.Value) : Snapshot m :=
  { s with assigned := ⟨i, v⟩ :: s.assigned }

/-- The record with the assignments made one after the other. -/
def current (s : Snapshot m) : m.schema.Record :=
  s.assigned.foldr (fun a r => r.set a.field a.value) s.record

theorem get_current (s : Snapshot m) (i : Fin m.schema.fields.length) :
    s.current.get i = s.value i := by
  obtain ⟨r, as⟩ := s
  unfold current value
  induction as with
  | nil => rfl
  | cons a as ih =>
    obtain ⟨j, v⟩ := a
    rw [List.foldr_cons]
    by_cases h : j = i
    · subst h
      rw [Values.get_set_self, lastAssigned, dif_pos rfl, Option.getD_some]
    · rw [Values.get_set_of_ne _ _ (Ne.symm h), ih, lastAssigned, dif_neg h]

/-- Unloaded slots are populated with the stored record. -/
theorem map_current_orElse (before : Option (Snapshot m)) (stored : Option m.schema.Record) :
    (before <|> stored.map ofRecord).map current = (before.map current <|> stored) := by
  cases before with
  | some s => rfl
  | none => cases stored with
    | some r => rfl
    | none => rfl

theorem map_current_assign (s? : Option (Snapshot m)) (i : Fin m.schema.fields.length)
    (v : (m.schema.fields.get i).type.Value) :
    (s?.map fun s => s.assign i v).map current = (s?.map current).map fun r => r.set i v := by
  rw [Option.map_map, Option.map_map]
  rfl

end Snapshot

/-! ## How snapshots come about -/

namespace Instance

open Snapshot

/-- The snapshot that an instance begins with. `stored` is the stored record, if it can be
    loaded. -/
def Origin.snapshot (stored : Option m.schema.Record) : Origin m → Option (Snapshot m)
  | created r _ => some (ofRecord r)
  | opened _ => none
  | loaded _ => stored.map ofRecord
  | decoded c _ => (m.schema.ofContainer c).toOption.map ofRecord

/-- The snapshot after an operation, by the one before it. Unloaded slots are populated with the
    stored record, if it can be loaded, whether or not the operation succeeds then. -/
def Op.snapshot (stored : Option m.schema.Record) (succeeded : Bool) :
    Op m → Option (Snapshot m) → Option (Snapshot m)
  | get _, before | save, before | encode, before => before <|> stored.map ofRecord
  | set i v, before =>
    let populated := before <|> stored.map ofRecord
    if succeeded then populated.map fun s => s.assign i v else populated
  | reload, before => if succeeded then stored.map ofRecord else before
  | getIgnored _, before | setIgnored _ _, before => before

/-- How slots may change: they are populated with the stored record, or a field of theirs is
    assigned. The last indices are the operation, whether it succeeds, and the slots after it. -/
inductive Changed (stored slots : Option m.schema.Record) :
    Op m → Bool → Option m.schema.Record → Prop
  | populated {op : Op m} {succeeded : Bool} {r : m.schema.Record} (populates : op.populates)
    (empty : slots = none) (loads : stored = some r) : Changed stored slots op succeeded (some r)
  | assigned {i : Fin m.schema.fields.length} {v : (m.schema.fields.get i).type.Value}
    {r : m.schema.Record} (works : (slots <|> stored) = some r) :
    Changed stored slots (.set i v) true (some (r.set i v))
  | reloaded {r : m.schema.Record} (loads : stored = some r) :
    Changed stored slots .reload true (some r)

section Courses

variable {ctx : Context σ} {store : ctx.store.Atomic} {st st' : σ} {p : Bool}
  {slots' : Option m.schema.Record}

theorem Works.orElse {inst : Instance m} {r : m.schema.Record} (h : Works ctx inst st p r) :
    (inst.slots <|> (ctx.fetch m.schema st p).toOption) = some r := by
  rcases h with h | ⟨h, hfetch⟩
  · rw [h]; rfl
  · rw [h, hfetch]; rfl

/-- The slots are those of the snapshot. -/
theorem Course.snapshot {inst : Instance m} {op : Op m} {result : Except Failure op.Result}
    (hc : Course store inst st p op result slots' st') {before : Option (Snapshot m)}
    (h : inst.slots = before.map current) :
    slots' = (op.snapshot (ctx.fetch m.schema st p).toOption result.isOk before).map current := by
  -- slots that are populated hold the record that the operation works on
  have hpopulated : ∀ {r : m.schema.Record}, Works ctx inst st p r →
      (before <|> (ctx.fetch m.schema st p).toOption.map ofRecord).map current = some r := by
    intro r hworks
    rw [map_current_orElse, ← h]
    exact hworks.orElse
  cases hc with
  | unloaded populates empty failed =>
    have hbefore : before = none := Option.map_eq_none_iff.mp (h.symm.trans empty)
    subst hbefore
    rw [failed]
    cases op with
    | get | set | save | encode => rfl
    | getIgnored | setIgnored | reload => exact populates.elim
  | get works => exact (hpopulated works).symm
  | @set i v r outcome _ works =>
    cases outcome with
    | ok u =>
      change some (r.set i v) = (Option.map (fun s : Snapshot m => s.assign i v) _).map
        current
      rw [map_current_assign, hpopulated works]
      rfl
    | error e => exact (hpopulated works).symm
  | getIgnored => exact h
  | setIgnored => exact h
  | save works => exact (hpopulated works).symm
  | reload fetched => rw [fetched]; rfl
  | notReloaded => exact h
  | encode works => exact (hpopulated works).symm

theorem Course.changed {inst : Instance m} {op : Op m} {result : Except Failure op.Result}
    (hc : Course store inst st p op result slots' st') :
    slots' = inst.slots ∨
      Changed (ctx.fetch m.schema st p).toOption inst.slots op result.isOk slots' := by
  -- an operation that works on a record and does not assign leaves that record in the slots
  have hpopulated : ∀ {r : m.schema.Record} {ok : Bool}, op.populates → Works ctx inst st p r →
      some r = inst.slots ∨
        Changed (ctx.fetch m.schema st p).toOption inst.slots op ok (some r) := by
    rintro r ok hop (hloaded | ⟨hempty, hfetch⟩)
    · exact .inl hloaded.symm
    · exact .inr (.populated hop hempty (congrArg Except.toOption hfetch))
  cases hc with
  | unloaded _ empty => exact .inl empty.symm
  | get works => exact hpopulated trivial works
  | @set i v r outcome _ works =>
    cases outcome with
    | ok u => exact .inr (.assigned works.orElse)
    | error e => exact hpopulated trivial works
  | getIgnored => exact .inl rfl
  | setIgnored => exact .inl rfl
  | save works => exact hpopulated trivial works
  | reload fetched => exact .inr (.reloaded (congrArg Except.toOption fetched))
  | notReloaded => exact .inl rfl
  | encode works => exact hpopulated trivial works

/-- A getter reads the slots that it leaves. -/
theorem Course.toOption_get {inst : Instance m} {i : Fin m.schema.fields.length}
    {result : Except Failure (m.schema.fields.get i).type.Value}
    (hc : Course store inst st p (.get i) result slots' st') :
    result.toOption = slots'.map fun r => r.get i := by
  cases hc with
  | unloaded => rfl
  | get => rfl

theorem Origin.Course.snapshot {o : Origin m} (hc : Origin.Course store st p o (.ok slots') st') :
    slots' = (o.snapshot (ctx.fetch m.schema st p).toOption).map current := by
  cases hc with
  | created => rfl
  | opened => rfl
  | loaded fetched =>
    rw [fetched]
    rfl
  | decoded decoded =>
    rw [Origin.snapshot, decoded]
    rfl

end Courses

end Instance

/-! ## The snapshots of a world -/

section Chronicles

variable {rs : RecordStore σ}

/-- The stored record, if it can be loaded. -/
def World.stored (store : rs.Atomic) (w : World m σ) : Option m.schema.Record :=
  if ((rs.context .noop).load m.schema w.shared).1.isOk then
    (store.bytes w.shared.store).bind fun b => (m.schema.ofBytes b).toOption
  else none

/-- A world and the snapshots of its instances. There is none of unloaded slots. -/
structure Chronicle (m : Model) (σ : Type) where
  world : World m σ
  snapshots : List (Option (Snapshot m))

namespace Chronicle

/-- Nothing was made. -/
def start (rt : Runtime σ) : Chronicle m σ := ⟨⟨[], rt⟩, []⟩

/-- The snapshots after a call. It brings one, or changes that of the instance that it runs on. -/
def noted (store : rs.Atomic) (t : Chronicle m σ) (succeeded : Bool) :
    Call m σ → List (Option (Snapshot m))
  | .make _ o =>
    if succeeded then t.snapshots ++ [o.snapshot (t.world.stored store)] else t.snapshots
  | .run n op => t.snapshots.modify n (op.snapshot (t.world.stored store) succeeded)
  | .delete _ | .outside _ => t.snapshots

def call (store : rs.Atomic) (t : Chronicle m σ) (c : Call m σ) : Chronicle m σ :=
  let reply := t.world.call rs c
  ⟨reply.2, t.noted store reply.1.isOk c⟩

def after (store : rs.Atomic) (t : Chronicle m σ) (calls : List (Call m σ)) : Chronicle m σ :=
  calls.foldl (call store) t

end Chronicle

variable {store : rs.Atomic} {t : Chronicle m σ}

/-- A sink has no part in a load. -/
theorem World.stored_eq_fetch (store : rs.Atomic) (w : World m σ) (sink : Sink) :
    w.stored store =
      ((rs.context sink).fetch m.schema w.shared.store w.shared.poisoned).toOption := by
  unfold stored
  rw [Context.load_eq_fetch]
  change _ = ((rs.context .noop).fetch m.schema w.shared.store w.shared.poisoned).toOption
  cases hf : (rs.context .noop).fetch m.schema w.shared.store w.shared.poisoned with
  | error e => rfl
  | ok r =>
    obtain ⟨b, hb, hr⟩ := Context.fetch_eq_ok (store.over .noop) hf
    have hstored : store.bytes w.shared.store = some b := hb
    rw [hstored]
    change (m.schema.ofBytes b).toOption = _
    rw [hr]
    rfl

/-- The slots of every instance are those of its snapshot. -/
def Agrees (t : Chronicle m σ) : Prop :=
  t.world.members.map (fun mem => mem.inst.slots) = t.snapshots.map (Option.map Snapshot.current)

theorem Agrees.getElem? (h : Agrees t) {n : ℕ} {mem : Member m}
    (member : t.world.members[n]? = some mem) :
    ∃ s?, t.snapshots[n]? = some s? ∧ mem.inst.slots = s?.map Snapshot.current := by
  have hn : (t.world.members.map fun mem => mem.inst.slots)[n]? = some mem.inst.slots := by
    rw [List.getElem?_map, member, Option.map_some]
  rw [h, List.getElem?_map, Option.map_eq_some_iff] at hn
  obtain ⟨s?, hs, hslots⟩ := hn
  exact ⟨s?, hs, hslots.symm⟩

theorem Agrees.step (h : Agrees t) {c : Call m σ} {result : Except Failure Unit} {w : World m σ}
    (hstep : World.Step store t.world c result w) : Agrees ⟨w, t.noted store result.isOk c⟩ := by
  cases hstep with
  | @made sink o inst rt course gate =>
    change (t.world.members ++ [_]).map _ = (t.snapshots ++ [_]).map _
    rw [List.map_append, List.map_append, h, World.stored_eq_fetch store t.world sink]
    have hslots : inst.slots = _ := course.snapshot
    simp only [List.map_cons, List.map_nil, hslots]
  | notMade => exact h
  | @ran n op sink inst inst' result rt member course gate =>
    obtain ⟨s?, hs, hslots⟩ := h.getElem? member
    change (t.world.members.set n _).map _ = (t.snapshots.modify n _).map _
    rw [List.map_set, h]
    -- what the course does to the slots of this instance, the operation does to its snapshot
    refine (map_modify_eq_set fun before hbefore => ?_).symm
    obtain rfl : s? = before := Option.some.inj (hs.symm.trans hbefore)
    rw [isOk_map, World.stored_eq_fetch store t.world sink]
    exact (course.snapshot hslots).symm
  | @absent n op member =>
    have hlength : t.snapshots.length ≤ n := by
      have hlengths := congrArg List.length h
      rw [List.length_map, List.length_map] at hlengths
      rw [← hlengths]
      exact List.getElem?_eq_none_iff.mp member
    change _ = (t.snapshots.modify n _).map _
    rw [List.modify_eq_self hlength]
    exact h
  | deleted => exact h
  | notDeleted => exact h
  | outside => exact h

theorem Agrees.call (h : Agrees t) (store : rs.Atomic) (c : Call m σ) : Agrees (t.call store c) :=
  h.step (World.step store t.world c)

theorem Agrees.after (h : Agrees t) (store : rs.Atomic) (calls : List (Call m σ)) :
    Agrees (t.after store calls) := by
  induction calls generalizing t with
  | nil => exact h
  | cons c calls ih => exact ih (h.call store c)

/-- Slots change only through their own instance. -/
theorem World.Step.slots {w w' : World m σ} {c : Call m σ} {result : Except Failure Unit}
    (hstep : World.Step store w c result w') {n : ℕ} {mem : Member m}
    (hmem : w.members[n]? = some mem) :
    ∃ mem', w'.members[n]? = some mem' ∧ mem'.sink = mem.sink ∧
      (mem'.inst.slots = mem.inst.slots ∨ ∃ op, c = .run n op ∧
        Instance.Changed (w.stored store) mem.inst.slots op result.isOk mem'.inst.slots) := by
  cases hstep with
  | made =>
    refine ⟨mem, ?_, rfl, .inl rfl⟩
    rw [List.getElem?_append_left (List.getElem?_eq_some_iff.mp hmem).1]
    exact hmem
  | @ran k op sink inst inst' result rt member course gate =>
    by_cases hk : k = n
    · subst hk
      obtain rfl := Option.some.inj (member.symm.trans hmem)
      refine ⟨⟨sink, inst'⟩, List.getElem?_set_self (List.getElem?_eq_some_iff.mp hmem).1, rfl, ?_⟩
      rw [isOk_map, World.stored_eq_fetch store w sink]
      exact course.changed.imp id fun hchanged => ⟨op, rfl, hchanged⟩
    · exact ⟨mem, (List.getElem?_set_ne hk).trans hmem, rfl, .inl rfl⟩
  | notMade | absent | deleted | notDeleted | outside => exact ⟨mem, hmem, rfl, .inl rfl⟩

/-- A getter reads the snapshot of its instance, and fails only if there is none. -/
theorem Agrees.get_eq_ok_iff (h : Agrees t) (store : rs.Atomic) {n : ℕ} {mem : Member m}
    (hmem : t.world.members[n]? = some mem) {i : Fin m.schema.fields.length}
    {v : (m.schema.fields.get i).type.Value} :
    (Instance.get (rs.context mem.sink) i (mem.inst, t.world.shared)).1 = .ok v ↔
      ∃ s, (t.call store (.run n (.get i))).snapshots[n]? = some (some s) ∧ s.value i = v := by
  obtain ⟨before, hbefore, hslots⟩ := h.getElem? hmem
  have hc := (Instance.course (store.over mem.sink) (.get i) (mem.inst, t.world.shared)).1
  -- the snapshot after the getter
  have hafter : (t.call store (.run n (.get i))).snapshots[n]? =
      some (before <|> (t.world.stored store).map Snapshot.ofRecord) := by
    change (t.snapshots.modify n _)[n]? = _
    rw [List.getElem?_modify_eq, hbefore]
    rfl
  have hvalue : (Instance.get (rs.context mem.sink) i (mem.inst, t.world.shared)).1.toOption =
      (before <|> (t.world.stored store).map Snapshot.ofRecord).map fun s => s.value i := by
    refine (Instance.Course.toOption_get hc).trans ?_
    rw [hc.snapshot hslots, World.stored_eq_fetch store t.world mem.sink, Option.map_map]
    exact congrArg (Option.map · _) (funext fun s => s.get_current i)
  rw [← toOption_eq_some_iff, hvalue, hafter, Option.map_eq_some_iff]
  simp only [Option.some.injEq]

/-- However the calls on instances of one store are interleaved, a getter gives the value that was
    assigned through its instance last since its slots were populated, or else the one that they
    were populated with, and it fails only if they could not be populated. Slots change only when
    they are populated with the stored record or assigned through their own instance. -/
theorem reads_snapshot (store : rs.Atomic) (rt : Runtime σ) (calls : List (Call m σ)) :
    let t := (Chronicle.start rt).after store calls
    (∀ n mem, t.world.members[n]? = some mem → ∀ i v,
      (Instance.get (rs.context mem.sink) i (mem.inst, t.world.shared)).1 = .ok v ↔
        ∃ s, (t.call store (.run n (.get i))).snapshots[n]? = some (some s) ∧ s.value i = v) ∧
    ∀ c n mem, t.world.members[n]? = some mem →
      ∃ mem', (t.world.call rs c).2.members[n]? = some mem' ∧ mem'.sink = mem.sink ∧
        (mem'.inst.slots = mem.inst.slots ∨ ∃ op, c = .run n op ∧
          Instance.Changed (t.world.stored store) mem.inst.slots op (t.world.call rs c).1.isOk
            mem'.inst.slots) := by
  intro t
  have hstart : Agrees (m := m) (.start rt) := rfl
  have h : Agrees t := hstart.after store calls
  exact ⟨fun n mem hmem i v => h.get_eq_ok_iff store hmem, fun c n mem => (World.step store t.world c).slots⟩

end Chronicles

/-! ## Two instances of the settings -/

section Settings

open Samples RecordStore Instance

/-- The snapshots after the second instance could not assign its number. -/
def settingsChronicle : Chronicle migratingSettings FaultyCell :=
  (Chronicle.start emptyCell).after (faultyAtomic "settings") (settingsCalls ++ [secondAssignment])

/-- The second instance still reads the number that it loaded, and neither the number that the
    first instance assigned nor the one that was refused. -/
theorem reads_snapshot_settings :
    ∃ mem : Member migratingSettings, settingsChronicle.world.members[1]? = some mem ∧
      (Instance.get ((faulty "settings").context mem.sink) number
        (mem.inst, settingsChronicle.world.shared)).1 = .ok (7#64 : BitVec 64) ∧
      ∃ s, (settingsChronicle.call (faultyAtomic "settings") (.run 1 (.get number))).snapshots[1]? =
        some (some s) ∧ s.value number = (7#64 : BitVec 64) := by
  have hread : (settingsChronicle.world.members[1]?.map fun mem =>
      @Except.toOption Failure (BitVec 64) (Instance.get ((faulty "settings").context mem.sink) number
        (mem.inst, settingsChronicle.world.shared)).1) = some (some 7#64) := by
    decide +kernel
  obtain ⟨mem, hmem, hvalue⟩ := Option.map_eq_some_iff.mp hread
  have hget : (Instance.get ((faulty "settings").context mem.sink) number
      (mem.inst, settingsChronicle.world.shared)).1 = .ok (7#64 : BitVec 64) :=
    toOption_eq_some_iff.mp hvalue
  unfold settingsChronicle at hmem hget ⊢
  obtain ⟨hreads, -⟩ := reads_snapshot (faultyAtomic "settings") emptyCell
    (settingsCalls ++ [secondAssignment])
  exact ⟨mem, hmem, hget, (hreads 1 mem hmem number _).mp hget⟩

end Settings

end KeyedRecords

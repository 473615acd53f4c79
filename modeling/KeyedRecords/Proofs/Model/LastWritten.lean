import KeyedRecords.Proofs.Model.InStep
import KeyedRecords.Proofs.Model.World

/-!
# What was written last

Instances that share a store keep records of their own, which may be stale, and write them back as
a whole. `History` notes next to the world which record the last successful write was of. The store
holds that record, or nothing when none was written since it was last removed.

Result:
* `store_holds_last_written`
-/

namespace KeyedRecords

open Codec

/-! ## Operations that write -/

/-- What becomes of the stored record: it is replaced by that of some slots, or kept. -/
inductive Leaves {m : Model} {σ : Type} {rs : RecordStore σ} (store : rs.Atomic)
    (slots : Option m.schema.Record) (st st' : σ) : Bool → Prop
  | wrote {r : m.schema.Record} {b : List UInt8} (held : slots = some r)
    (encoded : m.schema.toBytes r = .ok b) (stored : store.bytes st' = some b) :
    Leaves store slots st st' true
  | kept (kept : store.bytes st' = store.bytes st) : Leaves store slots st st' false

namespace Instance

variable {m : Model} {σ : Type} {ctx : Context σ} {store : ctx.store.Atomic}
  {st st' : σ} {p : Bool} {slots' : Option m.schema.Record}

/-- Whether an operation that succeeds has written the record. -/
def Op.writes : Op m → Bool
  | set _ _ | save => true
  | get _ | getIgnored _ | setIgnored _ _ | reload | encode => false

/-- Whether an instance that was made has written its record. -/
def Origin.writes : Origin m → Bool
  | created _ _ => true
  | opened _ | loaded _ | decoded _ _ => false

theorem sized_of_fetch (store : ctx.store.Atomic) {r : m.schema.Record}
    (h : ctx.fetch m.schema st p = .ok r) : m.schema.Sized r := by
  have hstored : Stored store st r := Context.fetch_eq_ok store h
  exact hstored.sized

section Operations

variable {inst : Instance m} {op : Op m} {result : Except Failure op.Result}

theorem Works.sized (store : ctx.store.Atomic) {r : m.schema.Record}
    (h : ∀ r, inst.slots = some r → m.schema.Sized r) (hw : Works ctx inst st p r) :
    m.schema.Sized r := by
  rcases hw with hloaded | ⟨-, hfetch⟩
  · exact h r hloaded
  · exact sized_of_fetch store hfetch

/-- There stays room for the record in the slots. -/
theorem Course.sized (hop : op.Sized) (hc : Course store inst st p op result slots' st')
    (h : ∀ r, inst.slots = some r → m.schema.Sized r) :
    ∀ r, slots' = some r → m.schema.Sized r := by
  cases hc with
  | unloaded => rintro r ⟨⟩
  | get works => rintro r ⟨⟩; exact works.sized store h
  | @set i v r outcome _ works =>
    rintro r' ⟨⟩
    cases outcome with
    | ok u => exact (works.sized store h).set hop
    | error e => exact works.sized store h
  | getIgnored => exact h
  | setIgnored => exact h
  | save works => rintro r ⟨⟩; exact works.sized store h
  | reload fetched => rintro r ⟨⟩; exact sized_of_fetch store fetched
  | notReloaded => exact h
  | encode works => rintro r ⟨⟩; exact works.sized store h

/-- An operation that writes leaves the record in the slots, and every other one the record that
    was stored. -/
theorem Course.leaves (hc : Course store inst st p op result slots' st') :
    Leaves store slots' st st' (result.isOk && op.writes) := by
  cases hc with
  | unloaded _ _ _ kept => exact .kept kept
  | get _ kept => exact .kept kept
  | set _ written =>
    cases written with
    | accepted encoded stored => exact .wrote rfl encoded stored
    | refused kept => exact .kept kept
  | getIgnored kept => exact .kept kept
  | setIgnored kept => exact .kept kept
  | save _ written =>
    cases written with
    | accepted encoded stored => exact .wrote rfl encoded stored
    | refused kept => exact .kept kept
  | reload _ kept => exact .kept kept
  | notReloaded _ kept => exact .kept kept
  | @encode r _ _ kept =>
    rw [show Op.encode.writes = false from rfl, Bool.and_false]
    exact .kept kept

end Operations

section Origins

variable {o : Origin m}

theorem Origin.Course.sized (ho : o.Sized)
    (hc : Origin.Course store st p o (.ok slots') st') : ∀ r, slots' = some r → m.schema.Sized r := by
  cases hc with
  | created => rintro r ⟨⟩; exact ho
  | opened => rintro r ⟨⟩
  | loaded fetched => rintro r ⟨⟩; exact sized_of_fetch store fetched
  | decoded decoded => rintro r ⟨⟩; exact (RecordSchema.storable_of_ofContainer ho decoded).sized

theorem Origin.Course.leaves (hc : Origin.Course store st p o (.ok slots') st') :
    Leaves store slots' st st' o.writes := by
  cases hc with
  | created encoded stored => exact .wrote rfl encoded stored
  | opened => exact .kept rfl
  | loaded _ kept => exact .kept kept
  | decoded => exact .kept rfl

/-- What cannot be made leaves the stored record as it was. -/
theorem Origin.Course.of_error {e : Failure} (hc : Origin.Course store st p o (.error e) st') :
    store.bytes st' = store.bytes st := by
  cases hc with
  | notCreated kept => exact kept
  | notLoaded _ kept => exact kept
  | notDecoded => rfl

end Origins

end Instance

/-! ## The history of a world -/

variable {m : Model} {σ : Type} {rs : RecordStore σ}

/-- A world, and the record that the last successful write was of, if it was not removed since. -/
structure History (m : Model) (σ : Type) where
  world : World m σ
  written : Option m.schema.Record

/-- What was written last after a call: the record that the writer holds then, if the call was a
    write and succeeded. -/
def World.written (after : World m σ) (before : Option m.schema.Record)
    (result : Except Failure Unit) : Call m σ → Option m.schema.Record
  | .make _ o =>
    if result.isOk && o.writes then after.members.getLast?.bind fun mem => mem.inst.slots
    else before
  | .run n op =>
    match after.members[n]? with
    | some mem => if result.isOk && op.writes then mem.inst.slots else before
    | none => before
  | .delete _ => if result.isOk then none else before
  | .outside _ => before

/-- An instance that writes its record as it is made is the writer. -/
theorem World.written_made (ms : List (Member m)) (rt : Runtime σ)
    (before : Option m.schema.Record) (sink : Sink) (o : Instance.Origin m) (inst : Instance m) :
    World.written ⟨ms ++ [⟨sink, inst⟩], rt⟩ before (.ok ()) (.make sink o) =
      if o.writes then inst.slots else before := by
  have hok : (Except.ok () : Except Failure Unit).isOk = true := rfl
  simp only [World.written, hok, Bool.true_and, List.getLast?_concat, Option.bind_some]

/-- The writer of an operation is the instance that it is run on. -/
theorem World.written_ran {ms : List (Member m)} {n : ℕ} {mem mem' : Member m}
    (member : ms[n]? = some mem) (rt : Runtime σ) (before : Option m.schema.Record)
    {op : Instance.Op m} (result : Except Failure op.Result) :
    World.written ⟨ms.set n mem', rt⟩ before (result.map fun _ => ()) (.run n op) =
      if result.isOk && op.writes then mem'.inst.slots else before := by
  have hget : (ms.set n mem')[n]? = some mem' :=
    List.getElem?_set_self (List.getElem?_eq_some_iff.mp member).1
  simp only [World.written, hget, isOk_map]

namespace History

/-- Nothing was made or written. -/
def start (rt : Runtime σ) : History m σ := ⟨⟨[], rt⟩, none⟩

def call (rs : RecordStore σ) (t : History m σ) (c : Call m σ) : History m σ :=
  let reply := t.world.call rs c
  ⟨reply.2, reply.2.written t.written reply.1 c⟩

def after (rs : RecordStore σ) (t : History m σ) (calls : List (Call m σ)) : History m σ :=
  calls.foldl (call rs) t

end History

/-- There is room for what the call brings, and nobody else touches the record or the gate. -/
def Call.Admissible (store : rs.Atomic) : Call m σ → Prop
  | .make _ o => o.Sized
  | .run _ op => op.Sized
  | .delete _ => True
  | .outside change => ∀ rt, store.bytes (change rt).store = store.bytes rt.store ∧
      (change rt).poisoned = rt.poisoned

/-! ## The invariant -/

/-- The store holds what was written last. -/
inductive HoldsLast (store : rs.Atomic) (st : σ) : Option m.schema.Record → Prop
  | nothing (removed : store.bytes st = none) : HoldsLast store st none
  | record {r : m.schema.Record} {b : List UInt8} (sized : m.schema.Sized r)
    (encoded : m.schema.toBytes r = .ok b) (stored : store.bytes st = some b) :
    HoldsLast store st (some r)

/-- Every instance may be written, and the store holds what was written last. -/
structure Intact (store : rs.Atomic) (t : History m σ) : Prop where
  gate : t.world.shared.poisoned = false
  members : ∀ mem ∈ t.world.members, ∀ r, mem.inst.slots = some r → m.schema.Sized r
  holds : HoldsLast store t.world.shared.store t.written

section Invariant

variable {store : rs.Atomic} {st st' : σ} {t : History m σ} {last : Option m.schema.Record}

theorem HoldsLast.congr (h : HoldsLast store st last)
    (hkept : store.bytes st' = store.bytes st) : HoldsLast store st' last := by
  cases h with
  | nothing removed => exact .nothing (hkept.trans removed)
  | record sized encoded stored => exact .record sized encoded (hkept.trans stored)

theorem HoldsLast.leaves (h : HoldsLast store st last) {slots : Option m.schema.Record}
    (hsized : ∀ r, slots = some r → m.schema.Sized r) {wrote : Bool}
    (hleaves : Leaves store slots st st' wrote) :
    HoldsLast store st' (if wrote then slots else last) := by
  cases hleaves with
  | wrote held encoded stored =>
    subst held
    exact .record (hsized _ rfl) encoded stored
  | kept kept => exact h.congr kept

/-- A call that fails leaves the stored record as it was. -/
theorem World.Step.of_error {w w' : World m σ} {c : Call m σ} {e : Failure}
    (hstep : World.Step store w c (.error e) w') :
    store.bytes w'.shared.store = store.bytes w.shared.store := by
  generalize hresult : (Except.error e : Except Failure Unit) = result at hstep
  cases hstep with
  | made => cases hresult
  | notMade course => exact course.of_error
  | @ran _ _ _ _ _ result _ _ course =>
    cases result with
    | ok v => cases hresult
    | error e => exact (course.of_error rfl).1
  | absent => rfl
  | deleted => cases hresult
  | notDeleted kept => exact kept
  | outside => cases hresult

/-- A call leaves the history intact. -/
theorem Intact.step (h : Intact store t) {c : Call m σ} (hc : c.Admissible store)
    {result : Except Failure Unit} {w : World m σ} (hstep : World.Step store t.world c result w) :
    Intact store ⟨w, w.written t.written result c⟩ := by
  obtain ⟨hgate, hmembers, hholds⟩ := h
  -- only the instance that is made or run on has new slots, and only its record may be written
  cases hstep with
  | @made sink o inst rt course gate =>
    have hsized := course.sized hc
    refine ⟨gate.trans hgate, ?_, ?_⟩
    · intro mem hmem
      rcases List.mem_append.mp hmem with hmem | hmem
      · exact hmembers mem hmem
      · rw [List.mem_singleton.mp hmem]
        exact hsized
    · rw [World.written_made]
      exact hholds.leaves hsized course.leaves
  | notMade course gate =>
    exact ⟨gate.trans hgate, hmembers, hholds.congr course.of_error⟩
  | @ran n op sink inst inst' result rt member course gate =>
    have hinst := hmembers _ (List.mem_of_getElem? member)
    have hsized := course.sized hc hinst
    refine ⟨gate.trans hgate, ?_, ?_⟩
    · intro mem hmem
      rcases List.mem_or_eq_of_mem_set hmem with hmem | rfl
      · exact hmembers mem hmem
      · exact hsized
    · rw [World.written_ran member]
      exact hholds.leaves hsized course.leaves
  | absent member =>
    refine ⟨hgate, hmembers, ?_⟩
    simp only [World.written, member]
    exact hholds
  | deleted removed gate => exact ⟨gate.trans hgate, hmembers, .nothing removed⟩
  | notDeleted kept gate => exact ⟨gate.trans hgate, hmembers, hholds.congr kept⟩
  | outside =>
    obtain ⟨hkept, hgate'⟩ := hc t.world.shared
    exact ⟨hgate'.trans hgate, hmembers, hholds.congr hkept⟩

theorem Intact.call (h : Intact store t) {c : Call m σ} (hc : c.Admissible store) :
    Intact store (t.call rs c) :=
  h.step hc (World.step store t.world c)

theorem Intact.after (h : Intact store t) {calls : List (Call m σ)}
    (hcalls : ∀ c ∈ calls, c.Admissible store) : Intact store (t.after rs calls) := by
  induction calls generalizing t with
  | nil => exact h
  | cons c calls ih =>
    exact ih (h.call (hcalls c List.mem_cons_self)) fun c' hc' =>
      hcalls c' (List.mem_cons_of_mem c hc')

end Invariant

/-! ## The result -/

/-- The store holds exactly the bytes of the record, and a load gives the record through any
    context. -/
structure HoldsExactly (store : rs.Atomic) (rt : Runtime σ) (r : m.schema.Record) : Prop where
  bytes : ∃ b, m.schema.toBytes r = .ok b ∧ store.bytes rt.store = some b
  loads : store.fault rt.store = none → ∀ sink, ((rs.context sink).load m.schema rt).1 = .ok r

theorem Intact.holdsExactly {store : rs.Atomic} {t : History m σ} (hs : m.schema.WellFormed)
    (h : Intact store t) {r : m.schema.Record} (hwritten : t.written = some r) :
    HoldsExactly store t.world.shared r := by
  have hholds := h.holds
  rw [hwritten] at hholds
  cases hholds with
  | @record _ b sized encoded stored =>
    refine ⟨⟨b, encoded, stored⟩, fun hfault sink => ?_⟩
    rw [Context.load_eq_fetch, h.gate]
    exact Context.fetch_of_stored (store.over sink) hfault stored
      (RecordSchema.ofBytes_of_toBytes hs sized encoded)

/-- However the calls on instances of one store are interleaved, the store holds nothing, or
    exactly the record that the last successful writer held when it wrote. A call that fails
    leaves the stored record as it was. -/
theorem store_holds_last_written (hs : m.schema.WellFormed) (store : rs.Atomic) {rt : Runtime σ}
    (hempty : store.bytes rt.store = none) (hgate : rt.poisoned = false) {calls : List (Call m σ)}
    (hcalls : ∀ c ∈ calls, c.Admissible store) :
    let t := (History.start rt).after rs calls
    (t.written = none → store.bytes t.world.shared.store = none) ∧
    (∀ r, t.written = some r → HoldsExactly store t.world.shared r) ∧
    ∀ c e, (t.world.call rs c).1 = .error e →
      store.bytes (t.world.call rs c).2.shared.store = store.bytes t.world.shared.store := by
  have hstart : Intact (m := m) store (.start rt) := ⟨hgate, by simp [History.start], .nothing hempty⟩
  have h : Intact store ((History.start rt).after rs calls) := hstart.after hcalls
  intro t
  refine ⟨fun hnone => ?_, fun r => h.holdsExactly hs, fun c e he => ?_⟩
  · have hholds := h.holds
    rw [hnone] at hholds
    cases hholds with
    | nothing removed => exact removed
  · have hstep := World.step store t.world c
    rw [he] at hstep
    exact hstep.of_error

/-! ## Two instances of the settings -/

open Samples RecordStore Instance

theorem admissible_settingsCalls : ∀ c ∈ settingsCalls, c.Admissible (faultyAtomic "settings") := by
  simp only [settingsCalls, List.forall_mem_cons]
  exact ⟨sized_newSettings, trivial, trivial, sized_eight, fun _ => ⟨rfl, rfl⟩, by simp⟩

/-- The record with the new number. -/
def renumberedRecord : migratingSettings.schema.Record :=
  Context.settingsRecord.set number (8#64 : BitVec 64)

/-- The history after these calls. -/
def settingsHistory : History migratingSettings FaultyCell :=
  (History.start emptyCell).after (faulty "settings") settingsCalls

theorem secondAssignment_refused :
    (settingsHistory.world.call (faulty "settings") secondAssignment).1 = .error (.store
      (.ofFault (faulty "settings").location (.ofKind .permissionDenied none))) := by
  decide +kernel

/-- The number of the first instance stays stored when the second one, whose record is stale,
    cannot assign another. -/
theorem store_holds_last_written_settings :
    migratingSettings.schema.WellFormed ∧
    (∀ c ∈ settingsCalls, c.Admissible (faultyAtomic "settings")) ∧
    settingsHistory.world.members.map (fun mem => mem.inst.slots) =
      [some renumberedRecord, some Context.settingsRecord] ∧
    HoldsExactly (faultyAtomic "settings") settingsHistory.world.shared renumberedRecord ∧
    (faultyAtomic "settings").bytes
        (settingsHistory.world.call (faulty "settings") secondAssignment).2.shared.store =
      (faultyAtomic "settings").bytes settingsHistory.world.shared.store := by
  have hs := Context.wellFormed_migratingSettings
  have hempty : (faultyAtomic "settings").bytes emptyCell.store = none := rfl
  have hslots : settingsHistory.world.members.map (fun mem => mem.inst.slots) =
      [some renumberedRecord, some Context.settingsRecord] := by decide +kernel
  have hwritten : settingsHistory.written = some renumberedRecord := by decide +kernel
  have hrefused := secondAssignment_refused
  unfold settingsHistory at hslots hwritten hrefused ⊢
  obtain ⟨-, hholds, hfailed⟩ := store_holds_last_written hs (faultyAtomic "settings") hempty rfl
    admissible_settingsCalls
  exact ⟨hs, admissible_settingsCalls, hslots, hholds _ hwritten, hfailed _ _ hrefused⟩

end KeyedRecords

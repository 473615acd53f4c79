import KeyedRecords.Store.Handles
import KeyedRecords.Proofs.Lists

/-!
# One handle for each file that is open

The registry files handles under paths without keeping them alive, and what it has filed of
handles that are gone stays until the next handle is asked for. All the same a file never has
two live handles.

* `HandleRegistry.Sound`: what is filed agrees with the handles that are live.
* `Holders`: a registry with the references that were handed out; `HandleCall` is what may be
  done with them.

Results:
* `acquire_of_live`, `acquire_of_fresh`: the two courses that asking for a handle can take.
* `Holders.Consistent.call`: every call keeps the owners of handles and the references in step.
* `one_handle_per_file`: after any calls, references have one handle exactly where they have one
  path, and a file without references gets a handle that never was before.
-/

namespace KeyedRecords

/-- Paths that name one file as far as they tell. -/
abbrev Path.Same (a b : String) : Prop := Path.components a = Path.components b

namespace HandleRegistry

variable {r : HandleRegistry} {h : FileHandle} {store : FileStore} {id : ℕ}
  {f : FileHandle → FileHandle}

/-! ## What is filed and what is live -/

/-- Live handles have identities of their own and are found under their paths. What else is
    filed is of handles that are gone. -/
structure Sound (r : HandleRegistry) : Prop where
  ids : (r.handles.map FileHandle.id).Nodup
  below : ∀ h ∈ r.handles, h.id < r.next
  found : ∀ h ∈ r.handles, r.filedUnder? h.store.path = some h.id
  filed_below : ∀ e ∈ r.filed, e.id < r.next
  filed_path : ∀ e ∈ r.filed, ∀ h ∈ r.handles, e.id = h.id → Path.Same e.path h.store.path

theorem sound_empty : empty.Sound := by
  constructor <;> simp [empty]

theorem mem_of_get? (h₁ : r.get? id = some h) : h ∈ r.handles ∧ h.id = id := by
  unfold get? at h₁
  have hid := List.find?_some h₁
  exact ⟨List.mem_of_find?_eq_some h₁, by simpa using hid⟩

theorem Sound.get? (hs : r.Sound) (hh : h ∈ r.handles) : r.get? h.id = some h :=
  find?_of_nodup hs.ids hh

/-- Live handles with one path are one handle. -/
theorem Sound.eq_of_path (hs : r.Sound) {h' : FileHandle} (hh : h ∈ r.handles)
    (hh' : h' ∈ r.handles) (hp : Path.Same h.store.path h'.store.path) : h = h' := by
  have hfound : r.filedUnder? h.store.path = r.filedUnder? h'.store.path := by
    unfold filedUnder?
    rw [hp]
  rw [hs.found h hh, hs.found h' hh'] at hfound
  exact List.inj_on_of_nodup_map hs.ids hh hh' (Option.some.inj hfound)

/-! ## Steps that change live handles -/

/-- What changes neither the identities nor the stores of handles, and adds none, leaves the
    registry sound. -/
theorem Sound.of_handles (hs : r.Sound) {handles : List FileHandle}
    (hids : (handles.map FileHandle.id).Sublist (r.handles.map FileHandle.id))
    (hold : ∀ h' ∈ handles, ∃ h ∈ r.handles, h'.id = h.id ∧ h'.store = h.store) :
    ({ r with handles } : HandleRegistry).Sound where
  ids := hs.ids.sublist hids
  below h' hh' := by
    obtain ⟨h, hh, hid, -⟩ := hold h' hh'
    rw [hid]
    exact hs.below h hh
  found h' hh' := by
    obtain ⟨h, hh, hid, hstore⟩ := hold h' hh'
    rw [hid, hstore]
    exact hs.found h hh
  filed_below := hs.filed_below
  filed_path e he h' hh' heq := by
    obtain ⟨h, hh, hid, hstore⟩ := hold h' hh'
    rw [hstore]
    exact hs.filed_path e he h hh (heq.trans hid)

theorem mem_modify {h' : FileHandle} : h' ∈ (r.modify id f).handles ↔
    ∃ h ∈ r.handles, (if h.id = id then f h else h) = h' := by
  simp only [modify, List.mem_map]

section Modify

variable (hf : ∀ h, (f h).id = h.id ∧ (f h).store = h.store)

include hf

theorem kept_modify (id : ℕ) (h : FileHandle) : (if h.id = id then f h else h).id = h.id ∧
    (if h.id = id then f h else h).store = h.store := by
  split_ifs
  · exact hf h
  · exact ⟨rfl, rfl⟩

/-- Every handle lives on under its identity, with its store. -/
theorem exists_mem_modify (id : ℕ) (hh : h ∈ r.handles) :
    ∃ h' ∈ (r.modify id f).handles, h'.id = h.id ∧ h'.store = h.store :=
  ⟨_, mem_modify.mpr ⟨h, hh, rfl⟩, kept_modify hf id h⟩

theorem Sound.modify (hs : r.Sound) : (r.modify id f).Sound := by
  apply hs.of_handles
  · have hids : (r.modify id f).handles.map FileHandle.id = r.handles.map FileHandle.id := by
      simp only [HandleRegistry.modify, List.map_map]
      exact List.map_congr_left fun h _ => (kept_modify hf id h).1
    rw [← hids]
    exact List.Sublist.refl _
  · intro h' hh'
    obtain ⟨h, hh, rfl⟩ := mem_modify.mp hh'
    exact ⟨h, hh, kept_modify hf id h⟩

end Modify

theorem mem_release {h' : FileHandle} : h' ∈ (r.release id).handles ↔
    (∃ h ∈ r.handles, (if h.id = id then { h with owners := h.owners - 1 } else h) = h') ∧
      0 < h'.owners := by
  unfold release
  rw [List.mem_filter, mem_modify]
  simp

theorem Sound.release (hs : r.Sound) : (r.release id).Sound := by
  have hm : (r.modify id fun h => { h with owners := h.owners - 1 }).Sound :=
    hs.modify fun _ => ⟨rfl, rfl⟩
  apply hm.of_handles
  · exact List.Sublist.map _ List.filter_sublist
  · exact fun h hh => ⟨h, List.mem_of_mem_filter hh, rfl, rfl⟩

/-! ## Steps that change what is filed -/

/-- Only what is filed of handles that are gone is cleared out. -/
theorem Sound.prune (hs : r.Sound) : r.prune.Sound where
  ids := hs.ids
  below := hs.below
  found h hh := by
    obtain ⟨e, he, hid⟩ := Option.map_eq_some_iff.mp (hs.found h hh)
    have hlive : (r.get? e.id).isSome := by
      rw [hid, hs.get? hh]
      rfl
    unfold filedUnder?
    rw [show r.prune.filed = r.filed.filter fun e => (r.get? e.id).isSome from rfl,
      find?_filter_of_find? he hlive, Option.map_some, hid]
  filed_below e he := hs.filed_below e (List.mem_of_mem_filter he)
  filed_path e he := hs.filed_path e (List.mem_of_mem_filter he)

/-- A new handle takes the place of what was filed under its path. -/
theorem Sound.add (hs : r.Sound) (hnew : ∀ h ∈ r.handles, ¬ Path.Same h.store.path store.path) :
    (r.add store).Sound where
  ids := by
    have hnext : r.next ∉ r.handles.map FileHandle.id := by
      intro hmem
      obtain ⟨h, hh, hid⟩ := List.mem_map.mp hmem
      have := hs.below h hh
      omega
    show ((r.handles ++ [_]).map FileHandle.id).Nodup
    rw [List.map_append, List.map_singleton, ← List.concat_eq_append]
    exact hs.ids.concat hnext
  below h hh := by
    show h.id < r.next + 1
    rcases List.mem_append.mp hh with hh | hh
    · have := hs.below h hh
      omega
    · rw [List.mem_singleton.mp hh]
      exact Nat.lt_succ_self r.next
  found h hh := by
    unfold filedUnder? HandleRegistry.add
    rw [List.find?_cons]
    rcases List.mem_append.mp hh with hh | hh
    · have hother := hnew h hh
      obtain ⟨e, he, hid⟩ := Option.map_eq_some_iff.mp (hs.found h hh)
      have hpath : Path.Same e.path h.store.path := by simpa using List.find?_some he
      have hkept : decide (Path.components e.path ≠ Path.components store.path) = true := by
        rw [decide_eq_true_iff, hpath]
        exact hother
      have hhead : decide (Path.components store.path = Path.components h.store.path) = false :=
        decide_eq_false fun heq => hother heq.symm
      rw [hhead]
      show Option.map _ (List.find? _ _) = _
      rw [find?_filter_of_find? he hkept, Option.map_some, hid]
    · rw [List.mem_singleton.mp hh, decide_eq_true rfl]
      rfl
  filed_below e he := by
    show e.id < r.next + 1
    rcases List.mem_cons.mp he with rfl | he
    · exact Nat.lt_succ_self r.next
    · have := hs.filed_below e (List.mem_of_mem_filter he)
      omega
  filed_path e he h hh heq := by
    rcases List.mem_cons.mp he with rfl | he <;> rcases List.mem_append.mp hh with hh | hh
    · have := hs.below h hh
      have : r.next = h.id := heq
      omega
    · rw [List.mem_singleton.mp hh]
    · exact hs.filed_path e (List.mem_of_mem_filter he) h hh heq
    · have := hs.filed_below e (List.mem_of_mem_filter he)
      have : e.id = r.next := by rw [heq, List.mem_singleton.mp hh]
      omega

/-! ## Asking for a handle -/

/-- Who asks for a file with a live handle becomes one of its owners. -/
theorem acquire_of_live (hs : r.Sound) (hh : h ∈ r.handles)
    (hp : Path.Same h.store.path store.path) :
    r.acquire store = (h.id, r.prune.retain h.id) := by
  have hfound : r.prune.filedUnder? store.path = some h.id := by
    rw [← hs.prune.found h hh]
    unfold filedUnder?
    rw [hp]
  have hget : r.prune.get? h.id = some h := hs.prune.get? hh
  unfold acquire
  simp only [hfound, Option.bind_eq_bind, Option.bind_some, hget]

/-- Who asks for a file without a live handle gets a new one. -/
theorem acquire_of_fresh (hs : r.Sound)
    (hnew : ∀ h ∈ r.handles, ¬ Path.Same h.store.path store.path) :
    r.acquire store = (r.next, r.prune.add store) := by
  have hnone : (r.prune.filedUnder? store.path >>= r.prune.get?) = none := by
    cases hlive : r.prune.filedUnder? store.path >>= r.prune.get? with
    | none => rfl
    | some h =>
      -- A live handle is filed under its own path only.
      obtain ⟨i, hi, hget⟩ := Option.bind_eq_some_iff.mp hlive
      obtain ⟨hh, rfl⟩ := mem_of_get? hget
      obtain ⟨e, he, hid⟩ := Option.map_eq_some_iff.mp hi
      have hpath : Path.Same e.path store.path := by simpa using List.find?_some he
      have hsame := hs.prune.filed_path e (List.mem_of_find?_eq_some he) h hh hid
      exact absurd (hsame.symm.trans hpath) (hnew h hh)
  unfold acquire
  simp only [hnone]
  rfl

end HandleRegistry

/-! ## References to handles -/

/-- A handle that was handed out for a path and that its holder has not dropped yet. -/
structure Reference where
  path : String
  id : ℕ
  deriving DecidableEq, Repr

/-- How many references are to a handle. -/
def Reference.count (id : ℕ) (held : List Reference) : ℕ := held.countP fun x => x.id = id

/-- What may be done with the handles of files: ask for one, share one that is held, drop it,
    or panic behind its gate. -/
inductive HandleCall
  | acquire (store : FileStore)
  | share (x : Reference)
  | drop (x : Reference)
  | poison (x : Reference)
  deriving DecidableEq, Repr

/-- The registry, the references that are held, and all identities that were ever handed out. -/
structure Holders where
  registry : HandleRegistry
  held : List Reference
  issued : List ℕ

namespace Holders

/-- Only what is held can be shared, dropped or poisoned. -/
def call (w : Holders) : HandleCall → Holders
  | .acquire store =>
    let (id, registry) := w.registry.acquire store
    ⟨registry, ⟨store.path, id⟩ :: w.held, id :: w.issued⟩
  | .share x =>
    if x ∈ w.held then { w with registry := w.registry.retain x.id, held := x :: w.held } else w
  | .drop x =>
    if x ∈ w.held then { w with registry := w.registry.release x.id, held := w.held.erase x } else w
  | .poison x => if x ∈ w.held then { w with registry := w.registry.poison x.id } else w

/-- Calls one after another, with no handle at first. -/
def after (calls : List HandleCall) : Holders := calls.foldl call ⟨.empty, [], []⟩

/-- Every handle has as many owners as there are references to it, and at least one; every
    reference is to a live handle of its path. -/
structure Consistent (w : Holders) : Prop where
  sound : w.registry.Sound
  owners : ∀ h ∈ w.registry.handles, h.owners = Reference.count h.id w.held
  owned : ∀ h ∈ w.registry.handles, 0 < h.owners
  live : ∀ x ∈ w.held, ∃ h ∈ w.registry.handles, h.id = x.id ∧ Path.Same h.store.path x.path
  issued : ∀ id ∈ w.issued, id < w.registry.next

variable {w : Holders} {x y : Reference} {store : FileStore} {h : FileHandle} {id : ℕ}

theorem consistent_empty : (⟨.empty, [], []⟩ : Holders).Consistent := by
  constructor
  · exact HandleRegistry.sound_empty
  all_goals simp [HandleRegistry.empty]

/-! ## Counting references -/

section Count

variable {held : List Reference}

theorem count_cons : Reference.count id (x :: held) =
    if x.id = id then Reference.count id held + 1 else Reference.count id held := by
  unfold Reference.count
  rw [List.countP_cons]
  by_cases hid : x.id = id <;> simp [hid]

theorem count_erase (hx : x ∈ held) : Reference.count id (held.erase x) =
    if x.id = id then Reference.count id held - 1 else Reference.count id held := by
  unfold Reference.count
  rw [List.countP_erase]
  by_cases hid : x.id = id <;> simp [hid, hx]

theorem count_pos (hx : x ∈ held) : 0 < Reference.count x.id held :=
  List.countP_pos_iff.mpr ⟨x, hx, decide_eq_true rfl⟩

end Count

/-- There are no references to handles that were not made yet. -/
theorem Consistent.count_eq_zero (hw : w.Consistent) (hid : w.registry.next ≤ id) :
    Reference.count id w.held = 0 := by
  apply List.countP_eq_zero.mpr
  intro x hx heq
  obtain ⟨h, hh, hxid, -⟩ := hw.live x hx
  have hlt := hw.sound.below h hh
  have : x.id = id := by simpa using heq
  omega

/-! ## One call -/

theorem Consistent.prune (hw : w.Consistent) :
    ({ w with registry := w.registry.prune } : Holders).Consistent :=
  ⟨hw.sound.prune, hw.owners, hw.owned, hw.live, hw.issued⟩

/-- One more reference to a live handle is one more owner. -/
theorem Consistent.retain (hw : w.Consistent) (hh : h ∈ w.registry.handles) (hid : h.id = x.id)
    (hp : Path.Same h.store.path x.path) {issued : List ℕ}
    (hissued : ∀ id ∈ issued, id < w.registry.next) :
    (⟨w.registry.retain x.id, x :: w.held, issued⟩ : Holders).Consistent where
  sound := hw.sound.modify fun _ => ⟨rfl, rfl⟩
  owners h' hh' := by
    obtain ⟨g, hg, rfl⟩ := HandleRegistry.mem_modify.mp hh'
    have howners := hw.owners g hg
    rw [count_cons]
    by_cases hgx : g.id = x.id
    · simp only [if_pos hgx, if_pos hgx.symm]
      omega
    · simp only [if_neg hgx, if_neg (Ne.symm hgx)]
      exact howners
  owned h' hh' := by
    obtain ⟨g, hg, rfl⟩ := HandleRegistry.mem_modify.mp hh'
    have := hw.owned g hg
    split_ifs
    · exact Nat.succ_pos _
    · exact this
  live y hy := by
    have hold : ∃ g ∈ w.registry.handles, g.id = y.id ∧ Path.Same g.store.path y.path := by
      rcases List.mem_cons.mp hy with rfl | hy
      · exact ⟨h, hh, hid, hp⟩
      · exact hw.live y hy
    obtain ⟨g, hg, hgid, hgp⟩ := hold
    obtain ⟨g', hg', hid', hstore⟩ :=
      HandleRegistry.exists_mem_modify (f := fun h => { h with owners := h.owners + 1 })
        (fun _ => ⟨rfl, rfl⟩) x.id hg
    rw [← hstore] at hgp
    exact ⟨g', hg', hid'.trans hgid, hgp⟩
  issued := hissued

/-- The first reference to a new handle is its only owner. -/
theorem Consistent.add (hw : w.Consistent)
    (hnew : ∀ h ∈ w.registry.handles, ¬ Path.Same h.store.path store.path) :
    (⟨w.registry.add store, ⟨store.path, w.registry.next⟩ :: w.held,
      w.registry.next :: w.issued⟩ : Holders).Consistent where
  sound := hw.sound.add hnew
  owners h hh := by
    rw [count_cons]
    rcases List.mem_append.mp hh with hh | hh
    · have hlt := hw.sound.below h hh
      rw [if_neg (by dsimp only; omega)]
      exact hw.owners h hh
    · rw [List.mem_singleton.mp hh, if_pos rfl, hw.count_eq_zero (Nat.le_refl _)]
  owned h hh := by
    rcases List.mem_append.mp hh with hh | hh
    · exact hw.owned h hh
    · rw [List.mem_singleton.mp hh]
      exact Nat.one_pos
  live y hy := by
    rcases List.mem_cons.mp hy with rfl | hy
    · exact ⟨_, List.mem_append_right _ (List.mem_singleton_self _), rfl, rfl⟩
    · obtain ⟨h, hh, hid, hp⟩ := hw.live y hy
      exact ⟨h, List.mem_append_left _ hh, hid, hp⟩
  issued id hid := by
    show id < w.registry.next + 1
    rcases List.mem_cons.mp hid with rfl | hid
    · exact Nat.lt_succ_self _
    · exact Nat.lt_succ_of_lt (hw.issued id hid)

/-- A dropped reference is one owner less; the handle is gone with the last one. -/
theorem Consistent.release (hw : w.Consistent) (hx : x ∈ w.held) :
    ({ w with registry := w.registry.release x.id, held := w.held.erase x } : Holders).Consistent := by
  have howners : ∀ g ∈ w.registry.handles,
      (if g.id = x.id then { g with owners := g.owners - 1 } else g).owners =
        Reference.count g.id (w.held.erase x) := by
    intro g hg
    have := hw.owners g hg
    rw [count_erase hx]
    by_cases hgx : g.id = x.id
    · simp only [if_pos hgx, if_pos hgx.symm]
      omega
    · simp only [if_neg hgx, if_neg (Ne.symm hgx)]
      exact this
  refine ⟨hw.sound.release, ?_, ?_, ?_, hw.issued⟩
  · intro h' hh'
    obtain ⟨⟨g, hg, rfl⟩, -⟩ := HandleRegistry.mem_release.mp hh'
    rw [howners g hg]
    split_ifs <;> rfl
  · exact fun h' hh' => (HandleRegistry.mem_release.mp hh').2
  · intro y hy
    obtain ⟨g, hg, hid, hp⟩ := hw.live y (List.mem_of_mem_erase hy)
    have hheld : 0 < Reference.count y.id (w.held.erase x) := count_pos hy
    rw [← hid, ← howners g hg] at hheld
    obtain ⟨hid', hstore⟩ := HandleRegistry.kept_modify
      (f := fun h => { h with owners := h.owners - 1 }) (fun _ => ⟨rfl, rfl⟩) x.id g
    rw [← hstore] at hp
    exact ⟨_, HandleRegistry.mem_release.mpr ⟨⟨g, hg, rfl⟩, hheld⟩, hid'.trans hid, hp⟩

/-- A panic behind the gate changes neither owners nor paths. -/
theorem Consistent.poison (hw : w.Consistent) :
    ({ w with registry := w.registry.poison id } : Holders).Consistent := by
  have hmem : ∀ h' ∈ (w.registry.poison id).handles, ∃ g ∈ w.registry.handles,
      h'.id = g.id ∧ h'.owners = g.owners := by
    intro h' hh'
    obtain ⟨g, hg, rfl⟩ := HandleRegistry.mem_modify.mp hh'
    refine ⟨g, hg, ?_⟩
    split_ifs
    · exact ⟨rfl, rfl⟩
    · exact ⟨rfl, rfl⟩
  refine ⟨hw.sound.modify fun _ => ⟨rfl, rfl⟩, ?_, ?_, ?_, hw.issued⟩
  · intro h' hh'
    obtain ⟨g, hg, hid, howners⟩ := hmem h' hh'
    rw [hid, howners]
    exact hw.owners g hg
  · intro h' hh'
    obtain ⟨g, hg, -, howners⟩ := hmem h' hh'
    rw [howners]
    exact hw.owned g hg
  · intro y hy
    obtain ⟨g, hg, hid, hp⟩ := hw.live y hy
    obtain ⟨g', hg', hid', hstore⟩ :=
      HandleRegistry.exists_mem_modify (f := fun h => { h with poisoned := true })
        (fun _ => ⟨rfl, rfl⟩) id hg
    rw [← hstore] at hp
    exact ⟨g', hg', hid'.trans hid, hp⟩

/-- Asking for a handle, by whether the file has a live one. -/
theorem Consistent.acquire (hw : w.Consistent) : (w.call (.acquire store)).Consistent := by
  by_cases hlive : ∃ h ∈ w.registry.handles, Path.Same h.store.path store.path
  · obtain ⟨h, hh, hp⟩ := hlive
    have hissued : ∀ id ∈ h.id :: w.issued, id < w.registry.next :=
      List.forall_mem_cons.mpr ⟨hw.sound.below h hh, hw.issued⟩
    simp only [call, HandleRegistry.acquire_of_live hw.sound hh hp]
    exact hw.prune.retain (x := ⟨store.path, h.id⟩) hh rfl hp hissued
  · have hnew : ∀ h ∈ w.registry.handles, ¬ Path.Same h.store.path store.path :=
      fun h hh hp => hlive ⟨h, hh, hp⟩
    simp only [call, HandleRegistry.acquire_of_fresh hw.sound hnew]
    exact hw.prune.add hnew

theorem Consistent.call (hw : w.Consistent) (c : HandleCall) : (w.call c).Consistent := by
  cases c with
  | acquire store => exact hw.acquire
  | share x =>
    rw [Holders.call]
    split_ifs with hx
    · obtain ⟨h, hh, hid, hp⟩ := hw.live x hx
      exact hw.retain hh hid hp hw.issued
    · exact hw
  | drop x =>
    rw [Holders.call]
    split_ifs with hx
    · exact hw.release hx
    · exact hw
  | poison x =>
    rw [Holders.call]
    split_ifs
    · exact hw.poison
    · exact hw

/-! ## Any calls -/

theorem consistent_after (calls : List HandleCall) : (after calls).Consistent := by
  have hrun : ∀ (calls : List HandleCall) (w : Holders), w.Consistent →
      (calls.foldl Holders.call w).Consistent := by
    intro calls
    induction calls with
    | nil => exact fun w hw => hw
    | cons c calls ih => exact fun w hw => ih (w.call c) (hw.call c)
  exact hrun calls _ consistent_empty

/-- A reference is to one live handle, whose path is that of the reference. -/
theorem Consistent.get? (hw : w.Consistent) (hx : x ∈ w.held) : ∃ h,
    h ∈ w.registry.handles ∧ h.id = x.id ∧ w.registry.get? x.id = some h ∧
      Path.Same h.store.path x.path := by
  obtain ⟨h, hh, hid, hp⟩ := hw.live x hx
  have hget := hw.sound.get? hh
  rw [hid] at hget
  exact ⟨h, hh, hid, hget, hp⟩

/-- References are to one handle exactly if they are for one path. -/
theorem Consistent.id_eq_iff (hw : w.Consistent) (hx : x ∈ w.held) (hy : y ∈ w.held) :
    x.id = y.id ↔ Path.Same x.path y.path := by
  obtain ⟨h, hh, hid, hget, hp⟩ := hw.get? hx
  obtain ⟨h', hh', hid', hget', hp'⟩ := hw.get? hy
  constructor
  · intro heq
    rw [heq, hget'] at hget
    cases hget
    exact hp.symm.trans hp'
  · intro hsame
    have := hw.sound.eq_of_path hh hh' ((hp.trans hsame).trans hp'.symm)
    rw [← hid, ← hid', this]

/-- After any calls, all references are to live handles, and they have one handle exactly where
    they have one path. Who asks for a file that someone has a reference to becomes one more
    owner of that handle, whose gate stays as it is; who asks for any other file gets a handle
    that was never handed out before, with an open gate. -/
theorem one_handle_per_file (calls : List HandleCall) (store : FileStore) :
    let w := after calls
    let asked := w.registry.acquire store
    (∀ x ∈ w.held, ∃ h, w.registry.get? x.id = some h ∧ Path.Same h.store.path x.path) ∧
    (∀ x ∈ w.held, ∀ y ∈ w.held, x.id = y.id ↔ Path.Same x.path y.path) ∧
    (∀ x ∈ w.held, Path.Same x.path store.path → asked.1 = x.id ∧
      ∃ h, w.registry.get? x.id = some h ∧
        asked.2.get? x.id = some { h with owners := h.owners + 1 }) ∧
    ((∀ x ∈ w.held, ¬ Path.Same x.path store.path) → asked.1 ∉ w.issued ∧
      asked.2.get? asked.1 = some ⟨asked.1, store, false, 1⟩) := by
  intro w asked
  have hw : w.Consistent := consistent_after calls
  refine ⟨?_, fun x hx y hy => hw.id_eq_iff hx hy, ?_, ?_⟩
  · intro x hx
    obtain ⟨h, -, -, hget, hp⟩ := hw.get? hx
    exact ⟨h, hget, hp⟩
  · intro x hx hsame
    obtain ⟨h, hh, hid, hget, hp⟩ := hw.get? hx
    have hasked : asked = (h.id, w.registry.prune.retain h.id) :=
      HandleRegistry.acquire_of_live hw.sound hh (hp.trans hsame)
    have hsound : (w.registry.prune.retain h.id).Sound :=
      hw.sound.prune.modify fun _ => ⟨rfl, rfl⟩
    have hmem : { h with owners := h.owners + 1 } ∈ (w.registry.prune.retain h.id).handles :=
      HandleRegistry.mem_modify.mpr ⟨h, hh, if_pos rfl⟩
    rw [hasked, ← hid]
    rw [← hid] at hget
    exact ⟨rfl, h, hget, hsound.get? hmem⟩
  · intro hother
    have hnew : ∀ h ∈ w.registry.handles, ¬ Path.Same h.store.path store.path := by
      intro h hh hp
      -- A live handle has an owner, and every owner is a reference.
      have hcount := hw.owned h hh
      rw [hw.owners h hh] at hcount
      obtain ⟨x, hx, heq⟩ := List.countP_pos_iff.mp hcount
      obtain ⟨h', hh', hid', -, hp'⟩ := hw.get? hx
      have hsame : h' = h :=
        List.inj_on_of_nodup_map hw.sound.ids hh' hh (hid'.trans (by simpa using heq))
      rw [hsame] at hp'
      exact hother x hx (hp'.symm.trans hp)
    have hasked : asked = (w.registry.next, w.registry.prune.add store) :=
      HandleRegistry.acquire_of_fresh hw.sound hnew
    have hsound : (w.registry.prune.add store).Sound := hw.sound.prune.add hnew
    rw [hasked]
    refine ⟨fun hmem => Nat.lt_irrefl _ (hw.issued _ hmem), ?_⟩
    exact hsound.get? (List.mem_append_right _ (List.mem_singleton_self _))

/-! ## Two spellings of one path -/

/-- A file is opened under two spellings of its path, and another one beside it. The first gate
    is poisoned, and the reference that did so is dropped. -/
def spelledCalls : List HandleCall :=
  [.acquire ⟨"d/M", true⟩, .acquire ⟨"d/./M", false⟩, .acquire ⟨"d/N", true⟩, .poison ⟨"d/M", 0⟩,
    .drop ⟨"d/M", 0⟩]

/-- The second spelling keeps the poisoned handle alive, so whoever asks gets it. When that
    reference is dropped too, there is a new handle with an open gate. -/
theorem one_handle_per_spelling :
    (⟨"d/./M", 0⟩ ∈ (after spelledCalls).held ∧
      ((after spelledCalls).registry.acquire ⟨"d//M", true⟩).1 = 0 ∧
      ((after spelledCalls).registry.get? 0).map FileHandle.poisoned = some true) ∧
    let calls := spelledCalls ++ [.drop ⟨"d/./M", 0⟩]
    (∀ x ∈ (after calls).held, ¬ Path.Same x.path "d//M") ∧ (after calls).issued = [1, 0, 0] ∧
      ((after calls).registry.acquire ⟨"d//M", true⟩).1 ∉ (after calls).issued ∧
      (((after calls).registry.acquire ⟨"d//M", true⟩).2.get?
        ((after calls).registry.acquire ⟨"d//M", true⟩).1).map FileHandle.poisoned = some false := by
  have hheld : (⟨"d/./M", 0⟩ : Reference) ∈ (after spelledCalls).held := by decide +kernel
  have hspelled : Path.Same "d/./M" "d//M" := by decide +kernel
  obtain ⟨-, -, hlive, -⟩ := one_handle_per_file spelledCalls ⟨"d//M", true⟩
  refine ⟨⟨hheld, (hlive _ hheld hspelled).1, by decide +kernel⟩, ?_⟩
  intro calls
  obtain ⟨-, -, -, hfresh⟩ := one_handle_per_file calls ⟨"d//M", true⟩
  have hdropped : ∀ x ∈ (after calls).held, ¬ Path.Same x.path "d//M" := by decide +kernel
  obtain ⟨hnew, hget⟩ := hfresh hdropped
  exact ⟨hdropped, by decide +kernel, hnew, by rw [hget]; rfl⟩

end Holders

end KeyedRecords

import KeyedRecords.Proofs.Model.Assignment
import KeyedRecords.Proofs.Store.FileTree
import KeyedRecords.Proofs.Store.Handles

/-!
# Whose settings a file context follows

A context on a file is made from a configuration, which says whether missing directories are made
on a write. All contexts on one file share a handle while any of them lives, and the handle keeps
the store that it was made for.

**The configuration may be that of another context.** Who asks for a file that is open gets the
handle that is there, whose settings are not compared with the ones that were asked for. A save then
makes directories, or refuses to, as the configuration says that the file was first opened with.

Results:
* `Consistent.mem_call`: where the handles after a call come from.
* `Consistent.store_kept`: a handle keeps its store as long as it lives.
* `file_context_settings`: which store a context has, and when its saves go by its configuration.
* `save_against_configuration`: a directory that is made against the configuration.
-/

namespace KeyedRecords

/-! ## Handles keep their stores -/

namespace Holders

variable {w : Holders} {x : Reference} {store : FileStore} {h h' : FileHandle} {c : HandleCall}

/-- Who asks for a handle gets that of the file, or a new one for a file that had none. -/
theorem Consistent.acquire_cases (hw : w.Consistent) (store : FileStore) :
    (∃ h ∈ w.registry.handles,
        w.registry.acquire store = (h.id, w.registry.prune.retain h.id)) ∨
      (∀ h ∈ w.registry.handles, ¬ Path.Same h.store.path store.path) ∧
        w.registry.acquire store = (w.registry.next, w.registry.prune.add store) := by
  by_cases hlive : ∃ h ∈ w.registry.handles, Path.Same h.store.path store.path
  · obtain ⟨h, hh, hp⟩ := hlive
    exact .inl ⟨h, hh, HandleRegistry.acquire_of_live hw.sound hh hp⟩
  · have hnew : ∀ h ∈ w.registry.handles, ¬ Path.Same h.store.path store.path :=
      fun h hh hp => hlive ⟨h, hh, hp⟩
    exact .inr ⟨hnew, HandleRegistry.acquire_of_fresh hw.sound hnew⟩

/-- A handle is one that lived before the call, with its store, or it was made by the call, for a
    file that had none. -/
theorem Consistent.mem_call (hw : w.Consistent) (hh' : h' ∈ (w.call c).registry.handles) :
    (∃ h ∈ w.registry.handles, h.id = h'.id ∧ h.store = h'.store) ∨
      c = .acquire h'.store ∧ h'.id = w.registry.next ∧
        ∀ h ∈ w.registry.handles, ¬ Path.Same h.store.path h'.store.path := by
  have hmodify {id : ℕ} {f : FileHandle → FileHandle}
      (hf : ∀ h, (f h).id = h.id ∧ (f h).store = h.store)
      (hh' : h' ∈ (w.registry.modify id f).handles) :
      ∃ h ∈ w.registry.handles, h.id = h'.id ∧ h.store = h'.store := by
    obtain ⟨h, hh, rfl⟩ := HandleRegistry.mem_modify.mp hh'
    obtain ⟨hid, hstore⟩ := HandleRegistry.kept_modify hf id h
    exact ⟨h, hh, hid.symm, hstore.symm⟩
  have hsame : h' ∈ w.registry.handles →
      ∃ h ∈ w.registry.handles, h.id = h'.id ∧ h.store = h'.store :=
    fun hh => ⟨h', hh, rfl, rfl⟩
  cases c with
  | acquire store =>
    rw [Holders.call] at hh'
    rcases hw.acquire_cases store with ⟨h, -, hasked⟩ | ⟨hnew, hasked⟩
    · rw [hasked] at hh'
      exact .inl (hmodify (f := fun h => { h with owners := h.owners + 1 })
        (fun _ => ⟨rfl, rfl⟩) hh')
    · rw [hasked] at hh'
      rcases List.mem_append.mp hh' with hh' | hh'
      · exact .inl (hsame hh')
      · obtain rfl := List.mem_singleton.mp hh'
        exact .inr ⟨rfl, rfl, hnew⟩
  | share x =>
    rw [Holders.call] at hh'
    split_ifs at hh'
    · exact .inl (hmodify (f := fun h => { h with owners := h.owners + 1 })
        (fun _ => ⟨rfl, rfl⟩) hh')
    · exact .inl (hsame hh')
  | drop x =>
    rw [Holders.call] at hh'
    split_ifs at hh'
    · obtain ⟨⟨h, hh, rfl⟩, -⟩ := HandleRegistry.mem_release.mp hh'
      obtain ⟨hid, hstore⟩ := HandleRegistry.kept_modify
        (f := fun h => { h with owners := h.owners - 1 }) (fun _ => ⟨rfl, rfl⟩) x.id h
      exact .inl ⟨h, hh, hid.symm, hstore.symm⟩
    · exact .inl (hsame hh')
  | poison x =>
    rw [Holders.call] at hh'
    split_ifs at hh'
    · exact .inl (hmodify (f := fun h => { h with poisoned := true }) (fun _ => ⟨rfl, rfl⟩) hh')
    · exact .inl (hsame hh')

/-- Identities are not given out again. -/
theorem Consistent.next_le_call (hw : w.Consistent) (c : HandleCall) :
    w.registry.next ≤ (w.call c).registry.next := by
  cases c with
  | acquire store =>
    rw [Holders.call]
    rcases hw.acquire_cases store with ⟨h, -, hasked⟩ | ⟨-, hasked⟩
    · rw [hasked]
      exact Nat.le_refl _
    · rw [hasked]
      exact Nat.le_succ _
  | share x => rw [Holders.call]; split_ifs <;> exact Nat.le_refl _
  | drop x => rw [Holders.call]; split_ifs <;> exact Nat.le_refl _
  | poison x => rw [Holders.call]; split_ifs <;> exact Nat.le_refl _

/-- As long as a handle lives it keeps its store. -/
theorem Consistent.store_kept (calls : List HandleCall) : ∀ {w : Holders}, w.Consistent →
    ∀ h' ∈ (calls.foldl Holders.call w).registry.handles, h'.id < w.registry.next →
      ∃ h ∈ w.registry.handles, h.id = h'.id ∧ h.store = h'.store := by
  induction calls with
  | nil => exact fun _ h' hh' _ => ⟨h', hh', rfl, rfl⟩
  | cons c calls ih =>
    intro w hw h' hh' hlt
    obtain ⟨h₁, hh₁, hid₁, hstore₁⟩ :=
      ih (hw.call c) h' hh' (lt_of_lt_of_le hlt (hw.next_le_call c))
    rcases hw.mem_call hh₁ with ⟨h, hh, hid, hstore⟩ | ⟨-, hid, -⟩
    · exact ⟨h, hh, hid.trans hid₁, hstore.trans hstore₁⟩
    · -- A handle that was made by the call is not below what was next before it.
      omega

/-- The store of a handle is one that a handle was asked for. -/
theorem acquired_of_mem (calls : List HandleCall) :
    ∀ h ∈ (after calls).registry.handles, .acquire h.store ∈ calls := by
  induction calls using List.reverseRecOn with
  | nil => exact fun h hh => by cases hh
  | append_singleton calls c ih =>
    intro h' hh'
    unfold after at hh'
    rw [List.foldl_append] at hh'
    rcases (consistent_after calls).mem_call hh' with ⟨h, hh, -, hstore⟩ | ⟨hc, -, -⟩
    · rw [← hstore]
      exact List.mem_append_left _ (ih h hh)
    · rw [hc]
      exact List.mem_append_right _ (List.mem_singleton_self _)

/-- Every live handle is held by someone, for its path. -/
theorem Consistent.exists_held (hw : w.Consistent) (hh : h ∈ w.registry.handles) :
    ∃ y ∈ w.held, Path.Same y.path h.store.path := by
  have hcount := hw.owned h hh
  rw [hw.owners h hh] at hcount
  obtain ⟨y, hy, heq⟩ := List.countP_pos_iff.mp hcount
  obtain ⟨g, hg, hid, -, hp⟩ := hw.get? hy
  have hsame : g = h :=
    List.inj_on_of_nodup_map hw.sound.ids hg hh (hid.trans (by simpa using heq))
  rw [hsame] at hp
  exact ⟨y, hy, hp.symm⟩

/-- The handle that was asked for keeps the store of the one that the file had then, or was made for
    the store that it was asked for. -/
theorem exists_settled (before later : List HandleCall) {store : FileStore} {id : ℕ}
    (hid : id = ((after before).registry.acquire store).1)
    (hx : ⟨store.path, id⟩ ∈ (after (before ++ .acquire store :: later)).held) :
    ∃ h, (after (before ++ .acquire store :: later)).registry.get? id = some h ∧
      Path.Same h.store.path store.path ∧ .acquire h.store ∈ before ++ [.acquire store] ∧
      ((∀ y ∈ (after before).held, ¬ Path.Same y.path store.path) → h.store = store) ∧
      ∀ y ∈ (after before).held, Path.Same y.path store.path →
        ∃ g, (after before).registry.get? y.id = some g ∧ g.store = h.store := by
  obtain ⟨h, hh, hhid, hget, hp⟩ := (consistent_after _).get? hx
  have hw := consistent_after before
  have hw₁ := hw.call (.acquire store)
  have hlater : after (before ++ .acquire store :: later) =
      later.foldl Holders.call ((after before).call (.acquire store)) := by
    unfold after
    rw [List.foldl_append, List.foldl_cons]
  have hlt : h.id < ((after before).call (.acquire store)).registry.next := by
    rw [hhid]
    apply hw₁.issued
    rw [hid]
    exact List.mem_cons_self
  rw [hlater] at hh
  obtain ⟨h₁, hh₁, -, hstore₁⟩ := hw₁.store_kept later h hh hlt
  have hcall : after (before ++ [.acquire store]) = (after before).call (.acquire store) := by
    unfold after
    rw [List.foldl_append]
    rfl
  have hacquired := acquired_of_mem (before ++ [.acquire store]) h₁ (by rwa [hcall])
  rw [hstore₁] at hacquired
  refine ⟨h, hget, hp, hacquired, ?_, ?_⟩
  · intro hother
    rcases hw.mem_call hh₁ with ⟨h₀, hh₀, -, hstore₀⟩ | ⟨hc, -, -⟩
    · obtain ⟨y, hy, hyp⟩ := hw.exists_held hh₀
      rw [hstore₀, hstore₁] at hyp
      exact absurd (hyp.trans hp) (hother y hy)
    · cases hc
      exact hstore₁.symm
  · intro y hy hyp
    obtain ⟨g, hg, -, hgget, hgp⟩ := hw.get? hy
    refine ⟨g, hgget, ?_⟩
    rcases hw.mem_call hh₁ with ⟨h₀, hh₀, -, hstore₀⟩ | ⟨-, -, hnew⟩
    · rw [← hstore₁, ← hstore₀] at hp ⊢
      rw [hw.sound.eq_of_path hg hh₀ ((hgp.trans hyp).trans hp.symm)]
    · rw [hstore₁] at hnew
      exact absurd ((hgp.trans hyp).trans hp.symm) (hnew g hg)

end Holders

/-! ## Saves in missing directories -/

/-- What a save is to come to where the directory of the record is missing: the directory is made
    and the record is in it, or there is no record and nothing has changed. -/
def GoesBy (createDirectories : Bool) (path dir : String) (bytes : List UInt8) (before : FileTree)
    (result : Except Failure Unit) (after : FileTree) : Prop :=
  if createDirectories then
    result = .ok () ∧ after.isDirectory (Path.segments dir) = true ∧ after.readFile path = .ok bytes
  else result = .error (.store (.notFound path)) ∧ after = before

namespace Context

open FileTree RecordStore

variable {s : RecordSchema} {r : s.Record} {bytes : List UInt8} {f : FileStore}
  {rt : Runtime FileTree} {dir name : String} {made : FileTree} {place : List String}

/-- A save goes by the settings of its store. -/
theorem goesBy_iff (sink : Sink) (hbytes : s.toBytes r = .ok bytes) (hgate : rt.poisoned = false)
    (h : rt.store.Awaits f.path dir name made place) (createDirectories : Bool) :
    GoesBy createDirectories f.path dir bytes rt.store ((Context.mk (.file f) sink).save s r rt).1
        ((Context.mk (.file f) sink).save s r rt).2.store ↔
      f.createDirectories = createDirectories := by
  obtain ⟨outcome, st', hsaving, hsave⟩ :=
    exists_saving (Context.mk (.file f) sink) s r rt.store rt.poisoned
  obtain ⟨hresult, hstore, -⟩ := hsave rt rfl rfl
  rw [hresult, hstore]
  rw [hgate] at hsaving
  cases hf : f.createDirectories with
  | true =>
    obtain ⟨hwritten, hstate⟩ := file_write_made h hf bytes
    obtain ⟨rfl, rfl⟩ := hsaving.unique (.accepted hbytes hwritten)
    cases createDirectories with
    | true =>
      refine iff_of_true ⟨rfl, ?_⟩ rfl
      show FileTree.isDirectory ((file f).write bytes rt.store).state _ = true ∧
        FileTree.readFile ((file f).write bytes rt.store).state _ = _
      rw [hstate]
      exact ⟨h.isDirectory_written bytes, h.readFile_written bytes⟩
    | false => exact iff_of_false (fun hgoes => by cases hgoes.1) (by decide)
  | false =>
    obtain ⟨hwritten, hstate⟩ := file_write_missing h hf bytes
    obtain ⟨rfl, rfl⟩ := hsaving.unique (.refused hbytes hwritten)
    cases createDirectories with
    | true => exact iff_of_false (fun hgoes => by cases hgoes.1) (by decide)
    | false => exact iff_of_true ⟨rfl, hstate⟩ rfl

/-- After any calls, a context that was made from a configuration, and that is still alive, has the
    store of the handle that the file had when the context was made; only if the file had none is it
    the store of its own configuration. Where its record awaits a directory, a save goes by its
    configuration exactly if that store says of missing directories what the configuration says.
    This is so if nobody had the file open, and if whoever asked for the file before said the
    same. -/
theorem file_context_settings (before later : List HandleCall) (config : StorageConfig)
    (storageName : String) :
    let own := FileStore.forModel config storageName
    let w := Holders.after before
    let w' := Holders.after (before ++ .acquire own :: later)
    let id := (w.registry.acquire own).1
    ⟨own.path, id⟩ ∈ w'.held → ∃ h, w'.registry.get? id = some h ∧
      Path.Same h.store.path own.path ∧
      ((∀ y ∈ w.held, ¬ Path.Same y.path own.path) → h.store = own) ∧
      (∀ y ∈ w.held, Path.Same y.path own.path →
        ∃ g, w.registry.get? y.id = some g ∧ g.store = h.store) ∧
      ((∀ store, .acquire store ∈ before → Path.Same store.path own.path →
          store.createDirectories = config.createDirectories) →
        h.store.createDirectories = config.createDirectories) ∧
      ∀ (sink : Sink) (s : RecordSchema) (r : s.Record) (bytes : List UInt8)
        (rt : Runtime FileTree) (dir name : String) (made : FileTree) (place : List String),
        s.toBytes r = .ok bytes → rt.poisoned = false →
        rt.store.Awaits h.store.path dir name made place →
          (GoesBy config.createDirectories h.store.path dir bytes rt.store
              ((Context.mk (.file h.store) sink).save s r rt).1
              ((Context.mk (.file h.store) sink).save s r rt).2.store ↔
            h.store.createDirectories = config.createDirectories) := by
  intro own w w' id hx
  obtain ⟨h, hget, hp, hacquired, hfresh, hshared⟩ := Holders.exists_settled before later rfl hx
  refine ⟨h, hget, hp, hfresh, hshared, ?_, ?_⟩
  · intro hsame
    rcases List.mem_append.mp hacquired with hbefore | hown
    · exact hsame h.store hbefore hp
    · have hstore : h.store = own := HandleCall.acquire.inj (List.mem_singleton.mp hown)
      rw [hstore]
      rfl
  · intro sink s r bytes rt dir name made place hbytes hgate hawaits
    exact goesBy_iff sink hbytes hgate hawaits config.createDirectories

/-! ## One record in a directory that is missing -/

section Missing

open Samples

/-- A configuration for the directory `x`. -/
def configX (createDirectories : Bool) : StorageConfig := ⟨"x", "storage", createDirectories⟩

/-- No file and no directory, an open gate. -/
def noFiles : Runtime FileTree := ⟨.directory [], false, .withHistory 0, []⟩

theorem isName_x : IsName "x" := ⟨by decide, by decide, by decide +kernel⟩

/-- In an empty tree the record `M` of `x` awaits its directory. -/
theorem awaits_x : noFiles.store.Awaits "x/M.storage" "x" "M.storage"
    (.directory [("x", .directory [])]) ["x"] := by
  have hroot : noFiles.store.lookup? [] = some (.directory []) := rfl
  have hdir : Path.segments "x" = ["x"] := by decide +kernel
  exact {
    parent := by decide +kernel
    spelled := ⟨by decide +kernel, by decide, by decide +kernel⟩
    spelled_dir := ⟨by decide +kernel, by decide, by decide +kernel⟩
    ending := by decide +kernel
    last := by decide +kernel
    isName := ⟨by decide, by decide, by decide +kernel⟩
    missing := by
      intro names h
      rw [hdir, walk_name hroot isName_x] at h
      cases h
    makes := by
      rw [hdir]
      exact .make hroot isName_x rfl (.done ⟨[], rfl⟩)
    free := by
      intro entries h
      simp [lookup?, child?] at h }

/-- The store of the record `M` of `x`. -/
theorem forModel_configX (createDirectories : Bool) :
    FileStore.forModel (configX createDirectories) "M" = ⟨"x/M.storage", createDirectories⟩ := by
  cases createDirectories <;> decide +kernel

/-- Next to a file that is open with the other setting, a save goes by its own one, both where it
    makes directories and where it makes none. -/
theorem file_context_settings_configX :
    let saved (createDirectories : Bool) :=
      (Context.mk (.file ⟨"x/M.storage", createDirectories⟩) .noop).save bookmark
        (firstLine.set bookmarkedFile [98]) noFiles
    GoesBy true "x/M.storage" "x" bookmarkBytes noFiles.store (saved true).1 (saved true).2.store ∧
      GoesBy false "x/M.storage" "x" bookmarkBytes noFiles.store (saved false).1
        (saved false).2.store := by
  have hgoes (createDirectories : Bool) :
      GoesBy createDirectories "x/M.storage" "x" bookmarkBytes noFiles.store
        ((Context.mk (.file ⟨"x/M.storage", createDirectories⟩) .noop).save bookmark
          (firstLine.set bookmarkedFile [98]) noFiles).1
        ((Context.mk (.file ⟨"x/M.storage", createDirectories⟩) .noop).save bookmark
          (firstLine.set bookmarkedFile [98]) noFiles).2.store := by
    obtain ⟨h, -, -, hfresh, -, -, hgoes⟩ := file_context_settings
      [.acquire ⟨"y/M.storage", !createDirectories⟩] [.drop ⟨"y/M.storage", 0⟩]
      (configX createDirectories) "M" (by cases createDirectories <;> decide +kernel)
    have hstore := hfresh (by cases createDirectories <;> decide +kernel)
    rw [forModel_configX] at hstore
    rw [hstore] at hgoes
    exact (hgoes .noop bookmark _ bookmarkBytes noFiles "x" "M.storage" _ _ toBytes_bookmark rfl
      awaits_x).mpr rfl
  exact ⟨hgoes true, hgoes false⟩

/-- A configuration that makes no directories is asked for a record that is open with one that makes
    them: its context gets that handle, and a save through it makes the directory. -/
theorem save_against_configuration :
    let w := Holders.after [.acquire (FileStore.forModel (configX true) "M"),
      .acquire (FileStore.forModel (configX false) "M")]
    w.held = [⟨"x/M.storage", 0⟩, ⟨"x/M.storage", 0⟩] ∧ ∃ h, w.registry.get? 0 = some h ∧
      let saved := (Context.mk (.file h.store) .noop).save bookmark
        (firstLine.set bookmarkedFile [98]) noFiles
      saved.1 = .ok () ∧ saved.2.store.isDirectory (Path.segments "x") = true ∧
        noFiles.store.isDirectory (Path.segments "x") = false ∧
        ¬ GoesBy (configX false).createDirectories h.store.path "x" bookmarkBytes noFiles.store
          saved.1 saved.2.store := by
  intro w
  refine ⟨by decide +kernel, ⟨0, ⟨"x/M.storage", true⟩, false, 2⟩, by decide +kernel, ?_⟩
  intro saved
  have hopen : noFiles.poisoned = false := rfl
  have hgoes := goesBy_iff (f := ⟨"x/M.storage", true⟩) .noop toBytes_bookmark hopen awaits_x
  obtain ⟨hresult, hdirectory, -⟩ := (hgoes true).mpr rfl
  exact ⟨hresult, hdirectory, awaits_x.isDirectory_missing,
    fun hnot => absurd ((hgoes false).mp hnot) (by decide)⟩

end Missing

end Context

end KeyedRecords

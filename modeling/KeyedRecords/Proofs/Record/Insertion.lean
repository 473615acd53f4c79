import KeyedRecords.Proofs.Record.Partial

/-!
# Containers as maps from keys to bytes

To store bytes under a key replaces the first entry that has the key, or adds an entry at the end.
A container that was read may have several entries under a key. All but the first are hidden, and
stay so: what is stored under the key comes before them.

Results:
* `entries_insert`: one entry is replaced in its place, and all others are kept.
* `get?_insertAll_eq_some_iff`: the bytes that were stored last are found.
* `keys_insertAll`: new keys come last, in the order in which they were first stored under.
* `insertAll_as_map`: a container is a map, whatever it held at first.
-/

namespace KeyedRecords.Container

variable {c : Container} {key : KeyLiteral} {bytes : List UInt8}

/-! ## One insertion -/

/-- The first entry under the key is replaced in its place, and all others are kept. -/
theorem entries_insert {before after : List Entry} {old : List UInt8}
    (hentries : c.entries = before ++ ⟨key, old⟩ :: after) (hbefore : ∀ e ∈ before, e.key ≠ key) :
    (c.insert key bytes).entries = before ++ ⟨key, bytes⟩ :: after := by
  rw [insert, hentries]
  clear hentries
  induction before with
  | nil => rw [List.nil_append, insertEntry, if_pos rfl, List.nil_append]
  | cons e before ih =>
    rw [List.forall_mem_cons] at hbefore
    rw [List.cons_append, insertEntry, if_neg hbefore.1, List.cons_append]
    exact congrArg (List.cons e) (ih hbefore.2)

theorem exists_firstUnder (h : key ∈ c.keys) : ∃ old, c.FirstUnder key old := by
  cases hget : c.get? key with
  | none => exact absurd h (get?_eq_none_iff.mp hget)
  | some old => exact ⟨old, get?_eq_some_iff.mp hget⟩

/-- A new key comes last, and the keys that are there stay in their order. -/
theorem keys_insert :
    (c.insert key bytes).keys = if key ∈ c.keys then c.keys else c.keys ++ [key] := by
  split_ifs with h
  · obtain ⟨old, before, after, hentries, hbefore⟩ := exists_firstUnder h
    unfold keys
    rw [entries_insert hentries hbefore, hentries]
    simp only [List.map_append, List.map_cons]
  · rw [insert_of_not_mem h]
    unfold keys
    rw [List.map_append, List.map_singleton]

/-! ## Insertions one after the other -/

/-- What is stored under which key, in order. -/
abbrev Writes := List (KeyLiteral × List UInt8)

/-- Stores bytes under keys, in order. -/
def insertAll (c : Container) (writes : Writes) : Container :=
  writes.foldl (fun c w => c.insert w.1 w.2) c

/-- These bytes are the last that are stored under the key. -/
def LastUnder (writes : Writes) (key : KeyLiteral) (bytes : List UInt8) : Prop :=
  ∃ before after, writes = before ++ (key, bytes) :: after ∧ ∀ w ∈ after, w.1 ≠ key

/-- The keys that are stored under and that the container does not have, each once, in the order
    in which they come first. -/
def newKeys (c : Container) (writes : Writes) : List KeyLiteral :=
  ((writes.map Prod.fst).filter fun key => key ∉ c.keys).eraseDups

variable {w : KeyLiteral × List UInt8} {writes : Writes}

theorem insertAll_cons : c.insertAll (w :: writes) = (c.insert w.1 w.2).insertAll writes := rfl

theorem lastUnder_cons : LastUnder (w :: writes) key bytes ↔
    LastUnder writes key bytes ∨ w = (key, bytes) ∧ key ∉ writes.map Prod.fst := by
  have hnone : key ∉ writes.map Prod.fst ↔ ∀ w ∈ writes, w.1 ≠ key := by
    simp only [List.mem_map, not_exists, not_and, ne_eq]
  rw [hnone]
  constructor
  · rintro ⟨before, after, hwrites, hafter⟩
    cases before with
    | nil =>
      obtain ⟨rfl, rfl⟩ := List.cons.inj hwrites
      exact .inr ⟨rfl, hafter⟩
    | cons w' before =>
      obtain ⟨rfl, hrest⟩ := List.cons.inj hwrites
      exact .inl ⟨before, after, hrest, hafter⟩
  · rintro (⟨before, after, rfl, hafter⟩ | ⟨rfl, hafter⟩)
    · exact ⟨w :: before, after, rfl, hafter⟩
    · exact ⟨[], writes, rfl, hafter⟩

/-- The bytes that were stored last are found, and under other keys what was there before. -/
theorem get?_insertAll_eq_some_iff : (c.insertAll writes).get? key = some bytes ↔
    LastUnder writes key bytes ∨ key ∉ writes.map Prod.fst ∧ c.FirstUnder key bytes := by
  induction writes generalizing c with
  | nil => simp [insertAll, LastUnder, get?_eq_some_iff]
  | cons w writes ih =>
    rw [insertAll_cons, ih, lastUnder_cons, ← get?_eq_some_iff, ← get?_eq_some_iff, get?_insert,
      List.map_cons, List.mem_cons]
    obtain ⟨k, new⟩ := w
    by_cases hk : k = key
    · subst hk
      simp [and_comm]
    · simp [hk, Ne.symm hk, eq_comm]

theorem keys_insertAll : (c.insertAll writes).keys = c.keys ++ c.newKeys writes := by
  induction writes generalizing c with
  | nil => simp [insertAll, newKeys]
  | cons w writes ih =>
    rw [insertAll_cons, ih]
    unfold newKeys
    rw [keys_insert, List.map_cons]
    by_cases hw : w.1 ∈ c.keys
    · rw [if_pos hw, List.filter_cons_of_neg (by simpa using hw)]
    · have hfilter : (writes.map Prod.fst).filter (fun key => key ∉ c.keys ++ [w.1]) =
          ((writes.map Prod.fst).filter fun key => key ∉ c.keys).filter fun key => !key == w.1 := by
        rw [List.filter_filter]
        refine List.filter_congr fun key _ => ?_
        simp [and_comm, beq_eq_decide]
      rw [if_neg hw, List.filter_cons_of_pos (by simpa using hw), List.eraseDups_cons, hfilter,
        List.append_assoc, List.singleton_append]

theorem length_newKeys :
    (c.newKeys writes).length = ((writes.map Prod.fst).toFinset \ c.keys.toFinset).card := by
  unfold newKeys
  rw [← List.toFinset_card_of_nodup (nodup_eraseDups _)]
  congr 1
  ext key
  simp [List.mem_eraseDups]

theorem get?_insertAll_eq_none_iff :
    (c.insertAll writes).get? key = none ↔ key ∉ writes.map Prod.fst ∧ key ∉ c.keys := by
  rw [get?_eq_none_iff, keys_insertAll, newKeys]
  simp only [List.mem_append, List.mem_eraseDups, List.mem_filter, decide_eq_true_eq]
  tauto

theorem length_keys : c.keys.length = c.size := List.length_map _

/-- The container grows by one entry for each key that it did not have. -/
theorem size_insertAll : (c.insertAll writes).size =
    c.size + ((writes.map Prod.fst).toFinset \ c.keys.toFinset).card := by
  rw [← length_keys, keys_insertAll, List.length_append, length_keys, length_newKeys]

/-- A container is a map, whatever it held at first. Under a key the bytes are found that were
    stored last, or else those of the first entry; what is stored under one key is not found under
    another. The keys stay in their order and new ones follow, in the order in which they were
    first stored under, so the container grows by one entry for each. From nothing no key comes to
    be there twice. -/
theorem insertAll_as_map (c : Container) (writes : Writes) :
    (∀ key bytes, (c.insertAll writes).get? key = some bytes ↔
      LastUnder writes key bytes ∨ key ∉ writes.map Prod.fst ∧ c.FirstUnder key bytes) ∧
    (∀ key, (c.insertAll writes).get? key = none ↔
      key ∉ writes.map Prod.fst ∧ key ∉ c.keys) ∧
    (∀ key bytes other, other ≠ key → (c.insert key bytes).get? other = c.get? other) ∧
    (c.insertAll writes).keys = c.keys ++ c.newKeys writes ∧
    (c.insertAll writes).size =
      c.size + ((writes.map Prod.fst).toFinset \ c.keys.toFinset).card ∧
    ∀ schema, ((empty schema).insertAll writes).keys.Nodup := by
  refine ⟨fun key bytes => get?_insertAll_eq_some_iff, fun key => get?_insertAll_eq_none_iff,
    fun key bytes other hne => ?_, keys_insertAll, size_insertAll, fun schema => ?_⟩
  · rw [get?_insert, if_neg hne.symm]
  · rw [keys_insertAll]
    exact nodup_eraseDups _

/-- The bytes of a container that has the key `a` twice. -/
def repeatedText : List UInt8 := [5, 3, 0, 1, 0x61, 1, 1, 1, 14, 1, 2, 0, 1, 0x61, 1, 3]

/-- A key that is there twice and a new one, each stored under: the last bytes are found, the new
    key comes last, and the hidden entry is still counted. -/
theorem insertAll_as_map_repeatedText :
    let c : Container := ⟨5, [⟨.text "a", [1]⟩, ⟨.int 7, [2]⟩, ⟨.text "a", [3]⟩]⟩
    let writes : Writes := [(.int 9, [4]), (.text "a", [5]), (.int 9, [6])]
    ofBytes repeatedText = .ok c ∧
      (c.insertAll writes).get? (.text "a") = some [5] ∧
      (c.insertAll writes).get? (.int 9) = some [6] ∧
      (c.insertAll writes).get? (.int 7) = some [2] ∧
      (c.insertAll writes).get? (.int 8) = none ∧
      KeyLiteral.int 7 ≠ .text "a" ∧
      (c.insert (.text "a") [5]).get? (.int 7) = c.get? (.int 7) ∧
      (c.insertAll writes).keys = [.text "a", .int 7, .text "a", .int 9] ∧
      (c.insertAll writes).size = 4 := by
  intro c writes
  obtain ⟨hfound, habsent, hother, hkeys, hsize, -⟩ := insertAll_as_map c writes
  refine ⟨by decide +kernel, ?_, ?_, ?_, ?_, by decide, ?_, ?_, ?_⟩
  · exact (hfound _ _).mpr (.inl ⟨[(.int 9, [4])], [(.int 9, [6])], rfl, by decide⟩)
  · exact (hfound _ _).mpr (.inl ⟨[(.int 9, [4]), (.text "a", [5])], [], rfl, by decide⟩)
  · exact (hfound _ _).mpr (.inr ⟨by decide, [⟨.text "a", [1]⟩], [⟨.text "a", [3]⟩], rfl, by decide⟩)
  · exact (habsent _).mpr ⟨by decide, by decide⟩
  · exact hother _ _ _ (by decide)
  · rw [hkeys, show c.newKeys writes = [.int 9] by cbv]
    rfl
  · rw [hsize]
    decide

end KeyedRecords.Container

import KeyedRecords.Proofs.Codec.Reader

/-!
# Maps from their entries

Results:
* `ofList_entries`: a map is the map of its own entries.
* `Pieces.ofList`: the entries of a map of a list need no more bytes than those of the list,
  since repeated keys are dropped and nothing is added.
-/

namespace KeyedRecords.Codec.SortedMap

variable {α : Type}

theorem ext {m n : SortedMap α} (h : m.entries = n.entries) : m = n := by
  cases m
  cases n
  cases h
  rfl

/-- An entry whose key is after all others comes last. -/
theorem insertEntry_of_forall_lt {k : String} {v : α} {entries : List (String × α)}
    (h : ∀ e ∈ entries, e.1 < k) : insertEntry k v entries = entries ++ [(k, v)] := by
  induction entries with
  | nil => rfl
  | cons e es ih =>
    obtain ⟨k', v'⟩ := e
    have hlt : k' < k := h (k', v') List.mem_cons_self
    have hnlt : ¬ k < k' := fun h => String.lt_irrefl k (String.lt_trans h hlt)
    have hne : k ≠ k' := fun he => String.lt_irrefl k (he ▸ hlt)
    rw [insertEntry, if_neg hnlt, if_neg hne, ih fun e he => h e (List.mem_cons_of_mem _ he)]
    rfl

theorem entries_foldl_insert (es : List (String × α)) :
    ∀ m : SortedMap α, KeysIncrease (m.entries ++ es) →
      (es.foldl (fun m e => m.insert e.1 e.2) m).entries = m.entries ++ es := by
  induction es with
  | nil => intro m _; rw [List.foldl_nil, List.append_nil]
  | cons e es ih =>
    intro m h
    have hlast : (m.insert e.1 e.2).entries = m.entries ++ [e] :=
      insertEntry_of_forall_lt fun e' he' =>
        (List.pairwise_append.mp h).2.2 e' he' e List.mem_cons_self
    rw [List.foldl_cons, ih, hlast, List.append_assoc, List.singleton_append]
    rwa [hlast, List.append_assoc, List.singleton_append]

/-- A map is the map of its own entries. -/
theorem ofList_entries (m : SortedMap α) : ofList m.entries = m :=
  ext (entries_foldl_insert m.entries empty m.keys_increase)

theorem length_insertEntry_le (k : String) (v : α) (entries : List (String × α)) :
    (insertEntry k v entries).length ≤ entries.length + 1 := by
  induction entries with
  | nil => exact le_rfl
  | cons e es ih =>
    rw [insertEntry]
    split_ifs
    · exact le_rfl
    · simp
    · rw [List.length_cons, List.length_cons]; omega

theorem length_foldl_insert_le (es : List (String × α)) : ∀ m : SortedMap α,
    (es.foldl (fun m e => m.insert e.1 e.2) m).entries.length ≤ m.entries.length + es.length := by
  induction es with
  | nil => intro m; simp
  | cons e es ih =>
    intro m
    have h := ih (m.insert e.1 e.2)
    have hi : (m.insert e.1 e.2).entries.length ≤ m.entries.length + 1 :=
      length_insertEntry_le e.1 e.2 m.entries
    rw [List.foldl_cons, List.length_cons]
    omega

theorem length_entries_ofList_le (es : List (String × α)) :
    (ofList es).entries.length ≤ es.length := by
  have h := length_foldl_insert_le es empty
  rwa [show (empty : SortedMap α).entries.length = 0 from rfl, Nat.zero_add] at h

end SortedMap

/-! ## The bytes of entries -/

section Pieces

variable {α : Type} {P : List UInt8 → String × α → Prop}

theorem Pieces.insertEntry {k : String} {v : α} {part : List UInt8} (hp : P part (k, v))
    {used : List UInt8} {entries : List (String × α)} (h : Pieces P used entries) :
    ∃ bytes, Pieces P bytes (SortedMap.insertEntry k v entries) ∧
      bytes.length ≤ part.length + used.length := by
  induction entries generalizing used with
  | nil =>
    rw [pieces_nil_iff.mp h]
    exact ⟨part ++ [], Pieces.nil.cons hp, by simp⟩
  | cons e es ih =>
    obtain ⟨k', v'⟩ := e
    obtain ⟨first, second, rfl, he, hes⟩ := pieces_cons_iff.mp h
    rw [SortedMap.insertEntry]
    split_ifs
    · exact ⟨part ++ (first ++ second), (hes.cons he).cons hp, by simp⟩
    · exact ⟨part ++ second, hes.cons hp, by simp⟩
    · obtain ⟨bytes, hb, hle⟩ := ih hes
      refine ⟨first ++ bytes, hb.cons he, ?_⟩
      rw [List.length_append, List.length_append]
      omega

theorem Pieces.foldl_insert {es : List (String × α)} {used : List UInt8} (h : Pieces P used es) :
    ∀ {m : SortedMap α} {before : List UInt8}, Pieces P before m.entries →
      ∃ bytes, Pieces P bytes (es.foldl (fun m e => m.insert e.1 e.2) m).entries ∧
        bytes.length ≤ before.length + used.length := by
  induction es generalizing used with
  | nil =>
    intro m before hm
    exact ⟨before, hm, Nat.le_add_right _ _⟩
  | cons e es ih =>
    intro m before hm
    obtain ⟨first, second, rfl, he, hes⟩ := pieces_cons_iff.mp h
    obtain ⟨between, hbetween, hle⟩ := hm.insertEntry (k := e.1) (v := e.2) he
    obtain ⟨bytes, hb, hle'⟩ := ih hes (m := m.insert e.1 e.2) hbetween
    refine ⟨bytes, hb, ?_⟩
    rw [List.length_append]
    omega

/-- The entries of the map of a list need no more bytes than those of the list. -/
theorem Pieces.ofList {es : List (String × α)} {used : List UInt8} (h : Pieces P used es) :
    ∃ bytes, Pieces P bytes (SortedMap.ofList es).entries ∧ bytes.length ≤ used.length := by
  have hnil : Pieces P [] (SortedMap.empty : SortedMap α).entries := Pieces.nil
  obtain ⟨bytes, hb, hle⟩ := h.foldl_insert hnil
  exact ⟨bytes, hb, by simpa using hle⟩

end Pieces

end KeyedRecords.Codec

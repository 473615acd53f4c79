import KeyedRecords.Proofs.Codec.Reader

/-!
# Lengths that no memory holds

Room is made for a text or a list before it is read, for as many bytes or elements as its length
announces. Where no memory has that room the reading panics, whatever follows the length.

Result:
* `read_eq_panic_iff`: a value of any type is read without a panic unless the reading comes to
  such a length.
-/

namespace KeyedRecords.Codec

namespace Reader

variable {α β : Type} {r : Reader α}

/-! ## Where a panic comes from -/

theorem bind_eq_panic_iff {f : α → Reader β} {bytes : List UInt8} :
    (r >>= f) bytes = .error .panic ↔
      r bytes = .error .panic ∨ ∃ a rest, r bytes = .ok (a, rest) ∧ f a rest = .error .panic := by
  rw [bind_apply]
  cases r bytes with
  | error stop => simp [Except.bind]
  | ok p => obtain ⟨a, rest⟩ := p; simp [Except.bind]

theorem allocate_bind_eq_panic_iff {n size : ℕ} {bytes : List UInt8} :
    (allocate n size >>= fun _ => r) bytes = .error .panic ↔
      memoryLimit ≤ n * size ∨ r bytes = .error .panic := by
  unfold allocate
  split_ifs with hroom
  · rw [pure_bind, or_iff_right hroom.not_ge]
  · exact iff_of_true rfl (.inl (Nat.le_of_not_lt hroom))

/-- The reader gives a value or refuses. -/
def Calm (r : Reader α) : Prop := ∀ bytes, r bytes ≠ .error .panic

theorem Calm.pure (a : α) : Calm (pure a) := by rintro bytes ⟨⟩

theorem Calm.refuse (fault : Fault) : Calm (refuse fault : Reader α) := by rintro bytes ⟨⟩

theorem Calm.bind {f : α → Reader β} (hr : Calm r) (hf : ∀ a, Calm (f a)) : Calm (r >>= f) := by
  intro bytes h
  rcases bind_eq_panic_iff.mp h with h | ⟨a, rest, -, h⟩
  · exact hr bytes h
  · exact hf a rest h

theorem calm_take (n : ℕ) : Calm (take n) := by
  intro bytes h
  unfold take at h
  split_ifs at h
  cases h

theorem calm_require (n : ℕ) : Calm (require n) := by
  intro bytes h
  unfold require at h
  split_ifs at h
  cases h

theorem calm_byte : Calm byte := by
  intro bytes h
  cases bytes <;> cases h

theorem Calm.after_get {f : List UInt8 → Reader α} (h : ∀ left, Calm (f left)) :
    Calm (get >>= f) :=
  fun bytes => h bytes bytes

theorem bind_pure_eq_panic_iff {f : α → β} {bytes : List UInt8} :
    (r >>= fun a => Pure.pure (f a)) bytes = .error .panic ↔ r bytes = .error .panic := by
  refine Reader.bind_eq_panic_iff.trans (or_iff_left ?_)
  rintro ⟨a, rest, -, ⟨⟩⟩

/-- After a calm step only the next one can panic. -/
theorem Calm.bind_eq_panic_iff (hr : Calm r) {f : α → Reader β} {bytes : List UInt8} :
    (r >>= f) bytes = .error .panic ↔
      ∃ a rest, r bytes = .ok (a, rest) ∧ f a rest = .error .panic := by
  rw [Reader.bind_eq_panic_iff, or_iff_right (hr bytes)]

/-- What is read comes to be `P` before one of `n` values, which are read one after the other. -/
def RunsInto (r : Reader α) (P : List UInt8 → Prop) : ℕ → List UInt8 → Prop
  | 0, _ => False
  | n + 1, bytes => P bytes ∨ ∃ a rest, r bytes = .ok (a, rest) ∧ RunsInto r P n rest

section Runs

variable {P : List UInt8 → Prop}

theorem not_runsInto (hP : ∀ bytes, ¬ P bytes) {n : ℕ} {bytes : List UInt8} :
    ¬ RunsInto r P n bytes := by
  induction n generalizing bytes with
  | zero => exact id
  | succ n ih =>
    rintro (h | ⟨a, rest, -, h⟩)
    · exact hP bytes h
    · exact ih h

theorem many_eq_panic_iff (hP : ∀ bytes, r bytes = .error .panic ↔ P bytes) {n : ℕ}
    {bytes : List UInt8} : many r n bytes = .error .panic ↔ RunsInto r P n bytes := by
  induction n generalizing bytes with
  | zero => exact iff_of_false (Calm.pure [] bytes) id
  | succ n ih =>
    rw [many, RunsInto, bind_eq_panic_iff, hP]
    simp only [bind_pure_eq_panic_iff, ih]

theorem exactly_eq_panic_iff (hP : ∀ bytes, r bytes = .error .panic ↔ P bytes) {n : ℕ}
    {bytes : List UInt8} : exactly r n bytes = .error .panic ↔ RunsInto r P n bytes := by
  induction n generalizing bytes with
  | zero => exact iff_of_false (Calm.pure _ bytes) id
  | succ n ih =>
    rw [exactly, RunsInto, bind_eq_panic_iff, hP]
    simp only [bind_pure_eq_panic_iff, ih]

end Runs

end Reader

open Reader

/-! ## Texts, characters and tags -/

theorem Varint.calm_decode (signed : Bool) (w : IntWidth) : Calm (decode signed w) := by
  refine Calm.after_get fun left => calm_byte.bind fun tag => ?_
  split_ifs
  · exact .pure _
  · cases tagWidth? tag with
    | none => exact .refuse _
    | some found =>
      dsimp only
      split_ifs
      · exact (calm_take _).bind fun bytes => .pure _
      · exact .refuse _

theorem Varint.calm_decodeLength : Calm decodeLength := calm_decode false .w64

/-- The bytes begin with the length of a text for which no memory has room. -/
def Oversized (bytes : List UInt8) : Prop :=
  ∃ n rest, Varint.decodeLength bytes = .ok (n, rest) ∧ memoryLimit ≤ n

theorem readBlock_eq_panic_iff {bytes : List UInt8} :
    readBlock bytes = .error .panic ↔ Oversized bytes := by
  unfold readBlock Oversized
  rw [Varint.calm_decodeLength.bind_eq_panic_iff]
  simp only [allocate_bind_eq_panic_iff, Nat.mul_one, calm_take _ _, or_false]

theorem readText_eq_panic_iff {bytes : List UInt8} :
    readText bytes = .error .panic ↔ Oversized bytes := by
  unfold readText
  rw [bind_eq_panic_iff, readBlock_eq_panic_iff, or_iff_left]
  rintro ⟨block, rest, -, h⟩
  cases hd : Text.Utf8.decode block with
  | ok s => rw [hd] at h; exact Calm.pure s rest h
  | error f => rw [hd] at h; exact Calm.refuse _ rest h

theorem Reader.Calm.readTag {tag : Reader ℕ} (h : Calm tag) (name : String) :
    Calm (readTag name tag) := by
  refine h.bind fun n => ?_
  match n with
  | 0 => exact .pure false
  | 1 => exact .pure true
  | n + 2 => exact .refuse _

theorem calm_readChar : Calm readChar := by
  refine calm_byte.bind fun first => ?_
  cases Text.Utf8.width first with
  | zero => exact .refuse _
  | succ n =>
    refine (calm_take n).bind fun more => ?_
    cases Text.Utf8.decodeChar (first :: more) with
    | ok p => exact .pure p.1
    | error e => exact .refuse _

/-! ## Values -/

namespace FieldType

/-- Reading a value of the type comes to a length for which no memory has room. -/
def Overruns : FieldType → List UInt8 → Prop
  | string, bytes => Oversized bytes
  | path, bytes => Oversized bytes
  | option t, bytes => ∃ rest,
      readTag (option t).name (UInt8.toNat <$> byte) bytes = .ok (true, rest) ∧ t.Overruns rest
  | list t size, bytes => ∃ n rest, Varint.decodeLength bytes = .ok (n, rest) ∧
      (memoryLimit ≤ n * size ∨ RunsInto t.read t.Overruns n rest)
  | pair a b, bytes => a.Overruns bytes ∨ ∃ v rest, a.read bytes = .ok (v, rest) ∧ b.Overruns rest
  | array t n, bytes => RunsInto t.read t.Overruns n bytes
  | map t, bytes => ∃ n rest, Varint.decodeLength bytes = .ok (n, rest) ∧
      RunsInto ((pair string t).read) (fun bytes =>
        Oversized bytes ∨ ∃ k rest, readText bytes = .ok (k, rest) ∧ t.Overruns rest) n rest
  | result t e, bytes => ∃ failed rest,
      readTag (result t e).name (Varint.decode false .w32) bytes = .ok (failed, rest) ∧
        if failed then e.Overruns rest else t.Overruns rest
  | unit, _ | bool, _ | int _ _, _ | float32, _ | float64, _ | char, _ => False

variable {t a b : FieldType} {bytes : List UInt8}

/-- Where a panic of the type comes from is known. -/
def Traced (t : FieldType) : Prop := ∀ bytes, t.read bytes = .error .panic ↔ t.Overruns bytes

theorem calm_bool : Calm bool.read := by
  refine calm_byte.bind fun b => ?_
  split_ifs
  · exact .pure _
  · exact .pure _
  · exact .refuse _

theorem calm_int (signed : Bool) (w : IntWidth) : Calm (int signed w).read := by
  cases w with
  | w8 => exact calm_byte.bind fun b => .pure _
  | _ => exact (Varint.calm_decode signed _).bind fun n => .pure _

theorem Traced.option (ht : t.Traced) : t.option.Traced := by
  intro bytes
  have htag : Calm (readTag t.option.name (UInt8.toNat <$> byte)) :=
    Calm.readTag (calm_byte.bind fun b => .pure _) _
  refine htag.bind_eq_panic_iff.trans ?_
  constructor
  · rintro ⟨present, rest, htag, h⟩
    cases present with
    | false => cases h
    | true => exact ⟨rest, htag, (ht rest).mp (bind_pure_eq_panic_iff.mp h)⟩
  · rintro ⟨rest, htag, h⟩
    exact ⟨true, rest, htag, bind_pure_eq_panic_iff.mpr ((ht rest).mpr h)⟩

/-- Single bytes are asked for as one block, which is no reason to panic. -/
theorem block_eq_panic_iff {α : Type} {r : Reader α} {n : ℕ} (ht : t.Traced)
    (hr : ∀ bytes, r bytes = .error .panic ↔ RunsInto t.read t.Overruns n bytes) :
    (if t.isByte then require n >>= fun _ => r else r) bytes = .error .panic ↔
      RunsInto t.read t.Overruns n bytes := by
  split_ifs with hb
  · have hnone : ∀ bytes, ¬ t.Overruns bytes := by
      unfold isByte at hb
      split at hb
      · exact fun _ => id
      · cases hb
    refine iff_of_false ((calm_require n).bind (fun _ rest => ?_) bytes) (not_runsInto hnone)
    rw [ne_eq, hr]
    exact not_runsInto hnone
  · exact hr bytes

theorem Traced.list (ht : t.Traced) (size : ℕ) : (t.list size).Traced := by
  intro bytes
  refine Varint.calm_decodeLength.bind_eq_panic_iff.trans ?_
  refine exists_congr fun n => exists_congr fun rest => and_congr_right fun _ => ?_
  refine allocate_bind_eq_panic_iff.trans (or_congr_right ?_)
  exact block_eq_panic_iff ht fun _ => many_eq_panic_iff ht

theorem Traced.array (ht : t.Traced) (n : ℕ) : (t.array n).Traced :=
  fun _ => block_eq_panic_iff ht fun _ => exactly_eq_panic_iff ht

theorem Traced.pair (ha : a.Traced) (hb : b.Traced) : (a.pair b).Traced := by
  intro bytes
  refine bind_eq_panic_iff.trans (or_congr (ha bytes) ?_)
  refine exists_congr fun v => exists_congr fun rest => and_congr_right fun _ => ?_
  exact bind_pure_eq_panic_iff.trans (hb rest)

theorem traced_string : string.Traced := fun _ => readText_eq_panic_iff

theorem traced_path : path.Traced := fun _ => bind_pure_eq_panic_iff.trans readText_eq_panic_iff

theorem Traced.map (ht : t.Traced) : t.map.Traced := by
  intro bytes
  refine Varint.calm_decodeLength.bind_eq_panic_iff.trans ?_
  refine exists_congr fun n => exists_congr fun rest => and_congr_right fun _ => ?_
  -- An entry is a pair of a text and a value.
  exact bind_pure_eq_panic_iff.trans (many_eq_panic_iff (traced_string.pair ht))

theorem Traced.result (ha : a.Traced) (hb : b.Traced) : (a.result b).Traced := by
  intro bytes
  refine (Calm.readTag (Varint.calm_decode false .w32) _).bind_eq_panic_iff.trans ?_
  refine exists_congr fun failed => exists_congr fun rest => and_congr_right fun _ => ?_
  cases failed with
  | true => exact bind_pure_eq_panic_iff.trans (hb rest)
  | false => exact bind_pure_eq_panic_iff.trans (ha rest)

/-- Reading a value panics exactly if it comes to a length for which no memory has room. -/
theorem read_eq_panic_iff (t : FieldType) (bytes : List UInt8) :
    t.read bytes = .error .panic ↔ t.Overruns bytes := by
  induction t generalizing bytes with
  | unit => exact iff_of_false (Calm.pure () bytes) id
  | bool => exact iff_of_false (calm_bool bytes) id
  | int signed w => exact iff_of_false (calm_int signed w bytes) id
  | float32 => exact iff_of_false ((calm_take 4).bind (fun _ => .pure _) bytes) id
  | float64 => exact iff_of_false ((calm_take 8).bind (fun _ => .pure _) bytes) id
  | char => exact iff_of_false (calm_readChar bytes) id
  | string => exact traced_string bytes
  | path => exact traced_path bytes
  | option t ht => exact Traced.option ht bytes
  | list t size ht => exact Traced.list ht size bytes
  | pair a b ha hb => exact Traced.pair ha hb bytes
  | array t n ht => exact Traced.array ht n bytes
  | map t ht => exact Traced.map ht bytes
  | result a b ha hb => exact Traced.result ha hb bytes

end FieldType

end KeyedRecords.Codec

import KeyedRecords.Proofs.Codec.Value

/-!
# Which values can be written

A path is any sequence of bytes, but only the UTF-8 of a text is written. Nothing else keeps a
value from being written.

Result:
* `writable`: a value can be written exactly if every path in it is UTF-8.
-/

namespace KeyedRecords.Codec

/-- Every path in the value is the UTF-8 of a text. -/
def FieldType.PathsAreText : (t : FieldType) → t.Value → Prop
  | unit, _ => True
  | bool, _ => True
  | int _ _, _ => True
  | float32, _ => True
  | float64, _ => True
  | char, _ => True
  | string, _ => True
  | path, bytes => ∃ s, Text.Utf8.encode s = bytes
  | option _, none => True
  | option t, some v => t.PathsAreText v
  | list t _, (vs : List t.Value) => ∀ v ∈ vs, t.PathsAreText v
  | pair a b, v => a.PathsAreText v.1 ∧ b.PathsAreText v.2
  | array t _, vs => ∀ v ∈ vs.1, t.PathsAreText v
  | map t, m => ∀ e ∈ SortedMap.entries m, t.PathsAreText e.2
  | result t _, .ok v => t.PathsAreText v
  | result _ e, .error v => e.PathsAreText v

/-! ## Steps that succeed -/

section Steps

variable {α β : Type} {x : Except EncodeFault α}

/-- A last step that cannot fail does not matter. -/
theorem exists_bind_pure_iff {f : α → β} :
    (∃ b, (x >>= fun a => pure (f a)) = .ok b) ↔ ∃ a, x = .ok a := by
  simp only [bind_eq_ok_iff, pure_eq_ok_iff]
  constructor
  · rintro ⟨-, a, ha, -⟩
    exact ⟨a, ha⟩
  · rintro ⟨a, ha⟩
    exact ⟨f a, a, ha, rfl⟩

/-- Values can be written one after the other if each of them can. -/
theorem exists_encodeAll_iff {encode : α → Except EncodeFault (List UInt8)} {as : List α} :
    (∃ bytes, encodeAll encode as = .ok bytes) ↔ ∀ a ∈ as, ∃ bytes, encode a = .ok bytes := by
  induction as with
  | nil => exact iff_of_true ⟨[], rfl⟩ (by simp)
  | cons a as ih =>
    rw [List.forall_mem_cons, ← ih]
    simp only [encodeAll_cons]
    constructor
    · rintro ⟨_, first, second, -, ha, has⟩
      exact ⟨⟨first, ha⟩, second, has⟩
    · rintro ⟨⟨first, ha⟩, second, has⟩
      exact ⟨first ++ second, first, second, rfl, ha, has⟩

end Steps

namespace FieldType

/-! ## Values -/

/-- The values of the type that can be written are those with UTF-8 in their paths. -/
def Writable (t : FieldType) : Prop :=
  ∀ v : t.Value, (∃ bytes, t.encode v = .ok bytes) ↔ t.PathsAreText v

theorem writable_path : path.Writable := by
  intro v
  change List UInt8 at v
  constructor
  · rintro ⟨bytes, h⟩
    simp only [encode] at h
    cases hd : Text.Utf8.decode v with
    | ok s => exact ⟨s, Text.Utf8.encode_of_decode hd⟩
    | error f => rw [hd] at h; cases h
  · rintro ⟨s, rfl⟩
    exact ⟨encodeText s, by simp only [encode, Text.Utf8.decode_encode]⟩

variable {t a b : FieldType}

theorem Writable.option (ht : t.Writable) : t.option.Writable := by
  intro v
  change Option t.Value at v
  cases v with
  | none => exact iff_of_true ⟨[0], rfl⟩ trivial
  | some v => exact exists_bind_pure_iff.trans (ht v)

theorem Writable.all (ht : t.Writable) (vs : List t.Value) :
    (∃ bytes, encodeAll t.encode vs = .ok bytes) ↔ ∀ v ∈ vs, t.PathsAreText v :=
  exists_encodeAll_iff.trans (forall₂_congr fun v _ => ht v)

theorem Writable.pair (ha : a.Writable) (hb : b.Writable) : (a.pair b).Writable := by
  rintro ⟨v, w⟩
  refine Iff.trans ?_ (and_congr (ha v) (hb w))
  constructor
  · rintro ⟨bytes, h⟩
    obtain ⟨first, hv, h⟩ := bind_eq_ok_iff.mp h
    obtain ⟨second, hw, -⟩ := bind_eq_ok_iff.mp h
    exact ⟨⟨first, hv⟩, second, hw⟩
  · rintro ⟨⟨first, hv⟩, second, hw⟩
    exact ⟨first ++ second, bind_eq_ok_iff.mpr ⟨first, hv, bind_eq_ok_iff.mpr ⟨second, hw, rfl⟩⟩⟩

theorem Writable.map (ht : t.Writable) : t.map.Writable := by
  intro m
  refine exists_bind_pure_iff.trans (exists_encodeAll_iff.trans ?_)
  exact forall₂_congr fun e _ => exists_bind_pure_iff.trans (ht e.2)

theorem Writable.result (ha : a.Writable) (hb : b.Writable) : (a.result b).Writable := by
  intro v
  change Except b.Value a.Value at v
  cases v with
  | ok v => exact exists_bind_pure_iff.trans (ha v)
  | error v => exact exists_bind_pure_iff.trans (hb v)

/-- Every width has bytes for each of its numbers. -/
theorem writable_int (signed : Bool) (w : IntWidth) : (int signed w).Writable := by
  intro v
  -- Single bytes are written as they are, wider numbers with a length of their own.
  by_cases hw : w = .w8
  · subst hw
    exact iff_of_true ⟨_, rfl⟩ trivial
  · exact iff_of_true ⟨_, encode_int_wide hw v⟩ trivial

/-- A value can be written exactly if every path in it is UTF-8. -/
theorem writable (t : FieldType) : t.Writable := by
  induction t with
  | int signed w => exact writable_int signed w
  | path => exact writable_path
  | option t ht => exact ht.option
  | list t _ ht => exact fun vs => exists_bind_pure_iff.trans (ht.all vs)
  | pair a b ha hb => exact ha.pair hb
  | array t n ht => exact fun vs => ht.all vs.1
  | map t ht => exact ht.map
  | result a b ha hb => exact ha.result hb
  | _ => exact fun v => iff_of_true ⟨_, rfl⟩ trivial

instance (t : FieldType) : DecidablePred t.PathsAreText := fun v =>
  decidable_of_iff ((t.encode v).toOption.isSome) <| by
    rw [← writable t v, Option.isSome_iff_exists]
    simp only [toOption_eq_some_iff]

/-- The only reason not to write a value is a path that is not UTF-8. -/
theorem encode_eq_error {v : t.Value} (h : ¬ t.PathsAreText v) :
    t.encode v = .error .invalidPathCharacters := by
  cases he : t.encode v with
  | ok bytes => exact absurd ((writable t v).mp ⟨bytes, he⟩) h
  | error fault => cases fault; rfl

end FieldType

end KeyedRecords.Codec

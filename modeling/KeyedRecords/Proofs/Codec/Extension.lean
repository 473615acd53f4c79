import KeyedRecords.Proofs.Codec.Reader

/-!
# Readers see no further than they take

What a reader makes of some bytes it makes of any bytes that continue them, and the additional
ones are left over. Hence nothing can be cut off unnoticed from the bytes of a value.

* `Extends r r'`: unless `r` refuses, `r'` does the same on more bytes. There is a rule for every
  way to put readers together.
* `Varint.extends_decode`, `extends_readText`, `FieldType.extends_read`: the readers of numbers, of
  texts and of the values of any type extend to more bytes.
* `Reads.refuses`: a proper part of the bytes of a value is refused.
-/

namespace KeyedRecords.Codec

namespace Reader

variable {α β : Type} {r r' : Reader α}

/-! ## More bytes -/

/-- Where `r` gives a value, `r'` gives the same if more bytes follow, and leaves them over.
    Where `r` panics, so does `r'`. The two may differ in how they refuse. -/
structure Extends (r r' : Reader α) : Prop where
  value : ∀ bytes a rest more, r bytes = .ok (a, rest) →
    r' (bytes ++ more) = .ok (a, rest ++ more)
  panic : ∀ bytes more, r bytes = .error .panic → r' (bytes ++ more) = .error .panic

theorem Extends.pure (a : α) : Extends (pure a) (pure a) where
  value := by rintro bytes _ rest more ⟨⟩; rfl
  panic := by rintro bytes more ⟨⟩

/-- A refusal extends to anything. -/
theorem Extends.refuse (fault : Fault) : Extends (refuse fault) r' where
  value := by rintro bytes a rest more ⟨⟩
  panic := by rintro bytes more ⟨⟩

theorem Extends.bind {f f' : α → Reader β} (hr : Extends r r') (hf : ∀ a, Extends (f a) (f' a)) :
    Extends (r >>= f) (r' >>= f') where
  value bytes b rest more h := by
    rw [bind_apply] at h ⊢
    cases hra : r bytes with
    | error e => rw [hra] at h; cases h
    | ok p =>
      obtain ⟨a, rest'⟩ := p
      rw [hra] at h
      rw [hr.value bytes a rest' more hra]
      exact (hf a).value rest' b rest more h
  panic bytes more h := by
    rw [bind_apply] at h ⊢
    cases hra : r bytes with
    | error stop =>
      rw [hra] at h
      cases h
      rw [hr.panic bytes more hra]
      rfl
    | ok p =>
      obtain ⟨a, rest'⟩ := p
      rw [hra] at h
      rw [hr.value bytes a rest' more hra]
      exact (hf a).panic rest' more h

theorem Extends.bind_pure (hr : Extends r r') (f : α → β) :
    Extends (r >>= fun a => Pure.pure (f a)) (r' >>= fun a => Pure.pure (f a)) :=
  hr.bind fun a => Extends.pure (f a)

theorem extends_take (n : ℕ) : Extends (take n) (take n) where
  value bytes a rest more h := by
    unfold take at h ⊢
    split_ifs at h with hn
    cases h
    rw [if_pos (by rw [List.length_append]; omega), List.take_append_of_le_length hn,
      List.drop_append_of_le_length hn]
  panic bytes more h := by
    unfold take at h
    split_ifs at h
    cases h

theorem extends_byte : Extends byte byte where
  value bytes a rest more h := by
    cases bytes with
    | nil => cases h
    | cons b bs => cases h; rfl
  panic bytes more h := by cases bytes <;> cases h

theorem extends_require (n : ℕ) : Extends (require n) (require n) where
  value bytes a rest more h := by
    unfold require at h ⊢
    split_ifs at h with hn
    cases h
    rw [if_pos (by rw [List.length_append]; omega)]
  panic bytes more h := by
    unfold require at h
    split_ifs at h
    cases h

/-- Whether there is room has nothing to do with what follows. -/
theorem extends_allocate (n size : ℕ) : Extends (allocate n size) (allocate n size) := by
  unfold allocate
  split_ifs
  · exact .pure ()
  · exact ⟨by rintro bytes a rest more ⟨⟩, fun _ _ _ => rfl⟩

/-- A reader that looks at all that is left may use it to refuse only. -/
theorem Extends.after_get {f f' : List UInt8 → Reader α}
    (h : ∀ left left', Extends (f left) (f' left')) : Extends (get >>= f) (get >>= f') where
  value bytes a rest more hok := (h bytes (bytes ++ more)).value bytes a rest more hok
  panic bytes more hpanic := (h bytes (bytes ++ more)).panic bytes more hpanic

/-- Single bytes are asked for as one block. -/
theorem Extends.block (hr : Extends r r') (single : Bool) (n : ℕ) :
    Extends (if single then require n >>= fun _ => r else r)
      (if single then require n >>= fun _ => r' else r') := by
  cases single with
  | false => exact hr
  | true => exact (extends_require n).bind fun _ => hr

theorem Extends.many (hr : Extends r r') : ∀ n, Extends (many r n) (many r' n)
  | 0 => Extends.pure []
  | n + 1 => hr.bind fun a => (Extends.many hr n).bind_pure (a :: ·)

theorem Extends.exactly (hr : Extends r r') : ∀ n, Extends (exactly r n) (exactly r' n)
  | 0 => Extends.pure _
  | n + 1 => hr.bind fun _ => (Extends.exactly hr n).bind_pure _

/-! ## Fewer bytes -/

/-- The same bytes do not begin with two values. -/
theorem Reads.cancel {bytes bytes' more more' : List UInt8} {a a' : α} (h : Reads r bytes a)
    (h' : Reads r bytes' a') (he : bytes ++ more = bytes' ++ more') : a = a' ∧ more = more' := by
  have hread := h more
  rw [he, h' more'] at hread
  obtain ⟨rfl, rfl⟩ := Prod.mk.inj (Except.ok.inj hread)
  exact ⟨rfl, rfl⟩

/-- A proper part of the bytes of a value is refused: what were read from it, the whole of the
    bytes would leave over, and a panic would be one of the whole as well. -/
theorem Reads.refuses {bytes part : List UInt8} {a : α} (h : Reads r bytes a) (hr : Extends r r)
    (hpart : part <+: bytes) (hne : part ≠ bytes) : ∃ fault, r part = .error (.fail fault) := by
  obtain ⟨cut, rfl⟩ := hpart
  -- The whole is read in two ways: on from the part, and by itself.
  have hall := h []
  rw [List.append_nil] at hall
  cases hread : r part with
  | error stop =>
    cases stop with
    | fail fault => exact ⟨fault, rfl⟩
    | panic => cases hall.symm.trans (hr.panic part cut hread)
  | ok p =>
    obtain ⟨b, rest⟩ := p
    rw [hr.value part b rest cut hread] at hall
    have hnil : rest ++ cut = [] := congrArg Prod.snd (Except.ok.inj hall)
    refine absurd ?_ hne
    rw [(List.append_eq_nil_iff.mp hnil).2, List.append_nil]

end Reader

open Reader

/-! ## Numbers, texts and tags -/

namespace Varint

theorem extends_decode (signed : Bool) (w : IntWidth) :
    Extends (decode signed w) (decode signed w) := by
  refine Extends.after_get fun left left' => extends_byte.bind fun tag => ?_
  split_ifs
  · exact Extends.pure _
  · cases tagWidth? tag with
    | none => exact Extends.refuse _
    | some found =>
      dsimp only
      split_ifs
      · exact (extends_take _).bind_pure _
      · exact Extends.refuse _

theorem extends_decodeLength : Extends decodeLength decodeLength := extends_decode false .w64

end Varint

theorem extends_readBlock : Extends readBlock readBlock :=
  Varint.extends_decodeLength.bind fun n => (extends_allocate n 1).bind fun _ => extends_take n

theorem extends_readText : Extends readText readText := by
  refine extends_readBlock.bind fun bytes => ?_
  cases Text.Utf8.decode bytes with
  | ok s => exact Extends.pure s
  | error f => exact Extends.refuse _

theorem extends_readTag {tag : Reader ℕ} (h : Extends tag tag) (name : String) :
    Extends (readTag name tag) (readTag name tag) := by
  refine h.bind fun n => ?_
  match n with
  | 0 => exact Extends.pure false
  | 1 => exact Extends.pure true
  | n + 2 => exact Extends.refuse _

theorem extends_readChar : Extends readChar readChar := by
  refine extends_byte.bind fun first => ?_
  cases Text.Utf8.width first with
  | zero => exact Extends.refuse _
  | succ n =>
    refine (extends_take n).bind fun more => ?_
    cases Text.Utf8.decodeChar (first :: more) with
    | ok p => exact Extends.pure p.1
    | error e => exact Extends.refuse _

/-! ## Values -/

namespace FieldType

theorem extends_bool : Extends bool.read bool.read := by
  refine extends_byte.bind fun b => ?_
  split_ifs
  · exact Extends.pure _
  · exact Extends.pure _
  · exact Extends.refuse _

theorem extends_int (signed : Bool) (w : IntWidth) :
    Extends (int signed w).read (int signed w).read := by
  cases w with
  | w8 => exact extends_byte.bind_pure _
  | _ => exact (Varint.extends_decode signed _).bind_pure _

/-- The reader of every type does the same on more bytes. -/
theorem extends_read (t : FieldType) : Extends t.read t.read := by
  induction t with
  | unit => exact Extends.pure ()
  | bool => exact extends_bool
  | int signed w => exact extends_int signed w
  | float32 => exact (extends_take 4).bind_pure _
  | float64 => exact (extends_take 8).bind_pure _
  | char => exact extends_readChar
  | string => exact extends_readText
  | path => exact extends_readText.bind_pure _
  | option t ht =>
    refine (extends_readTag (extends_byte.bind_pure _) _).bind fun present => ?_
    cases present with
    | false => exact Extends.pure _
    | true => exact ht.bind_pure _
  | list t size ht =>
    exact Varint.extends_decodeLength.bind fun n =>
      (extends_allocate n size).bind fun _ => (ht.many n).block t.isByte n
  | pair a b ha hb => exact ha.bind fun first => hb.bind_pure _
  | array t n ht => exact (ht.exactly n).block t.isByte n
  | map t ht =>
    refine Varint.extends_decodeLength.bind fun n => (Extends.many ?_ n).bind_pure _
    exact extends_readText.bind fun k => ht.bind_pure _
  | result a b ha hb =>
    refine (extends_readTag (Varint.extends_decode false .w32) _).bind fun failed => ?_
    cases failed with
    | false => exact ha.bind_pure _
    | true => exact hb.bind_pure _

end FieldType

end KeyedRecords.Codec

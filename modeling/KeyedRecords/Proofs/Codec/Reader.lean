import Mathlib.Tactic
import KeyedRecords.Codec.Value

/-!
# What readers take

Two ways to say what a reader does with the front of a list of bytes, each with a
rule for every way to put readers together.

* `Reads r bytes a`: `r` reads exactly `bytes` as `a`, whatever follows.
* `Yields r P`: what `r` takes from the front and what it makes of that are always
  related by `P`.

A run of values is cut into the bytes of each by `Pieces`. Bytes that a value is written as may
be `NoLonger` than those it was read from: the same, or fewer.
-/

namespace KeyedRecords.Codec

/-! ## Runs of values -/

section Pieces

variable {α β : Type} {P Q : List UInt8 → α → Prop}

/-- The bytes are those of the values, one after the other, where `P` relates the bytes
    of one value to the value. -/
def Pieces (P : List UInt8 → α → Prop) (bytes : List UInt8) (as : List α) : Prop :=
  ∃ parts : List (List UInt8), bytes = parts.flatten ∧ List.Forall₂ P parts as

theorem Pieces.nil : Pieces P [] [] := ⟨[], rfl, .nil⟩

theorem Pieces.cons {first second : List UInt8} {a : α} {as : List α} (h : P first a)
    (hs : Pieces P second as) : Pieces P (first ++ second) (a :: as) := by
  obtain ⟨parts, rfl, hp⟩ := hs
  exact ⟨first :: parts, rfl, .cons h hp⟩

theorem pieces_nil_iff {bytes : List UInt8} : Pieces P bytes [] ↔ bytes = [] := by
  constructor
  · rintro ⟨parts, rfl, hp⟩
    cases hp
    rfl
  · rintro rfl
    exact .nil

theorem pieces_cons_iff {bytes : List UInt8} {a : α} {as : List α} : Pieces P bytes (a :: as) ↔
    ∃ first second, bytes = first ++ second ∧ P first a ∧ Pieces P second as := by
  constructor
  · rintro ⟨parts, rfl, hp⟩
    cases hp with
    | cons h hs => exact ⟨_, _, rfl, h, _, rfl, hs⟩
  · rintro ⟨first, second, rfl, h, hs⟩
    exact hs.cons h

/-- Every value has bytes of its own among the bytes of all. -/
theorem Pieces.of_mem {bytes : List UInt8} {as : List α} (h : Pieces P bytes as) {a : α}
    (ha : a ∈ as) : ∃ part, P part a := by
  induction as generalizing bytes with
  | nil => cases ha
  | cons b bs ih =>
    obtain ⟨first, second, -, hb, hbs⟩ := pieces_cons_iff.mp h
    rcases List.mem_cons.mp ha with rfl | ha
    · exact ⟨first, hb⟩
    · exact ih hbs ha

theorem Pieces.mono_mem {bytes : List UInt8} {as : List α} (h : Pieces P bytes as)
    (hPQ : ∀ a ∈ as, ∀ part, P part a → Q part a) : Pieces Q bytes as := by
  induction as generalizing bytes with
  | nil => exact pieces_nil_iff.mpr (pieces_nil_iff.mp h)
  | cons b bs ih =>
    obtain ⟨first, second, rfl, hb, hbs⟩ := pieces_cons_iff.mp h
    exact (ih hbs fun a ha => hPQ a (List.mem_cons_of_mem b ha)).cons
      (hPQ b List.mem_cons_self first hb)

end Pieces

/-! ## Bytes and shorter ones -/

section NoLonger

variable {α : Type} {out used out' used' : List UInt8}

/-- The bytes `out` are the bytes `used` themselves, or they are fewer. -/
def NoLonger (out used : List UInt8) : Prop := out = used ∨ out.length < used.length

theorem NoLonger.refl (bytes : List UInt8) : NoLonger bytes bytes := .inl rfl

theorem NoLonger.length_le (h : NoLonger out used) : out.length ≤ used.length := by
  rcases h with rfl | h
  · exact le_rfl
  · exact h.le

theorem NoLonger.eq_of_length (h : NoLonger out used) (hlen : out.length = used.length) :
    out = used := by
  rcases h with h | h
  · exact h
  · omega

/-- One part that is shorter makes the whole shorter. -/
theorem NoLonger.append (h : NoLonger out used) (h' : NoLonger out' used') :
    NoLonger (out ++ out') (used ++ used') := by
  have hle := h.length_le
  have hle' := h'.length_le
  rcases h with rfl | h
  · rcases h' with rfl | h'
    · exact .inl rfl
    · right
      rw [List.length_append, List.length_append]
      omega
  · right
    rw [List.length_append, List.length_append]
    omega

theorem Pieces.noLonger {f : α → List UInt8} {bytes : List UInt8} {as : List α}
    (h : Pieces (fun part a => NoLonger (f a) part) bytes as) : NoLonger (as.flatMap f) bytes := by
  induction as generalizing bytes with
  | nil => rw [pieces_nil_iff.mp h]; exact .inl rfl
  | cons a as ih =>
    obtain ⟨first, second, rfl, ha, has⟩ := pieces_cons_iff.mp h
    rw [List.flatMap_cons]
    exact ha.append (ih has)

end NoLonger

namespace Reader

variable {α β : Type}

theorem bind_apply (r : Reader α) (f : α → Reader β) (bytes : List UInt8) :
    (r >>= f) bytes = (r bytes).bind fun p => f p.1 p.2 := rfl

/-! ## Reading back -/

/-- `r` reads exactly `bytes` as `a`, whatever follows. -/
def Reads (r : Reader α) (bytes : List UInt8) (a : α) : Prop :=
  ∀ rest, r (bytes ++ rest) = .ok (a, rest)

theorem Reads.pure (a : α) : Reads (pure a) [] a := fun _ => rfl

theorem Reads.bind {r : Reader α} {f : α → Reader β} {first second : List UInt8} {a : α} {b : β}
    (hr : Reads r first a) (hf : Reads (f a) second b) : Reads (r >>= f) (first ++ second) b := by
  intro rest
  rw [bind_apply, List.append_assoc, hr]
  exact hf rest

/-- A last step may take nothing. -/
theorem Reads.bind_nil {r : Reader α} {f : α → Reader β} {bytes : List UInt8} {a : α} {b : β}
    (hr : Reads r bytes a) (hf : Reads (f a) [] b) : Reads (r >>= f) bytes b := by
  have h := hr.bind hf
  rwa [List.append_nil] at h

theorem Reads.bind_pure {r : Reader α} {f : α → β} {bytes : List UInt8} {a : α}
    (hr : Reads r bytes a) : Reads (r >>= fun a => Pure.pure (f a)) bytes (f a) :=
  hr.bind_nil (Reads.pure (f a))

theorem reads_take (bytes : List UInt8) : Reads (take bytes.length) bytes bytes := by
  intro rest
  simp [take]

theorem reads_byte (b : UInt8) : Reads byte [b] b := fun _ => rfl

/-- A reader may look at all that is left. -/
theorem Reads.after_get {f : List UInt8 → Reader α} {bytes : List UInt8} {a : α}
    (h : ∀ left, Reads (f left) bytes a) : Reads (get >>= f) bytes a :=
  fun rest => h (bytes ++ rest) rest

/-- A reader may first make sure that there are as many bytes as it will take. -/
theorem Reads.after_require {n : ℕ} {r : Reader α} {bytes : List UInt8} {a : α}
    (hn : n ≤ bytes.length) (hr : Reads r bytes a) :
    Reads (require n >>= fun _ => r) bytes a := by
  intro rest
  rw [bind_apply]
  unfold require
  rw [if_pos (by rw [List.length_append]; omega)]
  exact hr rest

/-- A reader may first make room for what it reads. -/
theorem Reads.after_allocate {n size : ℕ} {r : Reader α} {bytes : List UInt8} {a : α}
    (hroom : n * size < memoryLimit) (hr : Reads r bytes a) :
    Reads (allocate n size >>= fun _ => r) bytes a := by
  rwa [allocate, if_pos hroom]

theorem Reads.many {r : Reader α} : ∀ {as : List α} {bytes : List UInt8},
    Pieces (Reads r) bytes as → Reads (many r as.length) bytes as
  | [], _, h => by
    rw [pieces_nil_iff.mp h]
    exact Reads.pure []
  | a :: as, _, h => by
    obtain ⟨first, second, rfl, ha, has⟩ := pieces_cons_iff.mp h
    exact ha.bind (Reads.many has).bind_pure

theorem Reads.exactly {r : Reader α} : ∀ {as : List α} {bytes : List UInt8} {n : ℕ}
    (hn : as.length = n), Pieces (Reads r) bytes as → Reads (exactly r n) bytes ⟨as, hn⟩
  | [], _, _, rfl, h => by
    rw [pieces_nil_iff.mp h]
    exact Reads.pure _
  | a :: as, _, _, rfl, h => by
    obtain ⟨first, second, rfl, ha, has⟩ := pieces_cons_iff.mp h
    exact ha.bind (Reads.exactly rfl has).bind_pure

/-! ## What was read -/

/-- What `r` takes from the front and what it makes of that are related by `P`. -/
def Yields (r : Reader α) (P : List UInt8 → α → Prop) : Prop :=
  ∀ bytes a rest, r bytes = .ok (a, rest) → ∃ used, bytes = used ++ rest ∧ P used a

variable {P : List UInt8 → α → Prop} {Q : List UInt8 → β → Prop}

theorem Yields.mono {P' : List UInt8 → α → Prop} {r : Reader α} (hr : Yields r P)
    (h : ∀ used a, P used a → P' used a) : Yields r P' := by
  intro bytes a rest hok
  obtain ⟨used, he, hp⟩ := hr bytes a rest hok
  exact ⟨used, he, h used a hp⟩

theorem Yields.pure {a : α} (h : P [] a) : Yields (pure a) P := by
  rintro bytes _ rest ⟨⟩
  exact ⟨[], rfl, h⟩

theorem Yields.refuse (fault : Fault) : Yields (refuse fault) P := by
  rintro bytes a rest ⟨⟩

theorem Yields.bind {r : Reader α} {f : α → Reader β} (hr : Yields r P)
    (hf : ∀ first a, P first a → Yields (f a) fun second b => Q (first ++ second) b) :
    Yields (r >>= f) Q := by
  intro bytes b rest h
  rw [bind_apply] at h
  cases hra : r bytes with
  | error e => rw [hra] at h; cases h
  | ok p =>
    obtain ⟨a, rest'⟩ := p
    rw [hra] at h
    obtain ⟨first, rfl, hp⟩ := hr bytes a rest' hra
    obtain ⟨second, rfl, hq⟩ := hf first a hp rest' b rest h
    exact ⟨first ++ second, (List.append_assoc _ _ _).symm, hq⟩

theorem Yields.bind_pure {r : Reader α} {f : α → β} (hr : Yields r P)
    (h : ∀ used a, P used a → Q used (f a)) : Yields (r >>= fun a => Pure.pure (f a)) Q := by
  refine hr.bind fun used a hp => Yields.pure ?_
  rw [List.append_nil]
  exact h used a hp

theorem yields_take (n : ℕ) : Yields (take n) fun used a => used = a ∧ a.length = n := by
  intro bytes a rest h
  unfold take at h
  split_ifs at h with hn
  cases h
  exact ⟨bytes.take n, (List.take_append_drop n bytes).symm, rfl, by simpa using hn⟩

theorem yields_byte : Yields byte fun used a => used = [a] := by
  intro bytes a rest h
  cases bytes with
  | nil => cases h
  | cons b bs => cases h; exact ⟨[a], rfl, rfl⟩

theorem Yields.after_get {f : List UInt8 → Reader α} (h : ∀ left, Yields (f left) P) :
    Yields (get >>= f) P :=
  fun bytes => h bytes bytes

theorem Yields.after_require {n : ℕ} {r : Reader α} (hr : Yields r P) :
    Yields (require n >>= fun _ => r) P := by
  intro bytes a rest h
  rw [bind_apply] at h
  unfold require at h
  split_ifs at h
  · exact hr bytes a rest h
  · cases h

/-- What is read after room was made for it did not need more. -/
theorem Yields.after_allocate {n size : ℕ} {r : Reader α}
    (hr : n * size < memoryLimit → Yields r P) :
    Yields (allocate n size >>= fun _ => r) P := by
  intro bytes a rest h
  unfold allocate at h
  split_ifs at h with hroom
  · exact hr hroom bytes a rest h
  · cases h

theorem Yields.many {r : Reader α} (hr : Yields r P) :
    ∀ n, Yields (many r n) fun used as => as.length = n ∧ Pieces P used as
  | 0 => Yields.pure ⟨rfl, .nil⟩
  | n + 1 => by
    refine hr.bind fun first a ha => (Yields.many hr n).bind_pure fun second as has => ?_
    exact ⟨by rw [List.length_cons, has.1], has.2.cons ha⟩

theorem Yields.exactly {r : Reader α} (hr : Yields r P) :
    ∀ n, Yields (exactly r n) fun used as => Pieces P used as.1
  | 0 => Yields.pure .nil
  | n + 1 => by
    refine hr.bind fun first a ha => (Yields.exactly hr n).bind_pure fun second as has => ?_
    exact has.cons ha

end Reader

end KeyedRecords.Codec

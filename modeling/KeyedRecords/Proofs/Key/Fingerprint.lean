import KeyedRecords.Key.Schema
import KeyedRecords.Proofs.Record.Container

/-!
# What a fingerprint tells apart

The bytes that are hashed are the name of the kind and the literals one after the other, with
nothing between them. Every literal begins with its tag, and a text with its length, so the bytes
can be taken apart in one way only, whatever stands in the texts.

Results:
* `fingerprintBytes_append_inj`: the bytes of a literal end where they must.
* `fingerprintInput_inj`: the bytes that are hashed tell kinds and lists of literals apart.
* `fingerprint_tells_apart`: equal fingerprints of different lists are a collision of the hash.
-/

namespace KeyedRecords

open Codec

namespace Hash.Blake3

theorem length_compress (cv : ChainingValue) (block : List UInt32) (counter : ℕ)
    (length flags : UInt32) : (compress cv block counter length flags).length = 8 := by
  unfold compress
  rw [List.length_map, List.length_range]

theorem length_hash (bytes : List UInt8) : (hash bytes).length = 32 := by
  have hword : ∀ w, (wordBytes w).length = 4 := fun w => rfl
  unfold hash Pending.root
  rw [List.length_flatMap, List.map_congr_left fun w _ => hword w, List.map_const', length_compress]
  rfl

end Hash.Blake3

/-! ## The bytes that are hashed -/

namespace KeyLiteral

/-- The length of a text literal is of 64 bits. -/
def Sized : KeyLiteral → Prop
  | .text s => (Text.Utf8.encode s).length < lengthLimit
  | .int _ => True

instance : DecidablePred Sized
  | .text _ => Nat.decLt _ _
  | .int _ => .isTrue trivial

variable {l l' : KeyLiteral} {rest rest' : List UInt8}

/-- The bytes of a literal end where they must: what follows them can be anything. -/
theorem fingerprintBytes_append_inj (hl : l.Sized) (hl' : l'.Sized)
    (h : l.fingerprintBytes ++ rest = l'.fingerprintBytes ++ rest') : l = l' ∧ rest = rest' := by
  cases l with
  | text s =>
    cases l' with
    | int i' => cases h
    | text s' =>
      simp only [fingerprintBytes, List.cons_append, List.append_assoc, List.cons.injEq,
        true_and] at h
      obtain ⟨hlength, htext⟩ := littleEndian_append_inj hl hl' h
      obtain ⟨hbytes, hrest⟩ := List.append_inj htext hlength
      exact ⟨congrArg text (Text.Utf8.encode_injective hbytes), hrest⟩
  | int i =>
    cases l' with
    | text s' => cases h
    | int i' =>
      simp only [fingerprintBytes, List.cons_append, List.cons.injEq, true_and] at h
      obtain ⟨hnumber, hrest⟩ :=
        littleEndian_append_inj i.toUInt64.toNat_lt i'.toUInt64.toNat_lt h
      have hvalue : i = i' := by
        rw [← i.toInt64_toUInt64, UInt64.toNat_inj.mp hnumber, i'.toInt64_toUInt64]
      exact ⟨congrArg int hvalue, hrest⟩

theorem fingerprintBytes_ne_nil (l : KeyLiteral) : l.fingerprintBytes ≠ [] := by
  cases l <;> exact List.cons_ne_nil _ _

theorem flatMap_fingerprintBytes_inj {ls ls' : List KeyLiteral} (hls : ∀ l ∈ ls, l.Sized)
    (hls' : ∀ l ∈ ls', l.Sized)
    (h : ls.flatMap fingerprintBytes = ls'.flatMap fingerprintBytes) : ls = ls' := by
  induction ls generalizing ls' with
  | nil =>
    cases ls' with
    | nil => rfl
    | cons l' ls' =>
      rw [List.flatMap_nil, List.flatMap_cons, eq_comm, List.append_eq_nil_iff] at h
      exact absurd h.1 l'.fingerprintBytes_ne_nil
  | cons l ls ih =>
    cases ls' with
    | nil =>
      rw [List.flatMap_nil, List.flatMap_cons, List.append_eq_nil_iff] at h
      exact absurd h.1 l.fingerprintBytes_ne_nil
    | cons l' ls' =>
      rw [List.forall_mem_cons] at hls hls'
      rw [List.flatMap_cons, List.flatMap_cons] at h
      obtain ⟨rfl, hrest⟩ := fingerprintBytes_append_inj hls.1 hls'.1 h
      rw [ih hls.2 hls'.2 hrest]

end KeyLiteral

variable {kind kind' : KeyKind} {ls ls' : List KeyLiteral}

/-- The names of the two kinds begin with different letters. -/
theorem kind_eq_of_name_append {rest rest' : List UInt8}
    (h : Text.Utf8.encode kind.name ++ rest = Text.Utf8.encode kind'.name ++ rest') :
    kind = kind' := by
  have hfirst : (Text.Utf8.encode kind.name).head? = (Text.Utf8.encode kind'.name).head? := by
    have hhead := congrArg List.head? h
    rwa [List.head?_append_of_ne_nil _ (by cases kind <;> decide),
      List.head?_append_of_ne_nil _ (by cases kind' <;> decide)] at hhead
  revert hfirst
  cases kind <;> cases kind' <;> decide

theorem fingerprintInput_inj (kind kind' : KeyKind) (hls : ∀ l ∈ ls, l.Sized)
    (hls' : ∀ l ∈ ls', l.Sized) :
    fingerprintInput kind ls = fingerprintInput kind' ls' ↔ kind = kind' ∧ ls = ls' := by
  constructor
  · intro h
    obtain rfl : kind = kind' := kind_eq_of_name_append h
    exact ⟨rfl, KeyLiteral.flatMap_fingerprintBytes_inj hls hls' (List.append_cancel_left h)⟩
  · rintro ⟨rfl, rfl⟩
    rfl

/-! ## The first bytes of the hash -/

/-- Different bytes whose hashes begin with the same eight bytes. -/
def Collide (input input' : List UInt8) : Prop :=
  input ≠ input' ∧ (Hash.Blake3.hash input).take 8 = (Hash.Blake3.hash input').take 8

theorem fingerprintOf_eq_iff_take : fingerprintOf kind ls = fingerprintOf kind' ls' ↔
    (Hash.Blake3.hash (fingerprintInput kind ls)).take 8 =
      (Hash.Blake3.hash (fingerprintInput kind' ls')).take 8 := by
  unfold fingerprintOf
  generalize fingerprintInput kind ls = input
  generalize fingerprintInput kind' ls' = input'
  have hlength : ∀ input, ((Hash.Blake3.hash input).take 8).length = 8 := by
    intro input
    rw [List.length_take, Hash.Blake3.length_hash]
    rfl
  have hlt : ∀ input, ofLittleEndian ((Hash.Blake3.hash input).take 8) < 2 ^ 64 := by
    intro input
    have h := ofLittleEndian_lt ((Hash.Blake3.hash input).take 8)
    rw [hlength] at h
    omega
  constructor
  · intro h
    have hnat := congrArg UInt64.toNat h
    rw [UInt64.toNat_ofNat_of_lt' (hlt input), UInt64.toNat_ofNat_of_lt' (hlt input')] at hnat
    exact ofLittleEndian_inj ((hlength input).trans (hlength input').symm) hnat
  · intro h
    rw [h]

/-- The bytes that are hashed tell kinds and ordered lists of literals apart, so two lists have
    one fingerprint only if they are the same or the first bytes of the hash collide. -/
theorem fingerprint_tells_apart (kind kind' : KeyKind) (hls : ∀ l ∈ ls, l.Sized)
    (hls' : ∀ l ∈ ls', l.Sized) :
    (fingerprintInput kind ls = fingerprintInput kind' ls' → kind = kind' ∧ ls = ls') ∧
    (fingerprintOf kind ls = fingerprintOf kind' ls' ↔ kind = kind' ∧ ls = ls' ∨
      Collide (fingerprintInput kind ls) (fingerprintInput kind' ls')) := by
  have hinput := fingerprintInput_inj kind kind' hls hls'
  refine ⟨hinput.mp, ?_⟩
  rw [fingerprintOf_eq_iff_take, ← hinput, Collide]
  by_cases h : fingerprintInput kind ls = fingerprintInput kind' ls'
  · simp only [h, true_or]
  · simp only [h, false_or, ne_eq, not_false_eq_true, true_and]

/-- A text that consists of the bytes of an integer, and the empty text before that integer. -/
theorem fingerprint_tells_apart_hiddenInteger :
    let hidden : List KeyLiteral := [.text "\x01\x07\x00\x00\x00\x00\x00\x00\x00"]
    let apart : List KeyLiteral := [.text "", .int 7]
    (∀ l ∈ hidden, l.Sized) ∧ (∀ l ∈ apart, l.Sized) ∧
      (fingerprintInput .text hidden).drop 15 = (fingerprintInput .text apart).drop 15 ∧
      fingerprintInput .text hidden ≠ fingerprintInput .text apart ∧
      (fingerprintOf .text hidden = fingerprintOf .text apart ↔
        Collide (fingerprintInput .text hidden) (fingerprintInput .text apart)) := by
  intro hidden apart
  have hhidden : ∀ l ∈ hidden, l.Sized := by decide +kernel
  have hapart : ∀ l ∈ apart, l.Sized := by decide +kernel
  have hne : hidden ≠ apart := by decide
  obtain ⟨hinput, hfingerprint⟩ := fingerprint_tells_apart .text .text hhidden hapart
  refine ⟨hhidden, hapart, by decide +kernel, fun h => hne (hinput h).2, ?_⟩
  rw [hfingerprint]
  simp only [hne, and_false, false_or]

end KeyedRecords

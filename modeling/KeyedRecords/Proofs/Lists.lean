import Mathlib.Tactic

/-!
# Lists that are searched, filtered and modified

* `find?_of_nodup`: where keys are distinct, the first element with a key is the only one.
* `find?_filter_of_find?`: a filter that accepts the first element with a property keeps it first.
* `map_filterMap`: a filter that accepts every element drops none.
* `map_modify_eq_set`: what modifying an element comes to under a map.
* `eq_of_mem_zip`: lists with equal images agree element by element.
* `map_eq_self`: a map that keeps every element changes nothing.
* `map_set_congr`, `map_set_inj`: an element that is replaced does not matter under a map, and the
  others do.
* `eq_of_flatMap_eq`: where every element becomes something, dropping one is seen.
* `eq_of_flatten_eq`: where parts of lists are left out, that is seen in all of them together.
* `intercalate_cons`: parts between separators are the first part and what follows it.
* `nodup_eraseDups`: where repetitions are left out, none is left.
-/

namespace KeyedRecords

variable {α β γ : Type}

/-- Where keys are distinct, the first element with a key is the only one. -/
theorem find?_of_nodup [DecidableEq β] {key : α → β} {as : List α} (hn : (as.map key).Nodup)
    {a : α} (ha : a ∈ as) : as.find? (fun x => key x = key a) = some a := by
  cases hf : as.find? (fun x => key x = key a) with
  | none => exact absurd (List.find?_eq_none.mp hf a ha) (by simp)
  | some b =>
    have hkey : key b = key a := by simpa using List.find?_some hf
    rw [List.inj_on_of_nodup_map hn (List.mem_of_find?_eq_some hf) ha hkey]

/-- A filter that accepts the first element with a property keeps it first. -/
theorem find?_filter_of_find? {p q : α → Bool} {as : List α} {a : α} (h : as.find? q = some a)
    (ha : p a) : (as.filter p).find? q = some a := by
  obtain ⟨hq, before, after, rfl, hbefore⟩ := List.find?_eq_some_iff_append.mp h
  rw [List.filter_append, List.filter_cons_of_pos ha]
  apply List.find?_eq_some_iff_append.mpr
  refine ⟨hq, before.filter p, after.filter p, rfl, fun b hb => ?_⟩
  exact hbefore b (List.mem_of_mem_filter hb)

/-- A filter that accepts every element drops none. -/
theorem map_filterMap {f : α → Option β} {g : β → γ} {h : α → γ} {as : List α}
    (hf : ∀ a ∈ as, ∃ b, f a = some b ∧ g b = h a) : (as.filterMap f).map g = as.map h := by
  induction as with
  | nil => rfl
  | cons a as ih =>
    obtain ⟨b, hb, hg⟩ := hf a List.mem_cons_self
    rw [List.filterMap_cons, hb, List.map_cons, List.map_cons, hg,
      ih fun a ha => hf a (List.mem_cons_of_mem _ ha)]

/-- To modify an element is to set its image. -/
theorem map_modify_eq_set {f : α → α} {g : α → β} {b : β} : ∀ {as : List α} {n : ℕ},
    (∀ a, as[n]? = some a → g (f a) = b) → (as.modify n f).map g = (as.map g).set n b
  | [], _, _ => by rw [List.modify_nil, List.map_nil, List.set_nil]
  | a :: as, 0, h => by
    rw [List.modify_zero_cons, List.map_cons, List.map_cons, List.set_cons_zero, h a rfl]
  | a :: as, n + 1, h => by
    have ih : (as.modify n f).map g = (as.map g).set n b := map_modify_eq_set h
    rw [List.modify_succ_cons, List.map_cons, List.map_cons, List.set_cons_succ, ih]

/-- Lists with equal images agree element by element. -/
theorem eq_of_mem_zip {f : α → γ} {g : β → γ} : ∀ {as : List α} {bs : List β},
    as.map f = bs.map g → ∀ {q : α × β}, q ∈ as.zip bs → f q.1 = g q.2
  | [], _, _, _, hq => by cases hq
  | _ :: _, [], h, _, _ => by cases h
  | a :: as, b :: bs, h, q, hq => by
    obtain ⟨hhead, htail⟩ := List.cons.inj h
    rcases List.mem_cons.mp hq with rfl | hq
    · exact hhead
    · exact eq_of_mem_zip htail hq

/-- A map that keeps every element changes nothing. -/
theorem map_eq_self {f : α → α} {as : List α} (h : ∀ a ∈ as, f a = a) : as.map f = as :=
  (List.map_congr_left h).trans (List.map_id as)

/-- An element that is replaced does not matter under a map. -/
theorem map_set_congr {f g : α → β} {b : β} : ∀ {as : List α} {n : ℕ},
    (∀ a ∈ as.eraseIdx n, f a = g a) → (as.map f).set n b = (as.map g).set n b
  | [], _, _ => rfl
  | a :: as, 0, h => by
    have hrest : as.map f = as.map g := List.map_congr_left h
    rw [List.map_cons, List.map_cons, List.set_cons_zero, List.set_cons_zero, hrest]
  | a :: as, n + 1, h => by
    have ih : (as.map f).set n b = (as.map g).set n b :=
      map_set_congr fun a' ha' => h a' (List.mem_cons_of_mem a ha')
    rw [List.map_cons, List.map_cons, List.set_cons_succ, List.set_cons_succ, ih,
      h a List.mem_cons_self]

/-- The elements that are not replaced are seen under a map. -/
theorem map_set_inj {f g : α → β} {b : β} {as : List α} {n : ℕ}
    (h : (as.map f).set n b = (as.map g).set n b) : ∀ a ∈ as.eraseIdx n, f a = g a := by
  have herase := congrArg (List.eraseIdx · n) h
  simp only [List.eraseIdx_set_eq, List.eraseIdx_map] at herase
  exact List.map_inj_left.mp herase

/-- Where every element becomes something, dropping one is seen. -/
theorem eq_of_flatMap_eq {f : α → List β} (hf : ∀ a, f a ≠ []) {as bs : List α}
    (h : as.Sublist bs) (he : as.flatMap f = bs.flatMap f) : as = bs := by
  induction h with
  | slnil => rfl
  | @cons as bs b h ih =>
    -- What is left is as long as all of the rest, and one element more became something.
    have hle : (as.flatMap f).length ≤ (bs.flatMap f).length := (h.flatMap f).length_le
    rw [he, List.flatMap_cons, List.length_append] at hle
    have hpos : 0 < (f b).length := List.length_pos_iff.mpr (hf b)
    omega
  | @cons_cons as bs b h ih =>
    rw [List.flatMap_cons, List.flatMap_cons, List.append_cancel_left_eq] at he
    rw [ih he]

/-- Elements that are related by their images stay so where one is replaced in both. -/
theorem forall₂_map_set {R : β → β → Prop} {f g : α → β} {b : β} (hb : R b b)
    (h : ∀ a, R (f a) (g a)) : ∀ (as : List α) (n : ℕ),
    List.Forall₂ R ((as.map f).set n b) ((as.map g).set n b)
  | [], _ => .nil
  | _ :: _, 0 =>
    .cons hb (List.forall₂_map_left_iff.mpr (List.forall₂_map_right_iff.mpr
      (List.forall₂_same.mpr fun a _ => h a)))
  | a :: as, n + 1 => .cons (h a) (forall₂_map_set hb h as n)

theorem flatten_sublist {as bs : List (List α)} (h : List.Forall₂ List.Sublist as bs) :
    as.flatten.Sublist bs.flatten := by
  induction h with
  | nil => exact List.Sublist.refl _
  | cons hab _ ih => exact hab.append ih

/-- Lists of which parts are left out are the same together only if nothing is left out. -/
theorem eq_of_flatten_eq {as bs : List (List α)} (h : List.Forall₂ List.Sublist as bs)
    (he : as.flatten = bs.flatten) : as = bs := by
  induction h with
  | nil => rfl
  | @cons a b as bs hab h ih =>
    have hle : as.flatten.length ≤ bs.flatten.length := (flatten_sublist h).length_le
    have hlength := congrArg List.length he
    rw [List.flatten_cons, List.flatten_cons, List.length_append, List.length_append] at hlength
    have hlt : a.length ≤ b.length := hab.length_le
    obtain rfl : a = b := hab.eq_of_length (by omega)
    rw [List.flatten_cons, List.flatten_cons, List.append_cancel_left_eq] at he
    rw [ih he]

/-- Every part but the first comes with a separator in front. -/
theorem intercalate_cons (separator as : List α) : ∀ parts : List (List α),
    separator.intercalate (as :: parts) = as ++ parts.flatMap fun bs => separator ++ bs
  | [] => by rw [List.intercalate_singleton, List.flatMap_nil, List.append_nil]
  | bs :: parts => by
    rw [List.intercalate_cons_cons, intercalate_cons separator bs parts, List.flatMap_cons]
    simp only [List.append_assoc]

/-- Where repetitions are left out, none is left. -/
theorem nodup_eraseDups [BEq α] [LawfulBEq α] (as : List α) : as.eraseDups.Nodup := by
  cases as with
  | nil => exact List.nodup_nil
  | cons a as =>
    rw [List.eraseDups_cons, List.nodup_cons, List.mem_eraseDups]
    exact ⟨by simp, nodup_eraseDups (as.filter fun b => !b == a)⟩
termination_by as.length
decreasing_by exact Nat.lt_succ_of_le (List.length_filter_le _ as)

end KeyedRecords

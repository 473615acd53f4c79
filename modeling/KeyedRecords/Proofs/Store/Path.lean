import Mathlib.Tactic
import KeyedRecords.Store.Path

/-!
# A path and the directory above it

The names of a path are those of its directory and then its own. Between them and at the end there
may be current directories, which are left out where a path is taken apart.

Results:
* `splitOnChar_append`: a text is split on both sides of a separator.
* `names_trimEnd`: only current directories are trimmed.
* `segments_of_parent?`: the segments of a path are those of its parent, and one name more.
-/

namespace KeyedRecords

/-! ## Texts with separators -/

namespace Text

variable {sep : Char} {cs ds : List Char}

theorem splitOnChar_ne_nil (sep : Char) (cs : List Char) : splitOnChar sep cs ≠ [] := by
  cases cs with
  | nil => exact List.cons_ne_nil _ _
  | cons c cs =>
    unfold splitOnChar
    split_ifs
    · exact List.cons_ne_nil _ _
    · split <;> exact List.cons_ne_nil _ _

/-- A text is split on both sides of a separator. -/
theorem splitOnChar_append : splitOnChar sep (cs ++ sep :: ds) =
    splitOnChar sep cs ++ splitOnChar sep ds := by
  induction cs with
  | nil =>
    show (if sep = sep then [] :: splitOnChar sep ds else _) = _
    rw [if_pos rfl]
    rfl
  | cons c cs ih =>
    rw [List.cons_append, splitOnChar, splitOnChar, ih]
    split_ifs
    · rfl
    · obtain ⟨piece, pieces, hpieces⟩ := List.exists_cons_of_ne_nil (splitOnChar_ne_nil sep cs)
      rw [hpieces]
      rfl

/-- A text without separators is one piece. -/
theorem splitOnChar_of_notMem (h : sep ∉ cs) : splitOnChar sep cs = [cs] := by
  induction cs with
  | nil => rfl
  | cons c cs ih =>
    rw [List.mem_cons, not_or] at h
    rw [splitOnChar, if_neg fun heq => h.1 heq.symm, ih h.2]

end Text

namespace Path

variable {cs ds : List Char}

/-! ## Names between separators -/

/-- The names between separators, as lists of characters. -/
def names (cs : List Char) : List (List Char) :=
  (Text.splitOnChar '/' cs).filter fun s => !s.isEmpty

theorem segments_eq (path : String) : segments path = (names path.toList).map String.ofList := rfl

/-- Names before a separator come before those after it. -/
theorem names_append (cs ds : List Char) : names (cs ++ '/' :: ds) = names cs ++ names ds := by
  unfold names
  rw [Text.splitOnChar_append, List.filter_append]

/-- Characters without a separator are one name. -/
theorem names_of_notMem (hne : cs ≠ []) (h : '/' ∉ cs) : names cs = [cs] := by
  unfold names
  rw [Text.splitOnChar_of_notMem h]
  refine List.filter_cons_of_pos ?_
  rw [Bool.not_eq_true', List.isEmpty_eq_false_iff]
  exact hne

/-- Only current directories. -/
def Dots (ns : List (List Char)) : Prop := ∀ n ∈ ns, n = ['.']

/-! ## Trimming -/

theorem names_reverse_trimReversed (cs : List Char) : ∃ dots, Dots dots ∧
    names cs.reverse = names (trimReversed cs).reverse ++ dots := by
  fun_induction trimReversed cs with
  | case1 rest hrest =>
    rw [List.isEmpty_iff] at hrest
    subst hrest
    exact ⟨[], by simp [Dots], (List.append_nil _).symm⟩
  | case2 rest hrest ih =>
    obtain ⟨dots, hdots, hnames⟩ := ih
    refine ⟨dots, hdots, ?_⟩
    rw [List.reverse_cons, names_append, hnames]
    exact List.append_nil _
  | case3 rest hrest =>
    rw [List.isEmpty_iff] at hrest
    subst hrest
    exact ⟨[['.']], by simp [Dots], rfl⟩
  | case4 rest hrest ih =>
    obtain ⟨dots, hdots, hnames⟩ := ih
    refine ⟨dots ++ [['.']], ?_, ?_⟩
    · intro n hn
      rcases List.mem_append.mp hn with hn | hn
      · exact hdots n hn
      · exact List.mem_singleton.mp hn
    · rw [List.reverse_cons, List.reverse_cons, List.append_assoc, List.singleton_append,
        names_append, hnames, List.append_assoc]
      rfl
  | case5 cs => exact ⟨[], by simp [Dots], (List.append_nil _).symm⟩

/-- Only current directories are trimmed. -/
theorem names_trimEnd (cs : List Char) : ∃ dots, Dots dots ∧
    names cs = names (trimEnd cs) ++ dots := by
  have h := names_reverse_trimReversed cs.reverse
  rwa [List.reverse_reverse] at h

/-- What is left after trimming ends in a separator only if it is a root. -/
theorem head?_trimReversed (cs : List Char) :
    trimReversed cs = ['/'] ∨ (trimReversed cs).head? ≠ some '/' := by
  fun_induction trimReversed cs with
  | case1 rest hrest => exact .inl rfl
  | case2 rest hrest ih => exact ih
  | case3 rest hrest => exact .inl rfl
  | case4 rest hrest ih => exact ih
  | case5 cs hroot hdot =>
    refine .inr fun h => ?_
    obtain ⟨rest, hcs⟩ := List.head?_eq_some_iff.mp h
    exact hroot rest hcs

/-! ## Parents -/

/-- The last name of a reversed path, and the rest with the separator in front of the name. -/
theorem names_of_dropWhile (hne : cs ≠ []) (hhead : cs.head? ≠ some '/') : ∃ last,
    names cs.reverse = names (cs.dropWhile fun c => c != '/').reverse ++ [last] := by
  refine ⟨(cs.takeWhile fun c => c != '/').reverse, ?_⟩
  have hlast : names (cs.takeWhile fun c => c != '/').reverse =
      [(cs.takeWhile fun c => c != '/').reverse] := by
    apply names_of_notMem
    · obtain ⟨c, rest, rfl⟩ := List.exists_cons_of_ne_nil hne
      have hc : (c != '/') = true := by simpa using hhead
      simp [hc]
    · intro hmem
      have hseparator := List.all_eq_true.mp List.all_takeWhile '/' (List.mem_reverse.mp hmem)
      simp at hseparator
  have hsplit : cs.reverse = (cs.dropWhile fun c => c != '/').reverse ++
      (cs.takeWhile fun c => c != '/').reverse := by
    rw [← List.reverse_append, List.takeWhile_append_dropWhile]
  cases hdrop : cs.dropWhile fun c => c != '/' with
  | nil =>
    rw [hdrop] at hsplit
    rw [hsplit, List.reverse_nil, List.nil_append, hlast]
    rfl
  | cons c rest =>
    obtain rfl : c = '/' := by
      have := List.head?_dropWhile_not (fun c => c != '/') cs
      rw [hdrop] at this
      simpa using this
    rw [hdrop] at hsplit
    rw [hsplit, List.reverse_cons, List.append_assoc, List.singleton_append, names_append, hlast,
      names_append]
    simp [names, Text.splitOnChar]

/-- The names of a path are those of its parent and one name more, apart from current directories
    in between and after it. -/
theorem names_of_parent? {path dir : String} (h : parent? path = some dir) :
    ∃ dots last dots', Dots dots ∧ Dots dots' ∧
      names path.toList = names dir.toList ++ dots ++ last :: dots' := by
  unfold parent? trimEnd at h
  simp only [List.reverse_reverse] at h
  split_ifs at h with hbody
  rw [Bool.or_eq_true, not_or, List.isEmpty_iff, List.reverse_eq_nil_iff, beq_iff_eq,
    List.reverse_eq_iff] at hbody
  have hhead := (head?_trimReversed path.toList.reverse).resolve_left hbody.2
  obtain ⟨dots', hdots', hpath⟩ := names_trimEnd path.toList
  obtain ⟨last, hlast⟩ := names_of_dropWhile hbody.1 hhead
  obtain ⟨dots, hdots, hdir⟩ := names_reverse_trimReversed
    ((trimReversed path.toList.reverse).dropWhile fun c => c != '/')
  refine ⟨dots, last, dots', hdots, hdots', ?_⟩
  rw [hpath]
  unfold trimEnd
  rw [hlast, hdir, ← Option.some.inj h, String.toList_ofList]
  simp

/-- The segments of a path are those of its parent and one name more, apart from current
    directories in between and after it. -/
theorem segments_of_parent? {path dir : String} (h : parent? path = some dir) :
    ∃ dots last dots', (∀ n ∈ dots, n = ".") ∧ (∀ n ∈ dots', n = ".") ∧
      segments path = segments dir ++ dots ++ last :: dots' := by
  have hdotted {ns : List (List Char)} (hns : Dots ns) : ∀ n ∈ ns.map String.ofList, n = "." := by
    intro n hn
    obtain ⟨m, hm, rfl⟩ := List.mem_map.mp hn
    rw [hns m hm]
  obtain ⟨dots, last, dots', hdots, hdots', hnames⟩ := names_of_parent? h
  refine ⟨dots.map String.ofList, String.ofList last, dots'.map String.ofList, hdotted hdots,
    hdotted hdots', ?_⟩
  rw [segments_eq, segments_eq, hnames, List.map_append, List.map_append, List.map_cons]

end Path

end KeyedRecords

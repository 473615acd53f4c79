import KeyedRecords.Proofs.Store.Path
import KeyedRecords.Store.RecordStore

/-!
# Directories that are made on the way

A path is walked name by name, and where a name is missing a directory can be made. `Makes` is a
walk that does so, one rule for each kind of segment; it says of a directory that it can be made.

Results:
* `Makes.extends`: what was there before is still there.
* `Makes.ensureDirectories`: a directory that can be made is made, with those above it.
* `Awaits.isDirectory_written`, `Awaits.readFile_written`: what is there once a file is written
  whose directory was missing.
* `file_write_made`, `file_write_missing`: such a file is written or not by whether its store makes
  directories.
-/

namespace KeyedRecords.FileTree

variable {root root' root'' : FileTree} {names names' : List String} {name segment : String}
  {entries : List (String × FileTree)} {node : FileTree}

/-! ## Entries -/

theorem child?_setEntry (name n : String) (node : FileTree) (entries : List (String × FileTree)) :
    child? n (setEntry name node entries) = if n = name then some node else child? n entries := by
  induction entries with
  | nil => simp [setEntry, child?, eq_comm]
  | cons e rest ih =>
    obtain ⟨m, t⟩ := e
    unfold setEntry
    by_cases hname : name = m
    · subst hname
      simp only [if_true, child?, eq_comm]
      split_ifs <;> rfl
    · by_cases hlt : name < m
      · simp only [hname, hlt, if_true, if_false, child?, eq_comm]
      · simp only [hname, hlt, if_false, child?, ih]
        by_cases hm : m = n
        · subst hm
          simp [Ne.symm hname]
        · simp [hm]

/-! ## What is there -/

/-- A directory stands at the end of these names. -/
def HasDirectory (root : FileTree) (names : List String) : Prop :=
  ∃ entries, root.lookup? names = some (directory entries)

/-- Every directory is there in the other tree too, with at least the same names in it. -/
def Extends (root root' : FileTree) : Prop :=
  ∀ names entries, root.lookup? names = some (directory entries) →
    ∃ entries', root'.lookup? names = some (directory entries') ∧
      ∀ n, (child? n entries).isSome → (child? n entries').isSome

theorem Extends.refl (root : FileTree) : Extends root root :=
  fun _ entries h => ⟨entries, h, fun _ hn => hn⟩

theorem Extends.trans (h : Extends root root') (h' : Extends root' root'') :
    Extends root root'' := by
  intro names entries hlookup
  obtain ⟨entries', hlookup', hnames⟩ := h names entries hlookup
  obtain ⟨entries'', hlookup'', hnames'⟩ := h' names entries' hlookup'
  exact ⟨entries'', hlookup'', fun n hn => hnames' n (hnames n hn)⟩

theorem Extends.hasDirectory (h : Extends root root') (hd : root.HasDirectory names) :
    root'.HasDirectory names := by
  obtain ⟨entries, hlookup⟩ := hd
  obtain ⟨entries', hlookup', -⟩ := h names entries hlookup
  exact ⟨entries', hlookup'⟩

theorem lookup?_append {rest : List String} : ∀ {names : List String} {root : FileTree},
    root.lookup? names = some node → root.lookup? (names ++ rest) = node.lookup? rest
  | [], root, h => by
    cases Option.some.inj h
    rfl
  | name :: names, root, h => by
    cases root with
    | file bytes => cases h
    | directory es =>
      unfold lookup? at h
      rw [List.cons_append, lookup?]
      cases hchild : child? name es with
      | none => rw [hchild] at h; cases h
      | some t =>
        rw [hchild] at h
        exact lookup?_append h

/-- A directory whose entries are changed is where it was. -/
theorem lookup?_modifyDirectory {f : List (String × FileTree) → List (String × FileTree)} :
    ∀ {names : List String} {root : FileTree}, root.lookup? names = some (directory entries) →
      ∀ rest, (root.modifyDirectory f names).lookup? (names ++ rest) =
        (directory (f entries)).lookup? rest
  | [], root, h, rest => by
    cases Option.some.inj h
    rfl
  | name :: names, root, h, rest => by
    cases root with
    | file bytes => cases h
    | directory es =>
      unfold lookup? at h
      cases hchild : child? name es with
      | none => rw [hchild] at h; cases h
      | some t =>
        rw [hchild] at h
        have ih := lookup?_modifyDirectory (f := f) h rest
        simp only [modifyDirectory, hchild, List.cons_append, lookup?, child?_setEntry, if_true]
        exact ih

/-- An entry that takes the place of no directory leaves every directory where it was. -/
theorem extends_setEntry : ∀ {names : List String} {root : FileTree},
    root.lookup? names = some (directory entries) →
    (∀ es, child? name entries ≠ some (directory es)) →
      Extends root (root.modifyDirectory (setEntry name node) names)
  | [], root, h, hnew => by
    cases Option.some.inj h
    intro ns es hlookup
    cases ns with
    | nil =>
      cases Option.some.inj hlookup
      refine ⟨_, rfl, fun n hn => ?_⟩
      rw [child?_setEntry]
      split_ifs
      · rfl
      · exact hn
    | cons n ns =>
      simp only [lookup?] at hlookup
      have hne : n ≠ name := by
        rintro rfl
        cases hchild : child? n entries with
        | none => rw [hchild] at hlookup; cases hlookup
        | some t =>
          rw [hchild] at hlookup
          cases t with
          | file bytes => cases ns <;> cases hlookup
          | directory es' => exact hnew es' hchild
      refine ⟨es, ?_, fun _ hn => hn⟩
      simpa only [modifyDirectory, lookup?, child?_setEntry, if_neg hne] using hlookup
  | d :: ds, root, h, hnew => by
    cases root with
    | file bytes => cases h
    | directory es =>
      unfold lookup? at h
      cases hchild : child? d es with
      | none => rw [hchild] at h; cases h
      | some t =>
        rw [hchild] at h
        have ih : Extends t (t.modifyDirectory (setEntry name node) ds) := extends_setEntry h hnew
        intro ns es' hlookup
        simp only [modifyDirectory, hchild]
        cases ns with
        | nil =>
          cases Option.some.inj hlookup
          refine ⟨_, rfl, fun n hn => ?_⟩
          rw [child?_setEntry]
          split_ifs
          · rfl
          · exact hn
        | cons n ns =>
          simp only [lookup?, child?_setEntry]
          by_cases hn : n = d
          · subst hn
            simp only [lookup?, hchild] at hlookup
            simpa only [if_true] using ih ns es' hlookup
          · refine ⟨es', ?_, fun _ hm => hm⟩
            simpa only [if_neg hn, lookup?] using hlookup

/-! ## Walking -/

/-- A segment that is a name of its own and may be one. -/
structure IsName (segment : String) : Prop where
  ne_dot : segment ≠ "."
  ne_up : segment ≠ ".."
  short : (Text.Utf8.encode segment).length ≤ maxNameBytes

section Walk

variable {rest segs : List String}

theorem walk_dot (h : root.HasDirectory names) :
    root.walk names ("." :: rest) = root.walk names rest := by
  obtain ⟨entries, h⟩ := h
  rw [walk, h]
  rfl

theorem walk_up (h : root.HasDirectory names) :
    root.walk names (".." :: rest) = root.walk names.dropLast rest := by
  obtain ⟨entries, h⟩ := h
  rw [walk, h]
  rfl

theorem walk_name (h : root.lookup? names = some (directory entries)) (hs : IsName segment) :
    root.walk names (segment :: rest) =
      if (child? segment entries).isSome then root.walk (names ++ [segment]) rest
      else if rest.isEmpty then .ok (.vacant names segment) else .error .notFound := by
  rw [walk, h]
  simp only [hs.ne_dot, hs.ne_up, Nat.not_lt.mpr hs.short, if_false]

/-- A walk goes on where its first part leads. -/
theorem walk_append : ∀ {segs : List String} {names : List String},
    root.walk names segs = .ok (.found names') →
      root.walk names (segs ++ rest) = root.walk names' rest
  | [], names, h => by
    cases h
    rfl
  | segment :: segs, names, h => by
    rw [walk] at h
    rw [List.cons_append, walk]
    split at h
    · split_ifs at h with hdot hup hlong hchild hempty
      · rw [if_pos hdot, walk_append h]
      · rw [if_neg hdot, if_pos hup, walk_append h]
      · rw [if_neg hdot, if_neg hup, if_neg hlong, if_pos hchild, walk_append h]
      · cases h
    · cases h

/-- Current directories lead nowhere. -/
theorem walk_dots (h : root.HasDirectory names) : ∀ {dots : List String}, (∀ n ∈ dots, n = ".") →
    root.walk names (dots ++ rest) = root.walk names rest
  | [], _ => rfl
  | n :: dots, hdots => by
    obtain ⟨hn, hdots⟩ := List.forall_mem_cons.mp hdots
    rw [hn, List.cons_append, walk_dot h, walk_dots h hdots]

end Walk

/-! ## Making what is missing -/

/-- A walk in which every name that is missing is made a directory. The indices are the tree and
    the place before it, its segments, and the tree and the place after it. -/
inductive Makes : FileTree → List String → List String → FileTree → List String → Prop
  | done {root : FileTree} {names : List String} (here : root.HasDirectory names) :
    Makes root names [] root names
  | dot {root root' : FileTree} {names names' rest : List String} (here : root.HasDirectory names)
    (onward : Makes root names rest root' names') : Makes root names ("." :: rest) root' names'
  | up {root root' : FileTree} {names names' rest : List String} (here : root.HasDirectory names)
    (onward : Makes root names.dropLast rest root' names') :
    Makes root names (".." :: rest) root' names'
  | enter {root root' : FileTree} {names names' rest : List String} {segment : String}
    {entries : List (String × FileTree)} (here : root.lookup? names = some (directory entries))
    (name : IsName segment) (there : (child? segment entries).isSome)
    (onward : Makes root (names ++ [segment]) rest root' names') :
    Makes root names (segment :: rest) root' names'
  | make {root root' : FileTree} {names names' rest : List String} {segment : String}
    {entries : List (String × FileTree)} (here : root.lookup? names = some (directory entries))
    (name : IsName segment) (missing : child? segment entries = none)
    (onward : Makes (root.modifyDirectory (setEntry segment (directory [])) names)
      (names ++ [segment]) rest root' names') : Makes root names (segment :: rest) root' names'

section Makes

variable {segs before after : List String}

/-- What was there before is still there. -/
theorem Makes.extends (h : Makes root names segs root' names') : Extends root root' := by
  induction h with
  | done here => exact Extends.refl _
  | dot here onward ih => exact ih
  | up here onward ih => exact ih
  | enter here name there onward ih => exact ih
  | make here name missing onward ih =>
    refine (extends_setEntry here fun es hchild => ?_).trans ih
    rw [missing] at hchild
    cases hchild

/-- It leads to a directory. -/
theorem Makes.hasDirectory (h : Makes root names segs root' names') :
    root'.HasDirectory names' := by
  induction h with
  | done here => exact here
  | dot here onward ih => exact ih
  | up here onward ih => exact ih
  | enter here name there onward ih => exact ih
  | make here name missing onward ih => exact ih

/-- Afterwards the same walk finds every name, also when more is there. -/
theorem Makes.walk (h : Makes root names segs root' names') (hmore : Extends root' root'') :
    root''.walk names segs = .ok (.found names') := by
  induction h with
  | done here => rfl
  | dot here onward ih =>
    rw [walk_dot ((onward.extends.trans hmore).hasDirectory here), ih hmore]
  | up here onward ih =>
    rw [walk_up ((onward.extends.trans hmore).hasDirectory here), ih hmore]
  | enter here name there onward ih =>
    obtain ⟨entries', here', hnames⟩ := (onward.extends.trans hmore) _ _ here
    rw [walk_name here' name, if_pos (hnames _ there), ih hmore]
  | @make root root' names names' rest segment entries here name missing onward ih =>
    have hmade : (root.modifyDirectory (setEntry segment (directory [])) names).lookup? names =
        some (directory (setEntry segment (directory []) entries)) := by
      have h := lookup?_modifyDirectory (f := setEntry segment (directory [])) here []
      rwa [List.append_nil] at h
    obtain ⟨entries', here', hnames⟩ := (onward.extends.trans hmore) _ _ hmade
    have hthere : (child? segment entries').isSome := hnames _ (by simp [child?_setEntry])
    rw [walk_name here' name, if_pos hthere, ih hmore]

/-- A walk of two parts stops in between. -/
theorem Makes.split : ∀ {before : List String} {root : FileTree} {names : List String},
    Makes root names (before ++ after) root' names' →
      ∃ root₁ names₁, Makes root names before root₁ names₁ ∧ Makes root₁ names₁ after root' names'
  | [], root, names, h => by
    refine ⟨root, names, .done ?_, h⟩
    cases h with
    | done here => exact here
    | dot here _ => exact here
    | up here _ => exact here
    | enter here _ _ _ => exact ⟨_, here⟩
    | make here _ _ _ => exact ⟨_, here⟩
  | segment :: before, root, names, h => by
    rw [List.cons_append] at h
    cases h with
    | dot here onward =>
      obtain ⟨root₁, names₁, h₁, h₂⟩ := onward.split
      exact ⟨root₁, names₁, .dot here h₁, h₂⟩
    | up here onward =>
      obtain ⟨root₁, names₁, h₁, h₂⟩ := onward.split
      exact ⟨root₁, names₁, .up here h₁, h₂⟩
    | enter here name there onward =>
      obtain ⟨root₁, names₁, h₁, h₂⟩ := onward.split
      exact ⟨root₁, names₁, .enter here name there h₁, h₂⟩
    | make here name missing onward =>
      obtain ⟨root₁, names₁, h₁, h₂⟩ := onward.split
      exact ⟨root₁, names₁, .make here name missing h₁, h₂⟩

/-- Either nothing was missing, or the walk comes to nothing once another segment follows. -/
theorem Makes.found_or_missing (h : Makes root names segs root' names') :
    (root' = root ∧ root.walk names segs = .ok (.found names')) ∨
      (∀ ns, root.walk names segs ≠ .ok (.found ns)) ∧
        ∀ segment rest, root.walk names (segs ++ segment :: rest) = .error .notFound := by
  induction h with
  | done here => exact .inl ⟨rfl, rfl⟩
  | dot here onward ih =>
    simp only [List.cons_append, walk_dot here]
    exact ih
  | up here onward ih =>
    simp only [List.cons_append, walk_up here]
    exact ih
  | enter here name there onward ih =>
    simp only [List.cons_append, walk_name here name, there, if_true]
    exact ih
  | @make root root' names names' rest segment entries here name missing onward ih =>
    right
    have hnone : (child? segment entries).isSome = false := by rw [missing]; rfl
    simp only [List.cons_append, walk_name here name, hnone, Bool.false_eq_true, if_false]
    refine ⟨fun ns => ?_, fun next more => ?_⟩
    · split_ifs <;> exact fun h => by cases h
    · rw [if_neg (by simp)]

/-! ## Making directories -/

theorem locate_eq_walk (segs : List String) : root.locate ⟨segs, false⟩ = root.walk [] segs := by
  unfold locate
  cases root.walk [] segs with
  | error e => rfl
  | ok place =>
    cases place with
    | vacant dir name => rfl
    | found ns =>
      simp only [bind, Except.bind, Bool.false_eq_true, if_false]
      split <;> rfl

theorem isDirectory_of_walk (h : root.walk [] segs = .ok (.found names))
    (hd : root.HasDirectory names) : root.isDirectory segs = true := by
  obtain ⟨entries, hlookup⟩ := hd
  unfold isDirectory
  rw [locate_eq_walk, h]
  simp only [hlookup]

theorem makeDirectory_found (h : root.walk [] segs = .ok (.found names)) :
    root.makeDirectory segs = .error .alreadyExists := by
  unfold makeDirectory
  rw [locate_eq_walk, h]
  rfl

theorem makeDirectory_vacant (h : root.walk [] segs = .ok (.vacant names name)) :
    root.makeDirectory segs = .ok (root.modifyDirectory (setEntry name (directory [])) names) := by
  unfold makeDirectory
  rw [locate_eq_walk, h]
  rfl

theorem makeDirectory_error {e : FileFault} (h : root.walk [] segs = .error e) :
    root.makeDirectory segs = .error e := by
  unfold makeDirectory
  rw [locate_eq_walk, h]
  rfl

/-- A last segment is made a directory, or is one. -/
theorem Makes.makeDirectory_last {ns : List String}
    (hbefore : root.walk [] before = .ok (.found ns)) (h : Makes root ns [segment] root' names') :
    root.makeDirectory (before ++ [segment]) = .ok root' ∨
      root.makeDirectory (before ++ [segment]) = .error .alreadyExists ∧
        root.isDirectory (before ++ [segment]) = true ∧ root' = root := by
  have hlast : root.walk [] (before ++ [segment]) = root.walk ns [segment] := walk_append hbefore
  rcases h.found_or_missing with ⟨rfl, hfound⟩ | ⟨hmissing, -⟩
  · right
    rw [← hlast] at hfound
    exact ⟨makeDirectory_found hfound, isDirectory_of_walk hfound h.hasDirectory, rfl⟩
  · left
    cases h with
    | dot here onward =>
      cases onward
      exact absurd (walk_dot here) (hmissing _)
    | up here onward =>
      cases onward
      exact absurd (walk_up here) (hmissing _)
    | enter here name there onward =>
      cases onward
      refine absurd ?_ (hmissing (ns ++ [segment]))
      rw [walk_name here name, if_pos there]
      rfl
    | make here name missing onward =>
      cases onward
      apply makeDirectory_vacant
      rw [hlast, walk_name here name, missing]
      rfl

/-- A directory that can be made is made, with those above it. -/
theorem Makes.ensureDirectories (h : Makes root [] segs root' names') :
    root.ensureDirectories segs = (.ok (), root') := by
  induction segs using List.reverseRecOn generalizing root' names' with
  | nil =>
    cases h with
    | done here =>
      have hfound : root.walk [] [] = .ok (.found []) := rfl
      rw [FileTree.ensureDirectories, makeDirectory_found hfound]
      simp only [isDirectory_of_walk hfound here, if_true]
  | append_singleton before segment ih =>
    obtain ⟨root₁, ns, hbefore, hlast⟩ := h.split
    rw [FileTree.ensureDirectories]
    rcases hbefore.found_or_missing with ⟨rfl, hfound⟩ | ⟨-, hmissing⟩
    · rcases hlast.makeDirectory_last hfound with hmade | ⟨hthere, hdirectory, rfl⟩
      · rw [hmade]
      · rw [hthere]
        simp only [hdirectory, if_true]
    · -- The directories above are missing, so they are made first.
      rw [makeDirectory_error (hmissing segment [])]
      have hnonempty : (before ++ [segment]).isEmpty = false := by
        cases before <;> rfl
      simp only [hnonempty, Bool.false_eq_true, if_false, List.dropLast_concat, ih hbefore]
      unfold ensureDirectory
      have hfound := hbefore.walk (Extends.refl _)
      rcases hlast.makeDirectory_last hfound with hmade | ⟨hthere, hdirectory, rfl⟩
      · rw [hmade]
      · rw [hthere]
        simp only [hdirectory, if_true]

end Makes

/-! ## Files in directories that are missing -/

/-- A path that can be looked up. -/
structure Spelled (path : String) : Prop where
  nul : '\x00' ∉ path.toList
  nonempty : path ≠ ""
  short : (Text.Utf8.encode path).length < maxPathBytes

theorem Spelled.route {path : String} (h : Spelled path) :
    FileTree.route path = .ok ⟨Path.segments path, path.toList.getLast? == some '/'⟩ := by
  have hnul : path.toList.contains '\x00' = false := by
    rw [Bool.eq_false_iff, ne_eq, List.contains_iff_mem]
    exact h.nul
  have hempty : path.isEmpty = false := by
    rw [Bool.eq_false_iff, ne_eq, String.isEmpty_iff]
    exact h.nonempty
  unfold FileTree.route
  rw [hnul, hempty, if_neg Bool.false_ne_true, if_neg Bool.false_ne_true,
    if_neg (Nat.not_le.mpr h.short)]

/-- Nothing keeps a file from being written but that its directory `dir` is missing. It can be made,
    which gives the tree `made` with the directory at `place`, and no directory stands there under
    the name of the file. -/
structure Awaits (root : FileTree) (path dir name : String) (made : FileTree)
    (place : List String) : Prop where
  parent : Path.parent? path = some dir
  spelled : Spelled path
  spelled_dir : Spelled dir
  ending : path.toList.getLast? ≠ some '/'
  last : (Path.segments path).getLast? = some name
  isName : IsName name
  missing : ∀ names, root.walk [] (Path.segments dir) ≠ .ok (.found names)
  makes : Makes root [] (Path.segments dir) made place
  free : ∀ entries, made.lookup? (place ++ [name]) ≠ some (directory entries)

namespace Awaits

variable {path dir : String} {made : FileTree} {place : List String}

theorem route (h : Awaits root path dir name made place) :
    FileTree.route path = .ok ⟨Path.segments path, false⟩ := by
  rw [h.spelled.route, beq_eq_false_iff_ne.mpr h.ending]

/-- The file follows its directory. -/
theorem segments (h : Awaits root path dir name made place) : ∃ dots, (∀ n ∈ dots, n = ".") ∧
    Path.segments path = Path.segments dir ++ dots ++ [name] := by
  obtain ⟨dots, last, dots', hdots, hdots', hsegments⟩ := Path.segments_of_parent? h.parent
  -- The name of a file is no current directory, so nothing comes after it.
  have hlast := h.last
  rcases List.eq_nil_or_concat dots' with rfl | ⟨dots', n, rfl⟩
  · rw [hsegments, List.getLast?_append, List.getLast?_singleton] at hlast
    obtain rfl := Option.some.inj hlast
    exact ⟨dots, hdots, hsegments⟩
  · rw [hsegments, List.concat_eq_append, ← List.cons_append, ← List.append_assoc,
      List.getLast?_concat] at hlast
    obtain rfl := Option.some.inj hlast
    exact absurd (hdots' n (by simp)) h.isName.ne_dot

/-- Without its directory the file cannot be written. -/
theorem writeFile_missing (h : Awaits root path dir name made place) (bytes : List UInt8) :
    root.writeFile path bytes = .error .notFound := by
  obtain ⟨dots, -, hsegments⟩ := h.segments
  rcases h.makes.found_or_missing with ⟨-, hfound⟩ | ⟨-, hmissing⟩
  · exact absurd hfound (h.missing place)
  · have hwalk : root.walk [] (Path.segments path) = .error .notFound := by
      rw [hsegments, List.append_assoc]
      cases dots with
      | nil => exact hmissing name []
      | cons n dots => exact hmissing n (dots ++ [name])
    unfold writeFile
    rw [h.route]
    show (root.locate ⟨Path.segments path, false⟩ >>= _) = _
    rw [locate_eq_walk, hwalk]
    rfl

/-- No directory stands in the way of the file. -/
theorem free_entries (h : Awaits root path dir name made place)
    (hplace : made.lookup? place = some (directory entries)) (es : List (String × FileTree)) :
    child? name entries ≠ some (directory es) := by
  intro hchild
  apply h.free es
  rw [lookup?_append hplace, lookup?, hchild]
  rfl

/-- The walk to the file goes through its directory. -/
theorem walk_file (h : Awaits root path dir name made place) (hmore : Extends made root') :
    root'.walk [] (Path.segments path) = root'.walk place [name] := by
  obtain ⟨dots, hdots, hsegments⟩ := h.segments
  have hplace := hmore.hasDirectory h.makes.hasDirectory
  rw [hsegments, List.append_assoc, walk_append (h.makes.walk hmore), walk_dots hplace hdots]

/-- In its directory it can. -/
theorem writeFile_made (h : Awaits root path dir name made place) (bytes : List UInt8) :
    made.writeFile path bytes =
      .ok (made.modifyDirectory (setEntry name (file bytes)) place) := by
  obtain ⟨entries, hplace⟩ := h.makes.hasDirectory
  unfold writeFile
  rw [h.route]
  show (made.locate ⟨Path.segments path, false⟩ >>= _) = _
  rw [locate_eq_walk, h.walk_file (Extends.refl made), walk_name hplace h.isName]
  cases hchild : child? name entries with
  | none => rfl
  | some node =>
    have hnode : made.lookup? (place ++ [name]) = some node := by
      rw [lookup?_append hplace, lookup?, hchild]
      rfl
    cases node with
    | directory es => exact absurd hchild (h.free_entries hplace es)
    | file old =>
      simp only [Option.isSome_some, if_true, walk, bind, Except.bind, hnode,
        List.getLast?_concat, List.dropLast_concat]
      rfl

theorem extends_written (h : Awaits root path dir name made place) (bytes : List UInt8) :
    Extends made (made.modifyDirectory (setEntry name (file bytes)) place) := by
  obtain ⟨entries, hplace⟩ := h.makes.hasDirectory
  exact extends_setEntry hplace (h.free_entries hplace)

/-- Then its directory is there. -/
theorem isDirectory_written (h : Awaits root path dir name made place) (bytes : List UInt8) :
    (made.modifyDirectory (setEntry name (file bytes)) place).isDirectory (Path.segments dir) =
      true :=
  isDirectory_of_walk (h.makes.walk (h.extends_written bytes))
    ((h.extends_written bytes).hasDirectory h.makes.hasDirectory)

/-- And its bytes are read back. -/
theorem readFile_written (h : Awaits root path dir name made place) (bytes : List UInt8) :
    (made.modifyDirectory (setEntry name (file bytes)) place).readFile path = .ok bytes := by
  obtain ⟨entries, hplace⟩ := h.makes.hasDirectory
  have hlookup := lookup?_modifyDirectory (f := setEntry name (file bytes)) hplace
  have hwritten := hlookup []
  have hfile := hlookup [name]
  rw [List.append_nil] at hwritten
  simp only [lookup?, child?_setEntry, if_true] at hwritten hfile
  unfold readFile
  rw [h.route]
  show (FileTree.locate _ ⟨Path.segments path, false⟩ >>= _) = _
  rw [locate_eq_walk, h.walk_file (h.extends_written bytes), walk_name hwritten h.isName,
    child?_setEntry, if_pos rfl]
  simp only [Option.isSome_some, if_true, walk, bind, Except.bind, hfile]
  rfl

/-- Its directory is not there yet. -/
theorem isDirectory_missing (h : Awaits root path dir name made place) :
    root.isDirectory (Path.segments dir) = false := by
  unfold isDirectory
  rw [locate_eq_walk]
  split
  · next names hfound => exact absurd hfound (h.missing names)
  · rfl

end Awaits

end KeyedRecords.FileTree

namespace KeyedRecords.RecordStore

/-! ## Stores that make directories, and stores that do not -/

open FileTree

variable {f : FileStore} {root made : FileTree} {dir name : String} {place : List String}

/-- A store that makes directories writes the record. -/
theorem file_write_made (h : Awaits root f.path dir name made place)
    (hf : f.createDirectories = true) (bytes : List UInt8) :
    ((file f).write bytes root).result = .ok () ∧ ((file f).write bytes root).state =
      made.modifyDirectory (setEntry name (.file bytes)) place := by
  have hempty : dir.isEmpty = false := by
    rw [Bool.eq_false_iff, ne_eq, String.isEmpty_iff]
    exact h.spelled_dir.nonempty
  have hprepare : prepareDirectory f root = (.ok (), made) := by
    unfold prepareDirectory ensureDirectoriesAt
    rw [hf, h.parent]
    simp only [hempty, Bool.false_eq_true, if_false, h.spelled_dir.route, h.makes.ensureDirectories]
    rfl
  unfold file
  simp only [hprepare, h.writeFile_made]
  exact ⟨trivial, trivial⟩

/-- One that makes none reports that there is no record, and leaves everything as it is. -/
theorem file_write_missing (h : Awaits root f.path dir name made place)
    (hf : f.createDirectories = false) (bytes : List UInt8) :
    ((file f).write bytes root).result = .error (.notFound f.path) ∧
      ((file f).write bytes root).state = root := by
  have hprepare : prepareDirectory f root = (.ok (), root) := by
    unfold prepareDirectory
    rw [hf]
  unfold file
  simp only [hprepare, h.writeFile_missing]
  exact ⟨rfl, trivial⟩

end KeyedRecords.RecordStore

import KeyedRecords.Proofs.Description.Markers
import KeyedRecords.Proofs.Source.Paths

/-!
# Deriving what makes an enumeration one of keys

An enumeration that carries the marker of keys and derives something, but not
`CodingKey`, is refused together with a fix. The fix is built from the paths of all
its derive attributes, as if they were one attribute in parentheses.

**What the fix replaces need not be there.** Of several attributes none is written as
all of them together, and other brackets or a comma at the end are not part of the fix.

Results:
* `notKeyEnum_fix`: what the fix replaces, and by what.
* `squeezed_eq_deriveText_iff`: which derive attribute is written as what the fix replaces.
* `fix_of_derivesAtOnce`: the fix replaces an attribute of the enumeration exactly if one attribute
  derives everything, and then it makes an enumeration of keys of it.
-/

namespace KeyedRecords.Description

open Source

/-! ## Derive attributes as they are written -/

/-- A derive attribute that lists paths. -/
structure DerivesPaths (a : Attribute) (d : Delimiter) (ts : Tokens) (ps : List Path) : Prop where
  named : a.isNamed "derive"
  outer : a.inner = false
  content : a.content = .arguments d ts
  lists : Lists ts ps
  spelled : ∀ p ∈ ps, p.Spelled

/-- The character that begins a group. -/
def opens : Delimiter → Char
  | .paren => '('
  | .bracket => '['
  | .brace => '\x7b'

/-- The character that ends a group. -/
def closes : Delimiter → Char
  | .paren => ')'
  | .bracket => ']'
  | .brace => '\x7d'

theorem squeezed_group (d : Delimiter) (ts : Tokens) :
    squeezed (Token.group d ts).render = opens d :: (squeezed ts.render ++ [closes d]) := by
  cases d with
  | paren => rw [Token.render, squeezed_append, squeezed_append]; rfl
  | bracket => rw [Token.render, squeezed_append, squeezed_append]; rfl
  | brace =>
    cases ts with
    | nil => rfl
    | cons t ts => rw [Token.render, squeezed_append, squeezed_append]; rfl

section Written

variable {a : Attribute} {d : Delimiter} {ts : Tokens} {ps : List Path}

theorem path_of_isNamed {word : String} (h : a.isNamed word) :
    a.path = ⟨false, [.ofName word]⟩ := by
  obtain ⟨inner, ⟨rooted, is⟩, content⟩ := a
  obtain ⟨i, hi, hword⟩ := (Option.any_eq_true _ _).mp h
  obtain ⟨rfl, rfl⟩ : rooted = false ∧ is = [i] := by
    unfold Path.ident? at hi
    split at hi <;> simp_all
  obtain ⟨name, raw⟩ := i
  simp only [Ident.isWord, Bool.and_eq_true, Bool.not_eq_true', beq_iff_eq] at hword
  obtain ⟨rfl, rfl⟩ := hword
  rfl

theorem DerivesPaths.typePaths (h : DerivesPaths a d ts ps) : a.typePaths = ps.map Path.typePath :=
  h.lists.typePaths h.content h.spelled

/-- What a derive attribute is written as without spaces. -/
theorem DerivesPaths.squeezed_tokens (h : DerivesPaths a d ts ps) : squeezed a.tokens.render =
    "#[derive".toList ++ opens d :: ([','].intercalate (ps.map Path.spelling) ++
      (if endsInComma ts then [','] else []) ++ [closes d, ']']) := by
  have htokens : a.tokens = [.punct '#' false,
      .group .bracket [.ident (.ofName "derive"), .group d ts]] := by
    unfold Attribute.tokens
    rw [path_of_isNamed h.named, h.outer, h.content]
    rfl
  rw [htokens, squeezed_render, List.flatMap_cons, List.flatMap_singleton, squeezed_group,
    squeezed_render, List.flatMap_cons, List.flatMap_singleton, squeezed_group,
    h.lists.squeezed h.spelled]
  have hhash : squeezed (Token.punct '#' false).render = ['#'] := by decide +kernel
  have hname : squeezed (Token.ident (.ofName "derive")).render = "derive".toList := by
    decide +kernel
  rw [hhash, hname]
  simp [opens, closes]

/-- A list without its spaces. -/
theorem filter_list (hps : ∀ p ∈ ps, p.Spelled) :
    ([',', ' '].intercalate (ps.map Path.spelling)).filter (fun c => c ≠ ' ') =
      [','].intercalate (ps.map Path.spelling) := by
  have hkeep : ∀ p ∈ ps, p.spelling.filter (fun c => c ≠ ' ') = p.spelling := fun p hp =>
    List.filter_eq_self.mpr fun c hc => decide_eq_true fun he =>
      (hps p hp).not_mem_spelling (by decide) (by decide) (by decide) (he ▸ hc)
  cases ps with
  | nil => rfl
  | cons p ps =>
    rw [List.forall_mem_cons] at hkeep
    rw [List.map_cons, intercalate_cons, intercalate_cons, List.filter_append, hkeep.1,
      List.flatMap_map, List.flatMap_map, List.filter_flatMap]
    congr 1
    refine List.flatMap_congr fun q hq => ?_
    rw [List.filter_append, hkeep.2 q hq]
    rfl

/-- What the text of all derived paths is without spaces. -/
theorem squeezed_deriveText (hps : ∀ p ∈ ps, p.Spelled) :
    squeezed (String.ofList (deriveText ps)) =
      "#[derive".toList ++ opens .paren :: ([','].intercalate (ps.map Path.spelling) ++
        [closes .paren, ']']) := by
  unfold squeezed deriveText
  rw [String.toList_ofList, List.filter_append, List.filter_append, filter_list hps]
  rfl

end Written

/-! ## One list among several -/

/-- The length of the spellings of paths, each with a comma behind it. -/
def spread (ps : List Path) : ℕ := (ps.map fun p => p.spelling.length + 1).sum

theorem spread_append (ps qs : List Path) : spread (ps ++ qs) = spread ps + spread qs := by
  unfold spread
  rw [List.map_append, List.sum_append]

theorem eq_nil_of_spread {ps : List Path} (hps : ∀ p ∈ ps, p.Spelled) (h : spread ps ≤ 1) :
    ps = [] := by
  cases ps with
  | nil => rfl
  | cons p ps =>
    have hpos := List.length_pos_of_ne_nil (hps p List.mem_cons_self).spelling_ne_nil
    rw [spread, List.map_cons, List.sum_cons] at h
    omega

theorem length_intercalate_spelling (ps : List Path) :
    ([','].intercalate (ps.map Path.spelling)).length + (if ps = [] then 0 else 1) = spread ps := by
  cases ps with
  | nil => rfl
  | cons p ps =>
    have hrest : ((ps.map Path.spelling).flatMap fun cs => [','] ++ cs).length = spread ps := by
      rw [List.flatMap_map, List.length_flatMap]
      rfl
    rw [List.map_cons, intercalate_cons, List.length_append, hrest, spread, spread, List.map_cons,
      List.sum_cons, if_neg (List.cons_ne_nil p ps)]
    omega

/-- A list is written as a longer one exactly if nothing stands around it and no comma ends it. -/
theorem intercalate_eq_iff {before ps after : List Path} {comma : Bool}
    (hbefore : ∀ p ∈ before, p.Spelled) (hafter : ∀ p ∈ after, p.Spelled)
    (hcomma : comma → ps ≠ []) :
    [','].intercalate (ps.map Path.spelling) ++ (if comma then [','] else []) =
      [','].intercalate ((before ++ ps ++ after).map Path.spelling) ↔
    comma = false ∧ before = [] ∧ after = [] := by
  constructor
  · intro h
    have hlist := length_intercalate_spelling ps
    have hall := length_intercalate_spelling (before ++ ps ++ after)
    have hsum : spread (before ++ ps ++ after) = spread before + spread ps + spread after := by
      rw [spread_append, spread_append]
    have hlength := congrArg List.length h
    rw [List.length_append] at hlength
    have hends : (if comma then [','] else []).length ≤ if ps = [] then 0 else 1 := by
      cases comma with
      | true => simp [hcomma rfl]
      | false => exact Nat.zero_le _
    have hany : (if before ++ ps ++ after = [] then 0 else 1) ≤ 1 := by
      split_ifs <;> omega
    -- Every path around the list costs at least two characters, the comma only one.
    obtain rfl := eq_nil_of_spread hbefore (by omega)
    obtain rfl := eq_nil_of_spread hafter (by omega)
    refine ⟨?_, rfl, rfl⟩
    cases comma with
    | true => simp at hlength
    | false => rfl
  · rintro ⟨rfl, rfl, rfl⟩
    simp

/-- A derive attribute is written as one that lists more exactly if that lists nothing more, and
    the attribute is in parentheses and has no comma at its end. -/
theorem DerivesPaths.squeezed_eq_iff {a : Attribute} {d : Delimiter} {ts : Tokens}
    {before ps after : List Path} (h : DerivesPaths a d ts ps) (hbefore : ∀ p ∈ before, p.Spelled)
    (hafter : ∀ p ∈ after, p.Spelled) :
    squeezed a.tokens.render = squeezed (String.ofList (deriveText (before ++ ps ++ after))) ↔
      d = .paren ∧ endsInComma ts = false ∧ before = [] ∧ after = [] := by
  have hspelled : ∀ p ∈ before ++ ps ++ after, p.Spelled :=
    List.forall_mem_append.mpr ⟨List.forall_mem_append.mpr ⟨hbefore, h.spelled⟩, hafter⟩
  have hcomma : endsInComma ts → ps ≠ [] := by
    rintro hends rfl
    rw [(h.lists.eq_nil_iff h.spelled).mpr rfl] at hends
    cases hends
  rw [← intercalate_eq_iff hbefore hafter hcomma, h.squeezed_tokens, squeezed_deriveText hspelled,
    List.append_cancel_left_eq, List.cons_eq_cons]
  constructor
  · rintro ⟨hopens, heq⟩
    obtain rfl : d = .paren := by
      cases d with
      | paren => rfl
      | bracket => exact absurd hopens (by decide)
      | brace => exact absurd hopens (by decide)
    exact ⟨rfl, List.append_cancel_right heq⟩
  · rintro ⟨rfl, heq⟩
    rw [heq]
    exact ⟨rfl, rfl⟩

/-! ## The text of the fix -/

/-- What an enumeration of keys derives. -/
def codingKey : Path := ⟨false, [.ofName "CodingKey"]⟩

theorem spelled_codingKey : codingKey.Spelled := by decide +kernel

section Texts

variable {attrs : List Attribute} {ps : List Path}

theorem exists_typePaths (h : ∀ a ∈ attrs, ∃ d ts ps, DerivesPaths a d ts ps) : ∃ ps : List Path,
    attrs.flatMap Attribute.typePaths = ps.map Path.typePath ∧ ∀ p ∈ ps, p.Spelled := by
  induction attrs with
  | nil => exact ⟨[], rfl, fun p hp => absurd hp List.not_mem_nil⟩
  | cons a attrs ih =>
    rw [List.forall_mem_cons] at h
    obtain ⟨d, ts, ps, hderives⟩ := h.1
    obtain ⟨qs, hqs, hspelled⟩ := ih h.2
    refine ⟨ps ++ qs, ?_, List.forall_mem_append.mpr ⟨hderives.spelled, hspelled⟩⟩
    rw [List.flatMap_cons, hderives.typePaths, hqs, List.map_append]

theorem map_render (hps : ∀ p ∈ ps, p.Spelled) :
    ((ps.map Path.typePath).map TypePath.render).map String.toList = ps.map Path.spelling := by
  rw [List.map_map, List.map_map]
  exact List.map_congr_left fun p hp => (hps p hp).render_typePath

theorem text_renderDerived (hall : derivedPaths attrs = ps.map Path.typePath)
    (hps : ∀ p ∈ ps, p.Spelled) :
    "#[derive(" ++ renderDerived attrs ++ ")]" = String.ofList (deriveText ps) := by
  have hlist : (renderDerived attrs).toList = [',', ' '].intercalate (ps.map Path.spelling) := by
    rw [renderDerived, hall, String.toList_intercalate, map_render hps]
    rfl
  unfold deriveText
  rw [← String.toList_inj, String.toList_ofList, String.toList_append, String.toList_append, hlist,
    List.append_assoc]

/-- The text with one more path. -/
theorem deriveText_append (ps : List Path) (p : Path) : deriveText (ps ++ [p]) =
    "#[derive(".toList ++ [',', ' '].intercalate (ps.map Path.spelling) ++
      (if ps = [] then [] else [',', ' ']) ++ p.spelling ++ ")]".toList := by
  unfold deriveText
  cases ps with
  | nil => simp [List.intercalate_singleton]
  | cons q ps =>
    rw [List.cons_append, List.map_cons, List.map_cons, intercalate_cons, intercalate_cons,
      List.map_append, List.flatMap_append]
    simp

/-- No parenthesis is part of a list. -/
theorem paren_not_mem (hps : ∀ p ∈ ps, p.Spelled) :
    '(' ∉ [',', ' '].intercalate (ps.map Path.spelling) := by
  have hnot : ∀ p ∈ ps, '(' ∉ p.spelling := fun p hp =>
    (hps p hp).not_mem_spelling (by decide) (by decide) (by decide)
  cases ps with
  | nil => exact List.not_mem_nil
  | cons p ps =>
    rw [List.forall_mem_cons] at hnot
    rw [List.map_cons, intercalate_cons, List.flatMap_map, List.mem_append, List.mem_flatMap,
      not_or]
    refine ⟨hnot.1, ?_⟩
    rintro ⟨q, hq, hmem⟩
    rcases List.mem_append.mp hmem with hmem | hmem
    · exact absurd hmem (by decide)
    · exact hnot.2 q hq hmem

/-- Only an empty list ends in the parenthesis that begins it. -/
theorem getLast?_list_iff (hps : ∀ p ∈ ps, p.Spelled) :
    ("#[derive(".toList ++ [',', ' '].intercalate (ps.map Path.spelling)).getLast? = some '(' ↔
      ps = [] := by
  constructor
  · intro h
    by_contra hne
    have hlist : [',', ' '].intercalate (ps.map Path.spelling) ≠ [] := by
      obtain ⟨p, ps, rfl⟩ := List.exists_cons_of_ne_nil hne
      rw [List.map_cons, intercalate_cons]
      exact List.append_ne_nil_of_left_ne_nil (hps p List.mem_cons_self).spelling_ne_nil _
    rw [List.getLast?_append_of_ne_nil _ hlist] at h
    exact paren_not_mem hps (List.mem_of_getLast? h)
  · rintro rfl
    rfl

/-- The text of a list with one more path is that list with the path put in. -/
theorem addCodingKey_deriveText (hps : ∀ p ∈ ps, p.Spelled) :
    addCodingKey (String.ofList (deriveText ps)) =
      String.ofList (deriveText (ps ++ [codingKey])) := by
  let list := "#[derive(".toList ++ [',', ' '].intercalate (ps.map Path.spelling)
  have htext : deriveText ps = list ++ [')', ']'] := by
    unfold deriveText
    rw [← List.append_assoc]
    rfl
  have htake : (deriveText ps).take ((deriveText ps).length - 2) = list := by
    rw [htext, List.length_append]
    exact List.take_left
  have hdrop : (deriveText ps).drop ((deriveText ps).length - 2) = [')', ']'] := by
    rw [htext, List.length_append]
    exact List.drop_left
  have hlast : list.getLast? = some '(' ↔ ps = [] := getLast?_list_iff hps
  have hseparator : (if list.getLast? = some '(' then "" else ", ").toList =
      if ps = [] then [] else [',', ' '] := by
    simp only [hlast]
    split_ifs <;> rfl
  have hname : "CodingKey)]".toList = codingKey.spelling ++ ")]".toList := by decide +kernel
  unfold addCodingKey
  rw [String.toList_ofList]
  simp only [htake, hdrop, ne_eq, not_true, if_false]
  rw [← String.toList_inj, String.toList_ofList, deriveText_append, String.toList_append,
    String.toList_append, hseparator, String.toList_ofList, hname, ← List.append_assoc]

end Texts

/-! ## The fix -/

/-- One derive attribute lists all that is derived, in parentheses and with no comma at its end. -/
def DerivesAtOnce (attrs : List Attribute) : Prop :=
  ∃ before a after ts, derives attrs = before ++ a :: after ∧ a.content = .arguments .paren ts ∧
    endsInComma ts = false ∧ ∀ b ∈ before ++ after, b.typePaths = []

section Fix

variable {e : EnumItem} {k : Marker} {ps : List Path}

theorem first?_ofMarkedItem (hmarker : firstMarker e.attrs = some k) :
    (Declaration.ofMarkedItem (.enum e)).1.markers.first? = some k := by
  rw [Declaration.markers_ofMarkedItem, Markers.first?_ofAttributes]
  exact hmarker

/-- An enumeration that is marked as keys and derives what makes it one of keys has that role. -/
theorem role?_of_derivesCodingKey (hk : k = .modelKeys ∨ k = .migrationKeys)
    (hmarker : firstMarker e.attrs = some k) (h : derivesCodingKey e.attrs) :
    (Declaration.ofMarkedItem (.enum e)).1.role? = some k.role := by
  have hcarries : (Declaration.ofMarkedItem (.enum e)).1.Carries k := by
    rw [Declaration.carries_ofMarkedItem (i := .enum e) hmarker]
    rcases hk with rfl | rfl <;> exact h
  rw [Declaration.role?_eq_some_iff]
  rcases Declaration.role_carries (first?_ofMarkedItem hmarker) with ⟨-, hrole⟩ | ⟨hnot, -⟩
  · exact hrole
  · exact absurd hcarries hnot

theorem deriveList_ofMarkedItem (hne : derives e.attrs ≠ [])
    (hall : derivedPaths e.attrs = ps.map Path.typePath) (hps : ∀ p ∈ ps, p.Spelled) :
    (Declaration.ofMarkedItem (.enum e)).1.deriveList = some (String.ofList (deriveText ps)) := by
  have hderives : derives (unmarked e.attrs) = derives e.attrs :=
    filter_isNamed_unmarked name_ne_derive
  have hpaths : derivedPaths (unmarked e.attrs) = ps.map Path.typePath := by
    rw [← hall]
    exact congrArg (List.flatMap Attribute.typePaths) hderives
  have hlist : (Declaration.ofMarkedItem (.enum e)).1.deriveList =
      deriveAttributeText (unmarked e.attrs) := by
    show (Declaration.ofEnum e).1.deriveList = _
    unfold Declaration.ofEnum
    dsimp only
    split_ifs <;> rfl
  rw [hlist, deriveAttributeText, hderives, if_neg (by simpa using hne),
    text_renderDerived hpaths hps]

/-- An enumeration that is marked as keys and lacks what makes it one of keys is refused with a fix
    of all that it derives. -/
theorem notKeyEnum_fix (hk : k = .modelKeys ∨ k = .migrationKeys)
    (hmarker : firstMarker e.attrs = some k) (hne : derives e.attrs ≠ [])
    (hnone : derivesCodingKey e.attrs = false)
    (hall : derivedPaths e.attrs = ps.map Path.typePath) (hps : ∀ p ∈ ps, p.Spelled) :
    (Declaration.ofMarkedItem (.enum e)).1.roleProblem? =
      some ⟨.notKeyEnum k e.name.text .notDerived,
        some ⟨String.ofList (deriveText ps), String.ofList (deriveText (ps ++ [codingKey]))⟩⟩ := by
  let d := (Declaration.ofMarkedItem (.enum e)).1
  have hkind : d.kind = .enum := Declaration.kind_ofEnum e
  have hname : d.name = e.name := Declaration.name_ofMarkedItem (.enum e)
  have hconforms : d.keyEnum.any KeyEnum.conforms = false := by
    rw [← hnone]
    exact Declaration.keyEnum_ofEnum hk hmarker
  have hfix : d.codingKeyFix =
      ⟨String.ofList (deriveText ps), String.ofList (deriveText (ps ++ [codingKey]))⟩ := by
    unfold Declaration.codingKeyFix
    rw [deriveList_ofMarkedItem hne hall hps, ← addCodingKey_deriveText hps]
  have hrole : d.role = d.keyEnumRole k k.role := by
    rw [Declaration.role_of_first? (first?_ofMarkedItem hmarker)]
    rcases hk with rfl | rfl <;> rfl
  have hrefused : d.role = .error ⟨.notKeyEnum k e.name.text .notDerived, some d.codingKeyFix⟩ := by
    rw [hrole, ← hname]
    unfold Declaration.keyEnumRole
    simp only [hkind, hconforms, Bool.false_eq_true, if_false]
  rw [hfix] at hrefused
  unfold Declaration.roleProblem?
  rw [hrefused]

/-- One attribute of several is written as all of them together exactly if it derives everything,
    in parentheses and with no comma at its end. -/
theorem squeezed_eq_deriveText_iff {before after : List Attribute} {a : Attribute}
    (hwritten : ∀ b ∈ before ++ a :: after, ∃ d ts ps, DerivesPaths b d ts ps)
    (hall : (before ++ a :: after).flatMap Attribute.typePaths = ps.map Path.typePath)
    (hps : ∀ p ∈ ps, p.Spelled) :
    squeezed a.tokens.render = squeezed (String.ofList (deriveText ps)) ↔
      ∃ ts, a.content = .arguments .paren ts ∧ endsInComma ts = false ∧
        ∀ b ∈ before ++ after, b.typePaths = [] := by
  obtain ⟨hbefore, hrest⟩ := List.forall_mem_append.mp hwritten
  obtain ⟨⟨d, ts, own, hown⟩, hafter⟩ := List.forall_mem_cons.mp hrest
  obtain ⟨first, hfirst, hfirst_spelled⟩ := exists_typePaths hbefore
  obtain ⟨last, hlast, hlast_spelled⟩ := exists_typePaths hafter
  have htypes : ps.map Path.typePath = (first ++ own ++ last).map Path.typePath := by
    rw [← hall, List.flatMap_append, List.flatMap_cons, hfirst, hown.typePaths, hlast,
      List.map_append, List.map_append, List.append_assoc]
  have hspelled : ∀ p ∈ first ++ own ++ last, p.Spelled :=
    List.forall_mem_append.mpr ⟨List.forall_mem_append.mpr ⟨hfirst_spelled, hown.spelled⟩,
      hlast_spelled⟩
  have htext : deriveText ps = deriveText (first ++ own ++ last) := by
    unfold deriveText
    rw [← map_render hps, htypes, map_render hspelled]
  have hothers : (∀ b ∈ before ++ after, b.typePaths = []) ↔ first = [] ∧ last = [] := by
    rw [List.forall_mem_append, ← List.flatMap_eq_nil_iff, ← List.flatMap_eq_nil_iff, hfirst, hlast,
      List.map_eq_nil_iff, List.map_eq_nil_iff]
  rw [htext, hown.squeezed_eq_iff hfirst_spelled hlast_spelled, hothers, hown.content]
  constructor
  · rintro ⟨rfl, hrest⟩
    exact ⟨ts, rfl, hrest⟩
  · rintro ⟨ts', hcontent, hrest⟩
    cases hcontent
    exact ⟨rfl, hrest⟩

theorem derives_append_cons {before after : List Attribute} {a : Attribute}
    (ha : a.isNamed "derive") :
    derives (before ++ a :: after) = derives before ++ a :: derives after := by
  unfold derives
  rw [List.filter_append, List.filter_cons, if_pos ha]

/-- Which derive attribute stands in a place is of no account for the marker. -/
theorem firstMarker_append_cons {before after : List Attribute} {a a' : Attribute}
    (ha : a.isNamed "derive") (ha' : a'.isNamed "derive") :
    firstMarker (before ++ a' :: after) = firstMarker (before ++ a :: after) := by
  unfold firstMarker
  simp only [List.any_append, List.any_cons, isNamed_of_isNamed ha, isNamed_of_isNamed ha']

/-- Some derive attribute is written as what the fix replaces exactly if one derives everything. -/
theorem exists_squeezed_eq_iff {attrs : List Attribute}
    (hwritten : ∀ a ∈ derives attrs, ∃ d ts ps, DerivesPaths a d ts ps)
    (hall : derivedPaths attrs = ps.map Path.typePath) (hps : ∀ p ∈ ps, p.Spelled) :
    (∃ a ∈ derives attrs, squeezed a.tokens.render = squeezed (String.ofList (deriveText ps))) ↔
      DerivesAtOnce attrs := by
  have hall' : (derives attrs).flatMap Attribute.typePaths = ps.map Path.typePath := hall
  constructor
  · rintro ⟨a, ha, heq⟩
    obtain ⟨before, after, hsplit⟩ := List.append_of_mem ha
    rw [hsplit] at hwritten hall'
    obtain ⟨ts, hcontent, hends, hothers⟩ := (squeezed_eq_deriveText_iff hwritten hall' hps).mp heq
    exact ⟨before, a, after, ts, hsplit, hcontent, hends, hothers⟩
  · rintro ⟨before, a, after, ts, hsplit, halone⟩
    rw [hsplit] at hwritten hall' ⊢
    refine ⟨a, List.mem_append_cons_self, ?_⟩
    exact (squeezed_eq_deriveText_iff hwritten hall' hps).mpr ⟨ts, halone⟩

/-- Where the fix replaces an attribute, the enumeration derives one thing more and that makes it
    one of keys. -/
theorem fix_applies {before after : List Attribute} {a : Attribute}
    (hk : k = .modelKeys ∨ k = .migrationKeys)
    (hmarker : firstMarker (before ++ a :: after) = some k) (ha : a.isNamed "derive")
    (hwritten : ∀ b ∈ derives (before ++ a :: after), ∃ d ts ps, DerivesPaths b d ts ps)
    (hall : derivedPaths (before ++ a :: after) = ps.map Path.typePath) (hps : ∀ p ∈ ps, p.Spelled)
    (heq : squeezed a.tokens.render = squeezed (String.ofList (deriveText ps))) :
    ∃ a', attributesOfText (String.ofList (deriveText (ps ++ [codingKey]))) = some [a'] ∧
      derivedPaths (before ++ a' :: after) =
        derivedPaths (before ++ a :: after) ++ [codingKey.typePath] ∧
      (Declaration.ofMarkedItem (.enum { e with attrs := before ++ a' :: after })).1.role? =
        some k.role := by
  have hall' : (derives (before ++ a :: after)).flatMap Attribute.typePaths =
    ps.map Path.typePath := hall
  rw [derives_append_cons ha] at hwritten hall'
  obtain ⟨-, -, -, hothers⟩ := (squeezed_eq_deriveText_iff hwritten hall' hps).mp heq
  obtain ⟨hbefore, hafter⟩ := List.forall_mem_append.mp hothers
  have hmore : ∀ p ∈ ps ++ [codingKey], p.Spelled :=
    List.forall_mem_append.mpr ⟨hps, List.forall_mem_singleton.mpr spelled_codingKey⟩
  let a' := deriveAttribute (ps ++ [codingKey])
  have ha' : a'.isNamed "derive" := rfl
  have htypes : a'.typePaths = (ps ++ [codingKey]).map Path.typePath :=
    (lists_commaSeparated _).typePaths rfl hmore
  have hderived : derivedPaths (before ++ a' :: after) =
      derivedPaths (before ++ a :: after) ++ [codingKey.typePath] := by
    rw [hall]
    show (derives (before ++ a' :: after)).flatMap Attribute.typePaths = _
    rw [derives_append_cons ha', List.flatMap_append, List.flatMap_cons,
      List.flatMap_eq_nil_iff.mpr hbefore, List.flatMap_eq_nil_iff.mpr hafter, htypes,
      List.map_append]
    simp
  refine ⟨a', attributesOfText_derive hmore, hderived, role?_of_derivesCodingKey hk ?_ ?_⟩
  · exact (firstMarker_append_cons ha ha').trans hmarker
  · show (derivedPaths (before ++ a' :: after)).any (fun p => p.last.isWord "CodingKey") = true
    rw [hderived, List.any_append, Bool.or_eq_true]
    exact .inr rfl

end Fix

/-- The fix replaces an attribute of the enumeration exactly if one attribute derives everything, in
    parentheses and with no comma at its end. Then the enumeration derives one thing more, and that
    makes it one of keys. -/
theorem fix_of_derivesAtOnce {e : EnumItem} {k : Marker}
    (hk : k = .modelKeys ∨ k = .migrationKeys) (hmarker : firstMarker e.attrs = some k)
    (hne : derives e.attrs ≠ [])
    (hwritten : ∀ a ∈ derives e.attrs, ∃ d ts ps, DerivesPaths a d ts ps)
    (hnone : derivesCodingKey e.attrs = false) :
    ∃ fix, (Declaration.ofMarkedItem (.enum e)).1.roleProblem? =
        some ⟨.notKeyEnum k e.name.text .notDerived, some fix⟩ ∧
      ((∃ a ∈ derives e.attrs, squeezed a.tokens.render = squeezed fix.old) ↔
        DerivesAtOnce e.attrs) ∧
      ∀ before a after, e.attrs = before ++ a :: after → a.isNamed "derive" →
        squeezed a.tokens.render = squeezed fix.old →
        ∃ a', attributesOfText fix.new = some [a'] ∧
          derivedPaths (before ++ a' :: after) = derivedPaths e.attrs ++ [codingKey.typePath] ∧
          (Declaration.ofMarkedItem (.enum { e with attrs := before ++ a' :: after })).1.role? =
            some k.role := by
  obtain ⟨ps, hall, hps⟩ := exists_typePaths hwritten
  refine ⟨_, notKeyEnum_fix hk hmarker hne hnone hall hps, exists_squeezed_eq_iff hwritten hall hps,
    fun before a after hsplit ha heq => ?_⟩
  rw [hsplit] at hmarker hwritten hall ⊢
  exact fix_applies hk hmarker ha hwritten hall hps heq

/-! ## Enumerations with one list and with two -/

/-- The path that is one name. -/
def namedPath (name : String) : Path := ⟨false, [.ofName name]⟩

/-- An enumeration that is marked as the keys of a model and derives these names, list by list. -/
def markedKeys (lists : List (List String)) : EnumItem :=
  ⟨⟨false, namedPath "model_coding_key", .nothing⟩ ::
      lists.map fun names => deriveAttribute (names.map namedPath),
    .inherited, .ofName "Keys", ⟨[], none⟩, [], false⟩

theorem derives_markedKeys (lists : List (List String)) : derives (markedKeys lists).attrs =
    lists.map fun names => deriveAttribute (names.map namedPath) := by
  have hmarker : derives (markedKeys lists).attrs =
    derives (lists.map fun names => deriveAttribute (names.map namedPath)) := rfl
  rw [hmarker, derives, List.filter_eq_self]
  rintro a ha
  obtain ⟨names, -, rfl⟩ := List.mem_map.mp ha
  rfl

theorem derives_deriveAttribute {ps : List Path} (hps : ∀ p ∈ ps, p.Spelled) :
    DerivesPaths (deriveAttribute ps) .paren (commaSeparated (ps.map Path.tokens) false) ps :=
  ⟨rfl, rfl, rfl, lists_commaSeparated ps, hps⟩

/-- One list is replaced by the fix. -/
theorem fix_of_oneList : let e := markedKeys [["Clone", "Copy"]]
    ∃ fix, (Declaration.ofMarkedItem (.enum e)).1.roleProblem? =
        some ⟨.notKeyEnum .modelKeys "Keys" .notDerived, some fix⟩ ∧
      ∃ before a after, e.attrs = before ++ a :: after ∧
        squeezed a.tokens.render = squeezed fix.old ∧
        ∃ a', attributesOfText fix.new = some [a'] ∧
          (Declaration.ofMarkedItem (.enum { e with attrs := before ++ a' :: after })).1.role? =
            some .modelKeys := by
  intro e
  have hps : ∀ p ∈ ["Clone", "Copy"].map namedPath, p.Spelled := by decide +kernel
  have hderives : derives e.attrs = [deriveAttribute (["Clone", "Copy"].map namedPath)] :=
    derives_markedKeys _
  have hne : derives e.attrs ≠ [] := by
    rw [hderives]
    exact List.cons_ne_nil _ _
  have hwritten : ∀ a ∈ derives e.attrs, ∃ d ts ps, DerivesPaths a d ts ps := by
    rw [hderives]
    exact List.forall_mem_singleton.mpr ⟨_, _, _, derives_deriveAttribute hps⟩
  have hnone : derivesCodingKey e.attrs = false := by decide +kernel
  have honce : DerivesAtOnce e.attrs := ⟨[], _, [], _, hderives, rfl, rfl, by simp⟩
  obtain ⟨fix, hproblem, hold, happlies⟩ :=
    fix_of_derivesAtOnce (.inl rfl) (by decide +kernel) hne hwritten hnone
  obtain ⟨a, ha, heq⟩ := hold.mpr honce
  obtain ⟨hmem, hnamed⟩ := List.mem_filter.mp ha
  obtain ⟨before, after, hsplit⟩ := List.append_of_mem hmem
  obtain ⟨a', htext, -, hrole⟩ := happlies before a after hsplit hnamed heq
  exact ⟨fix, hproblem, before, a, after, hsplit, heq, a', htext, hrole⟩

/-- Of two lists neither is what the fix replaces. -/
theorem fix_of_twoLists : let e := markedKeys [["Debug"], ["Clone", "Copy"]]
    firstMarker e.attrs = some .modelKeys ∧ derivesCodingKey e.attrs = false ∧
    (∀ a ∈ derives e.attrs, ∃ d ts ps, DerivesPaths a d ts ps) ∧
    (Declaration.ofMarkedItem (.enum e)).1.roleProblem? =
      some ⟨.notKeyEnum .modelKeys "Keys" .notDerived, some
        ⟨"#[derive(Debug, Clone, Copy)]", "#[derive(Debug, Clone, Copy, CodingKey)]"⟩⟩ ∧
    ∀ a ∈ e.attrs, squeezed a.tokens.render ≠ squeezed "#[derive(Debug, Clone, Copy)]" := by
  intro e
  have hderives : derives e.attrs = [deriveAttribute (["Debug"].map namedPath),
    deriveAttribute (["Clone", "Copy"].map namedPath)] := derives_markedKeys _
  have hwritten : ∀ a ∈ derives e.attrs, ∃ d ts ps, DerivesPaths a d ts ps := by
    rw [hderives]
    refine List.forall_mem_cons.mpr ⟨⟨_, _, _, derives_deriveAttribute (by decide +kernel)⟩,
      List.forall_mem_singleton.mpr ⟨_, _, _, derives_deriveAttribute (by decide +kernel)⟩⟩
  have hnone : derivesCodingKey e.attrs = false := by decide +kernel
  refine ⟨by decide +kernel, hnone, hwritten, ?_, by decide +kernel⟩
  decide +kernel

end KeyedRecords.Description

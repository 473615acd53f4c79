import KeyedRecords.Proofs.Lists
import KeyedRecords.Proofs.Source.Lexer
import KeyedRecords.Proofs.Source.Reader
import KeyedRecords.Source.Arguments

/-!
# Lists of paths are read back

An attribute lists paths with commas between them, and perhaps one at the end. A
path of names without generic arguments is written, lexed and read as itself, and
so is a list of such paths. Written forms are compared without their spaces.

Results:
* `Path.Spelled.render_typePath`: what a derived path is reported as.
* `Lists.squeezed`: what a list of paths is written as.
* `Lists.typePaths`: what a list of paths is read as.
* `scans_paths`: the text of a list of paths is lexed to its tokens.
* `attributesOfText_derive`: the text of a derive attribute is read as that attribute.
-/

namespace KeyedRecords.Source

open Reader

/-! ## Written forms without spaces -/

/-- A text without its spaces. -/
def squeezed (s : String) : List Char := s.toList.filter fun c => c ≠ ' '

theorem squeezed_append (s s' : String) : squeezed (s ++ s') = squeezed s ++ squeezed s' := by
  unfold squeezed
  rw [String.toList_append, List.filter_append]

/-- Without its spaces a text is written token by token. -/
theorem squeezed_render : ∀ ts : Tokens, squeezed ts.render = ts.flatMap fun t => squeezed t.render
  | [] => rfl
  | [t] => by rw [Tokens.render, List.flatMap_singleton]
  | t :: u :: rest => by
    have hspace : squeezed (if t.isJoint then "" else " ") = [] := by
      cases t.isJoint <;> rfl
    rw [Tokens.render, squeezed_append, squeezed_append, hspace, squeezed_render (u :: rest),
      List.append_nil]
    rfl

/-! ## Paths -/

theorem joinWith_eq_intercalate (separator : Tokens) : ∀ items : List Tokens,
    joinWith separator items = separator.intercalate items
  | [] => rfl
  | [ts] => by rw [joinWith, List.intercalate_singleton]
  | ts :: us :: rest => by
    have hcons : joinWith separator (ts :: us :: rest) =
        ts ++ separator ++ joinWith separator (us :: rest) := rfl
    rw [hcons, joinWith_eq_intercalate separator (us :: rest), List.intercalate_cons_cons]

theorem joinWith_cons (separator ts : Tokens) (items : List Tokens) :
    joinWith separator (ts :: items) = ts ++ items.flatMap fun us => separator ++ us := by
  rw [joinWith_eq_intercalate, intercalate_cons]

/-- The characters of tokens with a separator between neighbours. -/
theorem flatMap_joinWith (f : Token → List Char) (separator : Tokens) (items : List Tokens) :
    (joinWith separator items).flatMap f =
      (separator.flatMap f).intercalate (items.map fun ts => ts.flatMap f) := by
  cases items with
  | nil => rfl
  | cons ts items =>
    rw [joinWith_cons, List.flatMap_append, List.flatMap_assoc, List.map_cons, intercalate_cons,
      List.flatMap_map]
    simp only [List.flatMap_append]

/-- A path as it is read from a list. -/
def Path.typePath (p : Path) : TypePath := ⟨p.tokens, p.segments.getLast?.getD (.ofName "")⟩

/-- What a path is written as without spaces. -/
def Path.spelling (p : Path) : List Char :=
  (if p.rooted then [':', ':'] else []) ++
    [':', ':'].intercalate (p.segments.map fun i => i.text.toList)

/-- A path of identifiers that are read as they are written. Keywords among them may stand in a
    path. -/
structure Path.Spelled (p : Path) : Prop where
  ne_nil : p.segments ≠ []
  names : ∀ i ∈ p.segments, i.Spelled ∧ (i.isKeyword → i.isPathWord)

instance (p : Path) : Decidable p.Spelled :=
  decidable_of_iff (p.segments ≠ [] ∧ ∀ i ∈ p.segments, i.Spelled ∧ (i.isKeyword → i.isPathWord))
    ⟨fun ⟨h1, h2⟩ => ⟨h1, h2⟩, fun h => ⟨h.ne_nil, h.names⟩⟩

/-- A name has no separators but the sign that it is raw. -/
theorem Ident.Spelled.not_mem_text {i : Ident} {c : Char} (h : i.Spelled) (hc : c ∈ separators)
    (hhash : c ≠ '#') : c ∉ i.text.toList := by
  obtain ⟨d, ds, hname, hd, -, hds⟩ := h.exists_cons
  have hnot : c ∉ i.name.toList := by
    rw [hname, String.toList_ofList, List.mem_cons, not_or]
    refine ⟨fun he => not_mem_of_startsName hd (he ▸ hc), fun hmem => ?_⟩
    exact not_mem_of_continuesName (hds c hmem) hc
  have hr : c ≠ 'r' := (ne_of_not_mem (by decide) hc).symm
  unfold Ident.text
  cases i.raw with
  | true => simp [hnot, hhash, hr]
  | false => exact hnot

section Spelling

variable {p : Path}

theorem Path.Spelled.squeezed_tokens (h : p.Spelled) :
    p.tokens.flatMap (fun t => squeezed t.render) = p.spelling := by
  have hnames : (p.segments.map Ident.tokens).map
      (fun ts => ts.flatMap fun t => squeezed t.render) = p.segments.map fun i => i.text.toList := by
    rw [List.map_map]
    refine List.map_congr_left fun i hi => ?_
    have hspace : squeezed i.text = i.text.toList := List.filter_eq_self.mpr fun c hc => by
      refine decide_eq_true fun he => ?_
      exact (h.names i hi).1.not_mem_text (by decide) (by decide) (he ▸ hc)
    simpa [Ident.tokens, Token.render] using hspace
  unfold Path.tokens Path.spelling
  rw [List.flatMap_append, flatMap_joinWith, hnames]
  cases p.rooted <;> rfl

/-- What a derived path is reported as. -/
theorem Path.Spelled.render_typePath (h : p.Spelled) : p.typePath.render.toList = p.spelling := by
  rw [← h.squeezed_tokens, ← squeezed_render]
  exact String.toList_ofList

/-- What a path of several segments is written as. -/
theorem Path.spelling_cons (rooted : Bool) (i : Ident) (is : List Ident) :
    Path.spelling ⟨rooted, i :: is⟩ = (if rooted then [':', ':'] else []) ++
      (i.text.toList ++ is.flatMap fun j => [':', ':'] ++ j.text.toList) := by
  unfold Path.spelling
  rw [List.map_cons, intercalate_cons, List.flatMap_map]

/-- No spelling is empty. -/
theorem Path.Spelled.spelling_ne_nil (h : p.Spelled) : p.spelling ≠ [] := by
  obtain ⟨rooted, is⟩ := p
  obtain ⟨i, is, rfl⟩ := List.exists_cons_of_ne_nil h.ne_nil
  obtain ⟨c, cs, htext, -⟩ := (h.names i List.mem_cons_self).1.text_cons
  rw [Path.spelling_cons, htext]
  simp

/-- The separators in a spelling are colons and the signs that names are raw. -/
theorem Path.Spelled.not_mem_spelling {c : Char} (h : p.Spelled) (hc : c ∈ separators)
    (hhash : c ≠ '#') (hcolon : c ≠ ':') : c ∉ p.spelling := by
  obtain ⟨rooted, is⟩ := p
  obtain ⟨i, is, rfl⟩ := List.exists_cons_of_ne_nil h.ne_nil
  have hnames : ∀ j ∈ i :: is, c ∉ j.text.toList := fun j hj =>
    (h.names j hj).1.not_mem_text hc hhash
  rw [List.forall_mem_cons] at hnames
  rw [Path.spelling_cons]
  simp only [List.mem_append, List.mem_flatMap, not_or, not_exists, not_and]
  refine ⟨?_, hnames.1, fun j hj => ⟨by simpa using hcolon, hnames.2 j hj⟩⟩
  cases rooted <;> simp [hcolon]

/-- The tokens of further segments. -/
def moreTokens (is : List Ident) : Tokens := is.flatMap fun i => operator "::" ++ i.tokens

theorem joinWith_segments (i : Ident) (is : List Ident) :
    joinWith (operator "::") ((i :: is).map Ident.tokens) = .ident i :: moreTokens is := by
  rw [List.map_cons, joinWith_cons, List.flatMap_map]
  rfl

/-- A path begins with a token, and its last token is a name. -/
theorem Path.Spelled.tokens_ends (h : p.Spelled) :
    (∃ t ts, p.tokens = t :: ts) ∧ ∃ ts i, p.tokens = ts ++ [.ident i] := by
  obtain ⟨rooted, is⟩ := p
  obtain ⟨i, is, rfl⟩ := List.exists_cons_of_ne_nil h.ne_nil
  have hlast : ∃ ts j, .ident i :: moreTokens is = ts ++ [.ident j] := by
    rcases List.eq_nil_or_concat is with rfl | ⟨is, j, rfl⟩
    · exact ⟨[], i, rfl⟩
    · refine ⟨.ident i :: (moreTokens is ++ operator "::"), j, ?_⟩
      simp [moreTokens, Ident.tokens]
  obtain ⟨ts, j, hts⟩ := hlast
  unfold Path.tokens
  rw [joinWith_segments]
  refine ⟨by cases rooted <;> exact ⟨_, _, rfl⟩, ?_⟩
  rw [hts]
  exact ⟨_, j, (List.append_assoc _ _ _).symm⟩

end Spelling

/-! ## Lists of paths -/

/-- Tokens that list paths: a comma follows each of them but perhaps the last. -/
inductive Lists : Tokens → List Path → Prop
  | nil : Lists [] []
  | last (p : Path) : Lists p.tokens [p]
  | comma (p : Path) (joint : Bool) {ts : Tokens} {ps : List Path} (h : Lists ts ps) :
    Lists (p.tokens ++ .punct ',' joint :: ts) (p :: ps)

theorem commaSeparated_false (items : List Tokens) :
    commaSeparated items false = joinWith (operator ",") items := List.append_nil _

theorem lists_commaSeparated (ps : List Path) :
    Lists (commaSeparated (ps.map Path.tokens) false) ps := by
  rw [commaSeparated_false]
  induction ps with
  | nil => exact .nil
  | cons p ps ih =>
    cases ps with
    | nil => exact .last p
    | cons q ps =>
      rw [joinWith_eq_intercalate] at ih ⊢
      have h := Lists.comma p false ih
      rw [List.map_cons, List.map_cons, List.intercalate_cons_cons, List.append_assoc]
      exact h

/-- Whether the last token is a comma. -/
def endsInComma (ts : Tokens) : Bool :=
  match ts.getLast? with
  | some (.punct ',' _) => true
  | _ => false

theorem endsInComma_append {us : Tokens} (ts : Tokens) (h : us ≠ []) :
    endsInComma (ts ++ us) = endsInComma us := by
  unfold endsInComma
  rw [List.getLast?_append_of_ne_nil ts h]

section Lists

variable {ts : Tokens} {ps : List Path}

theorem Lists.eq_nil_iff (h : Lists ts ps) (hps : ∀ p ∈ ps, p.Spelled) : ts = [] ↔ ps = [] := by
  cases h with
  | nil => simp
  | last p =>
    obtain ⟨⟨t, us, htokens⟩, -⟩ := (hps p List.mem_cons_self).tokens_ends
    simp [htokens]
  | comma p joint h => simp

/-- What a list of paths is written as without spaces. -/
theorem Lists.squeezed (h : Lists ts ps) (hps : ∀ p ∈ ps, p.Spelled) :
    squeezed ts.render = [','].intercalate (ps.map Path.spelling) ++
      if endsInComma ts then [','] else [] := by
  rw [squeezed_render]
  induction h with
  | nil => rfl
  | last p =>
    have hp := hps p List.mem_cons_self
    obtain ⟨-, us, i, htokens⟩ := hp.tokens_ends
    have hends : endsInComma p.tokens = false := by
      rw [htokens, endsInComma_append us (List.cons_ne_nil _ _)]
      rfl
    rw [hp.squeezed_tokens, hends, List.map_singleton, List.intercalate_singleton]
    simp
  | @comma p joint ts ps h ih =>
    obtain ⟨hp, hps⟩ := List.forall_mem_cons.mp hps
    have hends : endsInComma (p.tokens ++ .punct ',' joint :: ts) =
        (ts.isEmpty || endsInComma ts) := by
      rw [endsInComma_append _ (List.cons_ne_nil _ _)]
      cases ts with
      | nil => rfl
      | cons t ts => exact endsInComma_append [.punct ',' joint] (List.cons_ne_nil t ts)
    have hcomma : Source.squeezed (Token.punct ',' joint).render = [','] := by
      simp [Source.squeezed, Token.render]
    rw [List.flatMap_append, List.flatMap_cons, hp.squeezed_tokens, hcomma, ih hps, hends]
    cases ps with
    | nil =>
      obtain rfl := (h.eq_nil_iff hps).mpr rfl
      rw [List.map_singleton, List.intercalate_singleton]
      rfl
    | cons q ps =>
      have hne : ts ≠ [] := fun hnil => List.cons_ne_nil q ps ((h.eq_nil_iff hps).mp hnil)
      have hempty : ts.isEmpty = false := by simp [hne]
      rw [hempty, Bool.false_or, List.map_cons, List.map_cons, List.map_cons,
        List.intercalate_cons_cons]
      simp only [List.append_assoc]

end Lists

/-! ## Reading the text -/

namespace Lexes

variable {stack : OpenGroups} {taken : List Token} {rest : List Char} {ts : Tokens}

theorem ends_of_mem {c : Char} (hc : c ∈ ":,)( ".toList) : Ends (c :: rest) := by
  have hall : ∀ c ∈ ":,)( ".toList, c ∈ separators ∧ c ∉ ['"', '#', quote] :=
    List.all_iff_forall_prop.mp (by decide)
  rintro d ⟨⟩
  exact hall c hc

/-- Two colons in front of a name are one operator. -/
theorem colons {c : Char} {cs : List Char} (hc : startsName c)
    (h : Lexes stack ((operator "::").reverse ++ taken) (c :: cs) ts) :
    Lexes stack taken (':' :: ':' :: c :: cs) ts := by
  have hfirst : startsPunctuation (':' :: c :: cs) = true := rfl
  refine punct (by decide) (by decide) (by decide) ?_
  rw [hfirst]
  refine punct (by decide) (by decide) (by decide) ?_
  rw [startsPunctuation_of_startsName hc]
  exact h

/-- A comma in front of a space stands alone. -/
theorem comma (h : Lexes stack ((operator ",").reverse ++ taken) rest ts) :
    Lexes stack taken (',' :: ' ' :: rest) ts :=
  punct (by decide) (by decide) (by decide) (space h)

end Lexes

/-- A text that is read as these tokens in front of whatever ends a name. -/
def Scans (us : Tokens) (cs : List Char) : Prop :=
  ∀ (stack : OpenGroups) (taken : List Token) (rest : List Char) (ts : Tokens), Ends rest →
    Lexes stack (us.reverse ++ taken) rest ts → Lexes stack taken (cs ++ rest) ts

/-- A text that is read as these tokens in front of another one. -/
def Leads (us : Tokens) (cs ds : List Char) : Prop :=
  ∀ (stack : OpenGroups) (taken : List Token) (rest : List Char) (ts : Tokens),
    Lexes stack (us.reverse ++ taken) (ds ++ rest) ts → Lexes stack taken (cs ++ (ds ++ rest)) ts

namespace Scans

variable {us us' : Tokens} {cs cs' : List Char}

theorem append (h : Scans us cs) (h' : Scans us' cs')
    (hends : ∀ rest, Ends rest → Ends (cs' ++ rest)) : Scans (us ++ us') (cs ++ cs') := by
  intro stack taken rest ts hrest hlexes
  rw [List.reverse_append, List.append_assoc] at hlexes
  rw [List.append_assoc]
  exact h stack taken _ ts (hends rest hrest) (h' stack _ rest ts hrest hlexes)

theorem lead (h : Leads us cs cs') (h' : Scans us' cs') : Scans (us ++ us') (cs ++ cs') := by
  intro stack taken rest ts hrest hlexes
  rw [List.reverse_append, List.append_assoc] at hlexes
  rw [List.append_assoc]
  exact h stack taken rest ts (h' stack _ rest ts hrest hlexes)

variable {α : Type} {f : α → Tokens} {g : α → List Char}

theorem ends_flatMap (hends : ∀ rest, Ends (cs ++ rest)) (as : List α) {rest : List Char}
    (hrest : Ends rest) : Ends ((as.flatMap fun a => cs ++ g a) ++ rest) := by
  cases as with
  | nil => exact hrest
  | cons a as =>
    rw [List.flatMap_cons, List.append_assoc, List.append_assoc]
    exact hends _

/-- Texts that are read with a separator in front are read one by one. -/
theorem flatMap (hends : ∀ rest, Ends (cs ++ rest)) :
    ∀ {as : List α}, (∀ a ∈ as, Scans (f a) (g a)) → (∀ a ∈ as, Leads us cs (g a)) →
      Scans (as.flatMap fun a => us ++ f a) (as.flatMap fun a => cs ++ g a)
  | [], _, _ => fun _ _ _ _ _ h => h
  | a :: as, hitems, hleads => by
    rw [List.forall_mem_cons] at hitems hleads
    rw [List.flatMap_cons, List.flatMap_cons]
    exact (lead hleads.1 hitems.1).append (flatMap hends hitems.2 hleads.2) fun _ =>
      ends_flatMap hends as

/-- Texts with a separator between neighbours are read one by one. -/
theorem joined {as : List α} (hends : ∀ rest, Ends (cs ++ rest))
    (hitems : ∀ a ∈ as, Scans (f a) (g a)) (hleads : ∀ a ∈ as, Leads us cs (g a)) :
    Scans (joinWith us (as.map f)) (cs.intercalate (as.map g)) := by
  cases as with
  | nil => exact fun _ _ _ _ _ h => h
  | cons a as =>
    rw [List.forall_mem_cons] at hitems hleads
    rw [List.map_cons, List.map_cons, joinWith_cons, intercalate_cons, List.flatMap_map,
      List.flatMap_map]
    exact hitems.1.append (flatMap hends hitems.2 hleads.2) fun _ => ends_flatMap hends as

end Scans

theorem Ident.Spelled.scans {i : Ident} (h : i.Spelled) : Scans i.tokens i.text.toList :=
  fun _ _ _ _ hrest hlexes => .ident h hrest hlexes

theorem leads_colons {c : Char} {cs : List Char} (hc : startsName c) :
    Leads (operator "::") [':', ':'] (c :: cs) :=
  fun _ _ _ _ h => .colons hc h

theorem leads_comma (cs : List Char) : Leads (operator ",") [',', ' '] cs :=
  fun _ _ _ _ h => .comma h

/-- A path is read as its tokens. -/
theorem Path.Spelled.scans {p : Path} (h : p.Spelled) : Scans p.tokens p.spelling := by
  obtain ⟨rooted, is⟩ := p
  have hnames : ∀ i ∈ is, i.Spelled := fun i hi => (h.names i hi).1
  have hsegments : Scans (joinWith (operator "::") (is.map Ident.tokens))
      ([':', ':'].intercalate (is.map fun i => i.text.toList)) := by
    refine .joined (fun _ => Lexes.ends_of_mem (by decide)) (fun i hi => (hnames i hi).scans)
      fun i hi => ?_
    obtain ⟨c, cs, htext, hc, -⟩ := (hnames i hi).text_cons
    rw [htext]
    exact leads_colons hc
  cases rooted with
  | false => exact hsegments
  | true =>
    refine .lead ?_ hsegments
    obtain ⟨i, is, rfl⟩ := List.exists_cons_of_ne_nil h.ne_nil
    obtain ⟨c, cs, htext, hc, -⟩ := (hnames i List.mem_cons_self).text_cons
    rw [List.map_cons, intercalate_cons, htext]
    exact leads_colons hc

/-- A list of paths is read as its tokens. -/
theorem scans_paths {ps : List Path} (hps : ∀ p ∈ ps, p.Spelled) :
    Scans (commaSeparated (ps.map Path.tokens) false)
      ([',', ' '].intercalate (ps.map Path.spelling)) := by
  rw [commaSeparated_false]
  exact .joined (fun _ => Lexes.ends_of_mem (by decide)) (fun p hp => (hps p hp).scans)
    fun _ _ => leads_comma _

/-! ## Reading the tokens -/

/-- What may follow a path: nothing or a comma. -/
inductive EndsPath : Tokens → Prop
  | nil : EndsPath []
  | comma (joint : Bool) (rest : Tokens) : EndsPath (.punct ',' joint :: rest)

/-- What may follow a segment of a path: nothing, a comma, or another segment. -/
inductive EndsSegment : Tokens → Prop
  | nil : EndsSegment []
  | comma (joint : Bool) (rest : Tokens) : EndsSegment (.punct ',' joint :: rest)
  | colons (i : Ident) (rest : Tokens) : EndsSegment (operator "::" ++ .ident i :: rest)

theorem EndsPath.endsSegment {rest : Tokens} (h : EndsPath rest) (is : List Ident) :
    EndsSegment (moreTokens is ++ rest) := by
  cases is with
  | nil =>
    cases h with
    | nil => exact .nil
    | comma joint rest => exact .comma joint rest
  | cons i is => exact .colons i (moreTokens is ++ rest)

section Segments

variable (g : Grammar) {i : Ident} {rest : Tokens}

theorem atAngle_of_endsSegment (hrest : EndsSegment rest) :
    Grammar.atAngle rest = some (false, rest) := by
  cases hrest <;> rfl

/-- No arguments follow two colons. -/
theorem turbofish_of_endsSegment (hrest : EndsSegment rest) :
    (startsWith "::".toList rest && ((op "<" (rest.drop 2)).map Prod.fst).isSome) = false := by
  cases hrest <;> rfl

/-- A name is a segment of its own where no arguments follow. -/
theorem segment_ident (hi : i.isKeyword → i.isPathWord) (hrest : EndsSegment rest) :
    g.segment false (.ident i :: rest) = some (i.tokens, rest) := by
  unfold Grammar.segment
  simp only [bind_apply, atAnyWord_ident, Option.bind_some]
  split_ifs with hword
  · rfl
  · simp only [bind_apply, atWord_ident, Option.bind_some]
    split_ifs with hself
    · simp only [bind_apply, anyIdent_ident, atAngle_of_endsSegment hrest, Option.bind_some,
        atOp_apply, after_apply, turbofish_of_endsSegment hrest, Bool.and_false,
        Bool.false_eq_true, if_false]
      rfl
    · have hkeyword : i.isKeyword = false := by
        rw [Bool.eq_false_iff]
        intro hkeyword
        have hpath := hi hkeyword
        simp [Ident.isPathWord] at hword hself hpath
        simp [hword, hself] at hpath
      simp only [bind_apply, ident_ident _ hkeyword, atAngle_of_endsSegment hrest,
        Option.bind_some, atOp_apply, after_apply, turbofish_of_endsSegment hrest, Bool.and_false,
        Bool.false_eq_true, if_false]
      rfl

/-- Reads a segment of a path together with its name. -/
def namedSegment (g : Grammar) : Reader (Ident × Tokens) := do
  let first ← nextWord?
  let ts ← g.segment false
  match first with
  | some i => pure (i, ts)
  | none => fail

/-- Reads another segment, if there is one. -/
def segmentStep (g : Grammar) : Reader (Option (Ident × Tokens)) := do
  if (← atOp "::") && (← after 2 (groupContent .paren)).isNone then
    let _ ← op "::"
    some <$> namedSegment g
  else pure none

theorem readTypePath_eq : readTypePath g = (do
    let colons ← opIf "::"
    let first ← namedSegment g
    let rest ← steps (segmentStep g)
    pure ⟨colons ++ joinWith (operator "::") ((first :: rest).map Prod.snd),
      ((first :: rest).getLast?.map Prod.fst).getD first.1⟩) := rfl

theorem namedSegment_ident (hi : i.isKeyword → i.isPathWord) (hrest : EndsSegment rest) :
    namedSegment g (.ident i :: rest) = some ((i, i.tokens), rest) := by
  unfold namedSegment
  simp only [bind_apply, nextWord?_ident, segment_ident g hi hrest, Option.bind_some]
  rfl

theorem segmentStep_ident (hi : i.isKeyword → i.isPathWord) (hrest : EndsSegment rest) :
    segmentStep g (operator "::" ++ .ident i :: rest) = some (some (i, i.tokens), rest) := by
  have hat : atOp "::" (operator "::" ++ .ident i :: rest) =
    some (true, operator "::" ++ .ident i :: rest) := rfl
  have hafter : after 2 (groupContent .paren) (operator "::" ++ .ident i :: rest) =
    some (none, operator "::" ++ .ident i :: rest) := rfl
  have hop : op "::" (operator "::" ++ .ident i :: rest) =
    some (operator "::", .ident i :: rest) := rfl
  unfold segmentStep
  simp only [bind_apply, hat, hafter, hop, Option.bind_some, Option.isNone_none, Bool.and_true,
    if_true]
  exact map_apply _ (namedSegment_ident g hi hrest)

theorem steps_segments (hrest : EndsPath rest) :
    ∀ {is : List Ident}, (∀ i ∈ is, i.isKeyword → i.isPathWord) →
      Steps (segmentStep g) (moreTokens is ++ rest) (is.map fun i => (i, i.tokens)) rest
  | [], _ => by
    refine .done ?_
    cases hrest <;> rfl
  | i :: is, his => by
    rw [List.forall_mem_cons] at his
    have hcons : moreTokens (i :: is) ++ rest =
        operator "::" ++ .ident i :: (moreTokens is ++ rest) := rfl
    rw [hcons]
    refine .more (segmentStep_ident g his.1 (hrest.endsSegment is)) ?_
      (steps_segments hrest his.2)
    simp only [List.length_append, List.length_cons]
    omega

end Segments

/-- A path is read as itself. -/
theorem readTypePath_tokens (g : Grammar) {p : Path} {rest : Tokens} (hp : p.Spelled)
    (hrest : EndsPath rest) : readTypePath g (p.tokens ++ rest) = some (p.typePath, rest) := by
  obtain ⟨rooted, is⟩ := p
  obtain ⟨i, is, rfl⟩ := List.exists_cons_of_ne_nil hp.ne_nil
  have hnames : ∀ j ∈ i :: is, j.isKeyword → j.isPathWord := fun j hj => (hp.names j hj).2
  rw [List.forall_mem_cons] at hnames
  have hcolons : opIf "::" (Path.tokens ⟨rooted, i :: is⟩ ++ rest) =
      some (if rooted then operator "::" else [], .ident i :: (moreTokens is ++ rest)) := by
    unfold Path.tokens
    rw [joinWith_segments]
    cases rooted with
    | false => exact opIf_of_not_startsWith rfl
    | true => exact opIf_of_startsWith rfl
  have hsegment := namedSegment_ident g hnames.1 (hrest.endsSegment is)
  have hsteps := (steps_segments g hrest hnames.2).steps
  have hread : ((i, i.tokens) :: is.map fun j => (j, j.tokens)) =
      (i :: is).map fun j => (j, j.tokens) := rfl
  rw [readTypePath_eq]
  simp only [bind_apply, hcolons, hsegment, hsteps, Option.bind_some, hread, List.map_map,
    List.getLast?_map]
  simp only [Path.typePath, Path.tokens, List.getLast?_cons, Option.map_some, Option.getD_some]
  rfl

section Lists

variable {ts : Tokens} {ps : List Path}

theorem Lists.exists_steps (h : Lists ts ps) (g : Grammar) (hps : ∀ p ∈ ps, p.Spelled) :
    ∃ items : List (TypePath × Bool), items.map Prod.fst = ps.map Path.typePath ∧
      Steps (separatedStep (readTypePath g)) ts items [] := by
  induction h with
  | nil => exact ⟨[], rfl, .done rfl⟩
  | last p =>
    have hp := hps p List.mem_cons_self
    have hread := readTypePath_tokens g hp .nil
    obtain ⟨⟨t, ts, htokens⟩, -⟩ := hp.tokens_ends
    rw [List.append_nil, htokens] at hread
    rw [htokens]
    exact ⟨[(p.typePath, false)], rfl,
      .more (separatedStep_last hread) (Nat.succ_pos _) (.done rfl)⟩
  | @comma p joint rest ps h ih =>
    obtain ⟨hp, hps⟩ := List.forall_mem_cons.mp hps
    obtain ⟨items, hitems, hsteps⟩ := ih hps
    have hread := readTypePath_tokens g hp (.comma joint rest)
    obtain ⟨⟨t, ts, htokens⟩, -⟩ := hp.tokens_ends
    rw [htokens] at hread ⊢
    refine ⟨(p.typePath, true) :: items, by rw [List.map_cons, List.map_cons, hitems],
      .more (separatedStep_comma hread) ?_ hsteps⟩
    rw [List.length_append, List.length_cons, List.length_cons]
    omega

/-- A list of paths is read as those paths. -/
theorem Lists.typePaths {a : Attribute} {d : Delimiter} (hcontent : a.content = .arguments d ts)
    (h : Lists ts ps) (hps : ∀ p ∈ ps, p.Spelled) : a.typePaths = ps.map Path.typePath := by
  obtain ⟨items, hitems, hsteps⟩ := h.exists_steps (Rules.forTokens ts).grammar hps
  unfold Attribute.typePaths
  simp only [hcontent, separated_eq_steps, hsteps.steps, hitems]

end Lists

/-! ## A derive attribute -/

/-- The attribute that derives these paths. -/
def deriveAttribute (ps : List Path) : Attribute :=
  ⟨false, ⟨false, [.ofName "derive"]⟩, .arguments .paren (commaSeparated (ps.map Path.tokens) false)⟩

/-- The text of that attribute. -/
def deriveText (ps : List Path) : List Char :=
  "#[derive(".toList ++ ([',', ' '].intercalate (ps.map Path.spelling) ++ ")]".toList)

section Derive

variable {ps : List Path}

theorem ofText_derive (hps : ∀ p ∈ ps, p.Spelled) :
    Tokens.ofText (String.ofList (deriveText ps)) = some (deriveAttribute ps).tokens := by
  let content := commaSeparated (ps.map Path.tokens) false
  have hclosing : Lexes [(.paren, [.ident (.ofName "derive")]), (.bracket, [.punct '#' false])]
      (content.reverse ++ []) ")]".toList (deriveAttribute ps).tokens := by
    refine .closed rfl (.closed rfl ?_)
    rw [List.append_nil, List.reverse_reverse]
    exact .done
  have hlist := scans_paths hps _ _ _ _ (Lexes.ends_of_mem (by decide)) hclosing
  have hname : (Ident.ofName "derive").Spelled := by decide +kernel
  have hlexes : Lexes [] [] (deriveText ps) (deriveAttribute ps).tokens := by
    refine .punct (by decide) (by decide) (by decide) (.opened rfl ?_)
    exact .ident hname (Lexes.ends_of_mem (by decide)) (.opened rfl hlist)
  unfold Tokens.ofText
  rw [String.toList_ofList]
  exact hlexes _ (Nat.lt_succ_self _)

/-- Reads another attribute, if there is one. -/
def attributeStep (g : Grammar) : Reader (Option Attribute) := do
  if ← atOp "#" then
    let _ ← op "#"
    some <$> inGroup .bracket (readAttributeBody g false)
  else pure none

theorem readAttributes_derive (g : Grammar) :
    readAttributes g (deriveAttribute ps).tokens = some ([deriveAttribute ps], []) := by
  let body := Token.group .bracket [.ident (.ofName "derive"),
    .group .paren (commaSeparated (ps.map Path.tokens) false)]
  have hat : atOp "#" (deriveAttribute ps).tokens = some (true, (deriveAttribute ps).tokens) := rfl
  have hop : op "#" (deriveAttribute ps).tokens = some (operator "#", [body]) := rfl
  have hread : inGroup .bracket (readAttributeBody g false) [body] =
      some (deriveAttribute ps, []) := inGroup_group rfl
  have hstep : attributeStep g (deriveAttribute ps).tokens =
      some (some (deriveAttribute ps), []) := by
    unfold attributeStep
    simp only [bind_apply, hat, hop, Option.bind_some, if_true]
    exact map_apply _ hread
  exact (Steps.more hstep (Nat.succ_pos _) (.done rfl)).steps

/-- The text of a derive attribute is read as that attribute. -/
theorem attributesOfText_derive (hps : ∀ p ∈ ps, p.Spelled) :
    attributesOfText (String.ofList (deriveText ps)) = some [deriveAttribute ps] := by
  unfold attributesOfText readText
  simp only [ofText_derive hps, Option.bind_eq_bind, Option.bind_some, readAttributes_derive]
  rfl

end Derive

end KeyedRecords.Source

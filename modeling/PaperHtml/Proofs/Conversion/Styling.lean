import PaperHtml.Conversion.Markdown
import PaperHtml.Proofs.Math.Parts
import PaperHtml.Proofs.Text.Interleaving
import PaperHtml.Proofs.Text.Seams

/-!
# Fonts and the gaps in a text

Fonts and addresses are set in prose with tokens in it.  A token may stand inside
an argument, and several of them may; the prose around the tokens becomes other
prose, but which one does not depend on the tokens, and these stay where they are
(`keepsTokens_styleProse`, `KeepsTokens.exists_interleave`).

## Strategy

A `Style` reads an opening, an argument and a closing brace, and writes two marks
around the argument.  All of this is of characters that stand in no token, so it
makes no difference whether the gaps in a text are filled with tokens before or
after a style is set (`Style.run_fillGaps`).  A style moves no gap and makes
none, and its marks keep apart what it pulls together, so that no token comes
about where none was.
-/

namespace PaperHtml.Conversion.Markdown

open Text Latex Math

/-! ## Styles -/

/-- A font or an address: commands whose plain argument is put between two marks. -/
structure Style where
  scan : Scanner Text
  openings : List Text
  before : Text
  after : Text
  opening_ne_nil : ∀ opening ∈ openings, opening ≠ []
  before_ne_nil : before ≠ []
  after_ne_nil : after ≠ []
  scan_eq_some_iff : ∀ t out rest, scan t = some (out, rest) ↔
    ∃ opening ∈ openings, ∃ argument, '}' ∉ argument ∧
      t = opening ++ (argument ++ '}' :: rest) ∧ out = before ++ (argument ++ after)

theorem argument?_eq_some_iff {t argument rest : Text} :
    argument? t = some (argument, rest) ↔
      '}' ∉ argument ∧ t = '{' :: (argument ++ '}' :: rest) := by
  constructor
  · intro h
    unfold argument? at h
    split at h
    · obtain ⟨rfl, hclosed⟩ := cutChar?_eq_some h
      exact ⟨hclosed, rfl⟩
    · simp at h
  · rintro ⟨hclosed, rfl⟩
    exact cutChar?_append hclosed rest

theorem withArgument_eq_some_iff {name t out rest : Text} {render : Text → Text} :
    withArgument name render t = some (out, rest) ↔
      ∃ argument, '}' ∉ argument ∧ t = '\\' :: name ++ ['{'] ++ (argument ++ '}' :: rest) ∧
        out = render argument := by
  simp only [withArgument, dropCommand?, Option.bind_eq_some_iff, Option.map_eq_some_iff,
    dropPrefix?_eq_some_iff]
  constructor
  · rintro ⟨behind, rfl, ⟨argument, after⟩, hargument, heq⟩
    obtain ⟨rfl, rfl⟩ := Prod.mk.inj heq
    obtain ⟨hclosed, rfl⟩ := argument?_eq_some_iff.mp hargument
    exact ⟨argument, hclosed, by simp, rfl⟩
  · rintro ⟨argument, hclosed, rfl, rfl⟩
    exact ⟨'{' :: (argument ++ '}' :: rest), by simp, (argument, rest),
      argument?_eq_some_iff.mpr ⟨hclosed, rfl⟩, rfl⟩

theorem emphasis_eq_some_iff {t out rest : Text} :
    emphasis t = some (out, rest) ↔
      withArgument "emph".toList (enclose ['*']) t = some (out, rest) ∨
        withArgument "textit".toList (enclose ['*']) t = some (out, rest) := by
  rw [emphasis, withArgument, withArgument]
  cases hfirst : dropCommand? "emph".toList t with
  | none => simp
  | some behind =>
      -- what begins with the one name does not begin with the other
      have hsecond : dropCommand? "textit".toList t = none := by
        rw [dropPrefix?_eq_some_iff.mp hfirst]
        rfl
      rw [Option.some_or, hsecond, Option.bind_none]
      simp

section Arguments

variable {scan : Scanner Text} {openings : List Text} {render : Text → Text}
  (hscan : ∀ t out rest, scan t = some (out, rest) ↔
    ∃ opening ∈ openings, ∃ argument, '}' ∉ argument ∧
      t = opening ++ (argument ++ '}' :: rest) ∧ out = render argument)

include hscan

/-- A command with its argument is replaced, and the scan goes on behind it. -/
theorem substitute_argument {opening argument : Text} (hopening : opening ∈ openings)
    (hclosed : '}' ∉ argument) (rest : Text) :
    Scanner.substitute scan (opening ++ (argument ++ '}' :: rest)) =
      render argument ++ Scanner.substitute scan rest := by
  have hsource : opening ++ (argument ++ '}' :: rest) = opening ++ (argument ++ ['}']) ++ rest := by
    simp
  have hfound := (hscan _ _ _).mpr ⟨opening, hopening, argument, hclosed, hsource.symm, rfl⟩
  rw [hsource]
  exact Scanner.substitute_append_of_some (by simp) hfound

/-- What holds of a text and of the text with every command replaced. -/
theorem argument_induction {motive : Text → Text → Prop} (nil : motive [] [])
    (pass : ∀ c rest, scan (c :: rest) = none → motive rest (Scanner.substitute scan rest) →
      motive (c :: rest) (c :: Scanner.substitute scan rest))
    (found : ∀ opening ∈ openings, ∀ argument, '}' ∉ argument → ∀ rest,
      motive rest (Scanner.substitute scan rest) →
        motive (opening ++ (argument ++ '}' :: rest))
          (render argument ++ Scanner.substitute scan rest))
    (t : Text) : motive t (Scanner.substitute scan t) := by
  refine Scanner.substitute_induction ?_ nil pass ?_ t
  · intro t out rest h
    obtain ⟨opening, hopening, argument, -, rfl, -⟩ := (hscan _ _ _).mp h
    exact ⟨opening ++ (argument ++ ['}']), by simp, by simp⟩
  · intro source out rest _ hhere hrest
    obtain ⟨opening, hopening, argument, hclosed, hsource, rfl⟩ := (hscan _ _ _).mp hhere
    rw [hsource]
    exact found opening hopening argument hclosed rest hrest

end Arguments

namespace Style

/-- A command whose plain argument is put between two marks. -/
def ofCommand (name before after : Text) (hbefore : before ≠ []) (hafter : after ≠ []) : Style where
  scan := withArgument name fun argument => before ++ argument ++ after
  openings := ['\\' :: name ++ ['{']]
  before := before
  after := after
  opening_ne_nil := List.forall_mem_singleton.mpr (List.cons_ne_nil _ _)
  before_ne_nil := hbefore
  after_ne_nil := hafter
  scan_eq_some_iff := fun t out rest => by
    rw [withArgument_eq_some_iff]
    simp

/-- Emphasis, which goes by two names. -/
def emphasis : Style where
  scan := Markdown.emphasis
  openings := ["\\emph\x7b".toList, "\\textit\x7b".toList]
  before := ['*']
  after := ['*']
  opening_ne_nil := by decide
  before_ne_nil := List.cons_ne_nil _ _
  after_ne_nil := List.cons_ne_nil _ _
  scan_eq_some_iff := fun t out rest => by
    rw [emphasis_eq_some_iff, withArgument_eq_some_iff, withArgument_eq_some_iff]
    simp [enclose]

/-- The characters that a style reads or writes of its own. -/
def chars (style : Style) : Text :=
  style.openings.flatten ++ '}' :: (style.before ++ style.after)

/-- A text after a style. -/
def run (style : Style) (t : Text) : Text := Scanner.substitute style.scan t

variable (style : Style)

/-- What holds of a text and of the text after a style. -/
theorem run_induction {motive : Text → Text → Prop} (nil : motive [] [])
    (pass : ∀ c rest, style.scan (c :: rest) = none → motive rest (style.run rest) →
      motive (c :: rest) (c :: style.run rest))
    (found : ∀ opening ∈ style.openings, ∀ argument, '}' ∉ argument → ∀ rest,
      motive rest (style.run rest) →
        motive (opening ++ (argument ++ '}' :: rest))
          (style.before ++ (argument ++ (style.after ++ style.run rest))))
    (t : Text) : motive t (style.run t) := by
  refine argument_induction style.scan_eq_some_iff nil pass ?_ t
  intro opening hopening argument hclosed rest hrest
  simpa [run] using found opening hopening argument hclosed rest hrest

theorem run_append_of_found {opening : Text} (hopening : opening ∈ style.openings)
    {argument : Text} (hclosed : '}' ∉ argument) (rest : Text) :
    style.run (opening ++ (argument ++ '}' :: rest)) =
      style.before ++ (argument ++ (style.after ++ style.run rest)) := by
  rw [run, substitute_argument style.scan_eq_some_iff hopening hclosed, List.append_assoc,
    List.append_assoc, run]

theorem run_cons_of_none {c : Char} {rest : Text} (h : style.scan (c :: rest) = none) :
    style.run (c :: rest) = c :: style.run rest := Scanner.substitute_cons_of_none h

/-! ## Gaps -/

variable {gap : Char}

theorem not_mem_opening {c : Char} (hc : c ∉ style.chars) {opening : Text}
    (hopening : opening ∈ style.openings) : c ∉ opening := fun hmem =>
  hc (List.mem_append_left _ (List.mem_flatten.mpr ⟨opening, hopening, hmem⟩))

theorem ne_brace {c : Char} (hc : c ∉ style.chars) : c ≠ '}' := fun heq =>
  hc (List.mem_append_right _ (heq ▸ List.mem_cons_self ..))

theorem not_mem_before {c : Char} (hc : c ∉ style.chars) : c ∉ style.before := fun hmem =>
  hc (List.mem_append_right _ (List.mem_cons_of_mem _ (List.mem_append_left _ hmem)))

theorem not_mem_after {c : Char} (hc : c ∉ style.chars) : c ∉ style.after := fun hmem =>
  hc (List.mem_append_right _ (List.mem_cons_of_mem _ (List.mem_append_right _ hmem)))

/-- A style goes by what holds none of its characters. -/
theorem goesBy_of_foreign {t : Text} (ht : ∀ c ∈ t, c ∉ style.chars) (rest : Text) :
    style.scan.GoesBy t rest := by
  intro back hback hne
  rw [Option.eq_none_iff_forall_ne_some]
  rintro ⟨out, after⟩ hfound
  obtain ⟨opening, hopening, argument, -, hsplit, -⟩ := (style.scan_eq_some_iff _ _ _).mp hfound
  obtain ⟨c, back, rfl⟩ := List.exists_cons_of_ne_nil hne
  obtain ⟨d, opening, rfl⟩ := List.exists_cons_of_ne_nil (style.opening_ne_nil opening hopening)
  have hfront : c = d := (List.cons.inj hsplit).1
  exact style.not_mem_opening (ht c (hback.subset (List.mem_cons_self ..))) hopening
    (hfront ▸ List.mem_cons_self ..)

/-- Fillings that hold none of the characters of a style. -/
def Foreign (fillings : List Text) : Prop :=
  ∀ filling ∈ fillings, filling ≠ [] ∧ ∀ c ∈ filling, c ∉ style.chars

variable {style}

theorem Foreign.drop {fillings : List Text} (h : style.Foreign fillings) (count : Nat) :
    style.Foreign (fillings.drop count) := fun filling hfilling =>
  h filling (List.mem_of_mem_drop hfilling)

theorem Foreign.brace_not_mem {fillings : List Text} (h : style.Foreign fillings) :
    ∀ filling ∈ fillings, '}' ∉ filling := fun filling hfilling hmem =>
  style.ne_brace ((h filling hfilling).2 _ hmem) rfl

/-- Nothing is recognised in a text with its gaps filled where nothing was before. -/
theorem scan_fillGaps_eq_none (hgap : gap ∉ style.chars) {fillings : List Text}
    (hfillings : style.Foreign fillings) {t : Text} (h : style.scan t = none) :
    style.scan (fillGaps gap fillings t) = none := by
  by_contra hsome
  obtain ⟨⟨out, after⟩, hfound⟩ := Option.ne_none_iff_exists'.mp hsome
  obtain ⟨opening, hopening, argument, -, hsplit, -⟩ := (style.scan_eq_some_iff _ _ _).mp hfound
  have hgapOpening := style.not_mem_opening hgap hopening
  -- the opening and the brace were there before, since no filling holds their characters
  obtain ⟨rest, rfl⟩ : opening <+: t := by
    refine prefix_of_prefix_fillGaps hgapOpening
      (fun filling hfilling => (hfillings filling hfilling).1) (fun filling hfilling c hc => ?_)
      ⟨_, hsplit.symm⟩
    exact style.not_mem_opening ((hfillings filling hfilling).2 c hc) hopening
  rw [fillGaps_append_of_not_mem hgapOpening, List.append_cancel_left_eq] at hsplit
  have hfilled : '}' ∈ fillGaps gap fillings rest := by
    rw [hsplit]
    exact List.mem_append_right _ (List.mem_cons_self ..)
  have hbrace : '}' ∈ rest := mem_of_mem_fillGaps hfillings.brace_not_mem hfilled
  obtain ⟨before, behind, rfl, hclosed⟩ := List.eq_append_cons_of_mem hbrace
  have hhere : style.scan (opening ++ (before ++ '}' :: behind)) =
      some (style.before ++ (before ++ style.after), behind) :=
    (style.scan_eq_some_iff _ _ _).mpr ⟨opening, hopening, before, hclosed, rfl, rfl⟩
  rw [h] at hhere
  exact absurd hhere.symm (Option.some_ne_none _)

/-- It makes no difference whether gaps are filled before or after a style is set. -/
theorem run_fillGaps (hgap : gap ∉ style.chars) {fillings : List Text}
    (hfillings : style.Foreign fillings) (t : Text) :
    style.run (fillGaps gap fillings t) = fillGaps gap fillings (style.run t) := by
  refine style.run_induction (motive := fun t u => ∀ fillings, style.Foreign fillings →
    style.run (fillGaps gap fillings t) = fillGaps gap fillings u) ?_ ?_ ?_ t fillings hfillings
  · exact fun fillings _ => rfl
  · intro c rest hnone ih fillings hfillings
    by_cases hc : c = gap
    · subst hc
      have hforeign : ∀ d ∈ fillings.headD [c], d ∉ style.chars := by
        cases fillings with
        | nil => exact List.forall_mem_singleton.mpr hgap
        | cons filling fillings => exact (hfillings filling (List.mem_cons_self ..)).2
      have htail : style.Foreign fillings.tail := fun filling hfilling =>
        hfillings filling (List.mem_of_mem_tail hfilling)
      have hpassed := Scanner.substitute_append_of_passed
        (style.goesBy_of_foreign hforeign (fillGaps c fillings.tail rest))
      rw [fillGaps, if_pos rfl, fillGaps, if_pos rfl, ← ih _ htail]
      exact hpassed
    · have hkept := scan_fillGaps_eq_none hgap hfillings hnone
      rw [fillGaps_cons hc] at hkept ⊢
      rw [style.run_cons_of_none hkept, ih fillings hfillings, fillGaps_cons hc]
  · intro opening hopening argument hclosed rest ih fillings hfillings
    have hfilled : '}' ∉ fillGaps gap fillings argument := fun hmem =>
      hclosed (mem_of_mem_fillGaps hfillings.brace_not_mem hmem)
    have hbrace : gap ≠ '}' := style.ne_brace hgap
    have hmore := ih (fillings.drop (argument.count gap)) (hfillings.drop _)
    rw [fillGaps_append_of_not_mem (style.not_mem_opening hgap hopening), fillGaps_append,
      fillGaps_cons hbrace.symm, style.run_append_of_found hopening hfilled, hmore,
      fillGaps_append_of_not_mem (style.not_mem_before hgap), fillGaps_append,
      fillGaps_append_of_not_mem (style.not_mem_after hgap)]

/-- A style makes no gap and loses none. -/
theorem count_run (hgap : gap ∉ style.chars) (t : Text) :
    (style.run t).count gap = t.count gap := by
  refine style.run_induction (motive := fun t u => u.count gap = t.count gap) rfl ?_ ?_ t
  · intro c rest _ ih
    rw [List.count_cons, List.count_cons, ih]
  · intro opening hopening argument _ rest ih
    have hbrace : '}' ≠ gap := (style.ne_brace hgap).symm
    simp only [List.count_append, List.count_cons_of_ne hbrace, ih, Nat.zero_add,
      List.count_eq_zero.mpr (style.not_mem_before hgap),
      List.count_eq_zero.mpr (style.not_mem_after hgap),
      List.count_eq_zero.mpr (style.not_mem_opening hgap hopening)]

/-! ## Marks -/

/-- A mark of other characters than those of a style stands at the front only if it did before. -/
theorem prefix_of_prefix_run {mark : Text} (hmark : ∀ c ∈ mark, c ∉ style.chars) {t : Text}
    (h : mark <+: style.run t) : mark <+: t := by
  refine style.run_induction (motive := fun t u => ∀ mark : Text, (∀ c ∈ mark, c ∉ style.chars) →
    mark <+: u → mark <+: t) ?_ ?_ ?_ t mark hmark h
  · exact fun mark _ h => h
  · intro c rest _ ih mark hmark h
    cases mark with
    | nil => exact List.nil_prefix
    | cons d mark =>
        rw [List.cons_prefix_cons] at h ⊢
        exact ⟨h.1, ih mark (fun e he => hmark e (List.mem_cons_of_mem _ he)) h.2⟩
  · intro opening _ argument _ rest _ mark hmark h
    cases mark with
    | nil => exact List.nil_prefix
    | cons d mark =>
        obtain ⟨e, before, hbefore⟩ := List.exists_cons_of_ne_nil style.before_ne_nil
        rw [hbefore, List.cons_append, List.cons_prefix_cons] at h
        have hfront : d ∈ style.before := by
          rw [hbefore, h.1]
          exact List.mem_cons_self ..
        exact absurd hfront (style.not_mem_before (hmark d (List.mem_cons_self ..)))

/-- Such a mark comes about nowhere: what stood around an opening or a brace is kept apart by the
marks of the style. -/
theorem infix_of_infix_run {mark : Text} (hne : mark ≠ []) (hmark : ∀ c ∈ mark, c ∉ style.chars)
    {t : Text} (h : mark <:+: style.run t) : mark <:+: t := by
  refine style.run_induction (motive := fun t u => mark <:+: u → mark <:+: t) ?_ ?_ ?_ t h
  · exact id
  · intro c rest hnone ih h
    rcases List.infix_cons_iff.mp h with hfront | hinside
    · rw [← style.run_cons_of_none hnone] at hfront
      exact (prefix_of_prefix_run hmark hfront).isInfix
    · exact (ih hinside).trans (List.suffix_cons c rest).isInfix
  · intro opening _ argument _ rest ih h
    have hbefore : ∀ c ∈ style.before, c ∉ mark := fun c hc hmem =>
      style.not_mem_before (hmark c hmem) hc
    have hafter : ∀ c ∈ style.after, c ∉ mark := fun c hc hmem =>
      style.not_mem_after (hmark c hmem) hc
    have hinside := infix_of_infix_foreign_append hne hbefore h
    have hargument : argument <:+: opening ++ (argument ++ '}' :: rest) :=
      ⟨opening, '}' :: rest, by simp⟩
    have hrest : rest <:+: opening ++ (argument ++ '}' :: rest) :=
      ⟨opening ++ (argument ++ ['}']), [], by simp⟩
    obtain ⟨e, after, heq⟩ := List.exists_cons_of_ne_nil style.after_ne_nil
    rw [heq] at hafter hinside
    rw [List.cons_append] at hinside
    obtain ⟨he, hafter⟩ := List.forall_mem_cons.mp hafter
    rcases infix_append_cons he hinside with hhere | hbehind
    · exact hhere.trans hargument
    · exact (ih (infix_of_infix_foreign_append hne hafter hbehind)).trans hrest

end Style

/-! ## Tokens -/

/-- A change of a text that leaves the tokens in its gaps where they are and makes no other
ones. -/
structure KeepsTokens (edit : Text → Text) : Prop where
  fillGaps_eq : ∀ (numbers : List Nat) (t : Text),
    edit (fillGaps '$' (numbers.map token) t) = fillGaps '$' (numbers.map token) (edit t)
  count_eq : ∀ t, (edit t).count '$' = t.count '$'
  unmarked : ∀ t, TextPart.Unmarked t → TextPart.Unmarked (edit t)

namespace KeepsTokens

theorem comp {edit next : Text → Text} (hnext : KeepsTokens next) (h : KeepsTokens edit) :
    KeepsTokens fun t => next (edit t) where
  fillGaps_eq numbers t := by rw [h.fillGaps_eq, hnext.fillGaps_eq]
  count_eq t := by rw [hnext.count_eq, h.count_eq]
  unmarked t ht := hnext.unmarked _ (h.unmarked t ht)

/-- Between tokens such a change makes other pieces of the pieces, whatever the numbers of the
tokens. -/
theorem exists_interleave {edit : Text → Text} (h : KeepsTokens edit) {first : Text}
    {behind : List Text} (hfirst : '$' ∉ first) (hbehind : ∀ piece ∈ behind, '$' ∉ piece)
    (hunmarked : TextPart.Unmarked (gapped '$' first behind)) :
    ∃ first' behind', behind'.length = behind.length ∧ TextPart.Unmarked first' ∧
      (∀ piece ∈ behind', TextPart.Unmarked piece) ∧
      ∀ numbers : List Nat, numbers.length = behind.length →
        edit (interleave first (numbers.map token) behind) =
          interleave first' (numbers.map token) behind' := by
  obtain ⟨first', behind', hedit, hfirst', hbehind', hlength⟩ :=
    exists_gapped '$' (edit (gapped '$' first behind))
  rw [h.count_eq, count_gapped hfirst hbehind] at hlength
  have hunmarked' := h.unmarked _ hunmarked
  rw [hedit] at hunmarked'
  refine ⟨first', behind', hlength, hunmarked'.within (first_infix_gapped _ _ _),
    fun piece hpiece => hunmarked'.within (piece_infix_gapped _ _ hpiece),
    fun numbers hnumbers => ?_⟩
  have htokens : (numbers.map token).length = behind.length := by rw [List.length_map, hnumbers]
  calc edit (interleave first (numbers.map token) behind)
      = edit (fillGaps '$' (numbers.map token) (gapped '$' first behind)) := by
        rw [fillGaps_gapped hfirst hbehind htokens]
    _ = fillGaps '$' (numbers.map token) (gapped '$' first' behind') := by
        rw [h.fillGaps_eq, hedit]
    _ = interleave first' (numbers.map token) behind' :=
        fillGaps_gapped hfirst' hbehind' (htokens.trans hlength.symm)

end KeepsTokens

theorem keepsTokens_run {style : Style}
    (hstyle : ∀ c ∈ style.chars, isTokenChar c = false ∧ c ≠ '$') : KeepsTokens style.run := by
  have hgap : '$' ∉ style.chars := fun hmem => (hstyle _ hmem).2 rfl
  have htoken {c : Char} (hc : isTokenChar c = true) : c ∉ style.chars := fun hmem => by
    rw [(hstyle c hmem).1] at hc
    exact absurd hc Bool.false_ne_true
  refine ⟨fun numbers t => ?_, Style.count_run hgap, fun t ht => ⟨fun hat => ?_, fun hword => ?_⟩⟩
  · have hforeign : style.Foreign (numbers.map token) :=
      List.forall_mem_map.mpr fun number _ =>
        ⟨token_ne_nil number, fun c hc => htoken (isTokenChar_of_mem_token hc)⟩
    exact Style.run_fillGaps hgap hforeign t
  · have hmark : ∀ c ∈ ['@'], c ∉ style.chars :=
      List.forall_mem_singleton.mpr (htoken (by decide))
    have hinfix : ['@'] <:+: style.run t := by
      obtain ⟨before, after, hsplit⟩ := List.append_of_mem hat
      exact ⟨before, after, by simp [hsplit]⟩
    have hthere := Style.infix_of_infix_run (List.cons_ne_nil _ _) hmark hinfix
    exact ht.at_not_mem (hthere.subset (List.mem_singleton_self _))
  · have hmark : ∀ c ∈ tokenWord, c ∉ style.chars := fun c hc =>
      htoken (by simp [isTokenChar, hc])
    exact ht.word_absent (Style.infix_of_infix_run (by decide) hmark hword)

/-! ## Fonts and addresses -/

/-- The styles in the order in which they are set. -/
def styles : List Style :=
  [.ofCommand "texttt".toList ['`'] ['`'] (List.cons_ne_nil _ _) (List.cons_ne_nil _ _),
    .ofCommand "textbf".toList ['*', '*'] ['*', '*'] (List.cons_ne_nil _ _) (List.cons_ne_nil _ _),
    .emphasis,
    .ofCommand "url".toList ['<'] ['>'] (List.cons_ne_nil _ _) (List.cons_ne_nil _ _)]

theorem styleProse_eq (t : Text) : styleProse t = styles.foldl (fun t style => style.run t) t := rfl

/-- Setting fonts and addresses leaves tokens where they are. -/
theorem keepsTokens_styleProse : KeepsTokens styleProse := by
  have hstyles : ∀ style ∈ styles, KeepsTokens style.run := by
    have hchars : ∀ style ∈ styles,
        style.chars.all (fun c => !isTokenChar c && c != '$') = true := by decide
    intro style hstyle
    refine keepsTokens_run fun c hc => ?_
    simpa using List.all_eq_true.mp (hchars style hstyle) c hc
  have hfold (list : List Style) (hlist : ∀ style ∈ list, KeepsTokens style.run) :
      KeepsTokens fun t => list.foldl (fun t style => style.run t) t := by
    induction list with
    | nil => exact ⟨fun _ _ => rfl, fun _ => rfl, fun _ => id⟩
    | cons style list ih =>
        obtain ⟨hstyle, hrest⟩ := List.forall_mem_cons.mp hlist
        exact (ih hrest).comp hstyle
  rw [funext styleProse_eq]
  exact hfold styles hstyles

end PaperHtml.Conversion.Markdown

import PaperHtml.Proofs.Citation.Document
import PaperHtml.Proofs.Conversion.Arguments
import PaperHtml.Proofs.Conversion.Fences
import PaperHtml.Proofs.Conversion.Listing
import PaperHtml.Proofs.Conversion.Prose

/-!
# Names of theorems

The opening mark of a theorem may carry a name in brackets, which is shown in the
label of the theorem.  The name ends at the first closing bracket.  A name can
hold brackets of its own, and the link of a citation in it brings brackets in,
since a reference is shown by its number in brackets.

## Strategy

On the way to the pass for theorems nothing but the links changes such a text
(`toMarkdown_eq_theorems`), and the pass writes the label with the name up to the
first closing bracket and goes by the rest (`flattenTheorems_named`).  In the text
that is wanted another character stands where the code closes the label, and
neither of the two is a blank, so the limit on blank lines does not make the two
texts equal (`printed`).
-/

namespace PaperHtml.Conversion

open Text Latex Citation

/-! ## Theorems with names -/

/-- The marks of several kinds of environments. -/
def theoremMarks (kinds : List TheoremKind) : List Text :=
  kinds.flatMap fun kind =>
    environmentMarks "begin".toList kind.env ++ environmentMarks "end".toList kind.env

/-- The opening mark of an environment with a name. -/
def namedOpening (kind : TheoremKind) (starred : Bool) (name t : Text) : Text :=
  environmentMark "begin".toList kind.env starred ++ '[' :: (name ++ ']' :: t)

/-- The label of an environment without the stop at its end. -/
def labelStem (kind : TheoremKind) : Text := (kind.label.reverse.dropWhile (· = '.')).reverse

/-- A table of environments no two of which are opened alike, with labels that end in a stop. -/
structure IsTable (kinds : List TheoremKind) : Prop where
  nodup : (kinds.map TheoremKind.env).Nodup
  marks : ∀ mark ∈ theoremMarks kinds, IsMark mark ∧ '[' ∉ mark ∧ ']' ∉ mark ∧ ')' ∉ mark ∧
    '.' ∉ mark
  opening : ∀ kind ∈ kinds, ∀ starred, IsMark (environmentMark "begin".toList kind.env starred)
  apart : ∀ kind ∈ kinds, ∀ other ∈ kinds, ∀ starred,
    (kind.env ≠ other.env → ∀ mark ∈ environmentMarks "begin".toList other.env,
      ¬ mark <+: environmentMark "begin".toList kind.env starred ∧
        ¬ environmentMark "begin".toList kind.env starred <+: mark) ∧
    ∀ mark ∈ environmentMarks "end".toList other.env,
      ¬ mark <+: environmentMark "begin".toList kind.env starred ∧
        ¬ environmentMark "begin".toList kind.env starred <+: mark
  label : ∀ kind ∈ kinds, kind.label = labelStem kind ++ ['.'] ∧ '\\' ∉ labelStem kind

theorem isTable_markdown : IsTable Markdown.theoremKinds := by
  constructor <;> decide

theorem isTable_plain : IsTable Plain.theoremKinds := by
  constructor <;> decide

variable {kinds : List TheoremKind} {kind : TheoremKind} {render : Text → Text}

/-- The commands that the steps for a kind of environment look for. -/
theorem absent_theoremSteps (render : Text → Text) {t : Text} (h : FreeOf (theoremMarks kinds) t) :
    ∀ step ∈ theoremSteps render kinds, step.Absent t := by
  intro step hstep
  obtain ⟨kind, hkind, hmem⟩ := List.mem_flatMap.mp hstep
  have hmarks {mark : Text} (hmark : mark ∈ environmentMarks "begin".toList kind.env ++
      environmentMarks "end".toList kind.env) : ¬ mark <:+: t :=
    h mark (List.mem_flatMap.mpr ⟨kind, hkind, hmark⟩)
  rw [List.mem_cons, List.mem_singleton] at hmem
  rcases hmem with rfl | rfl
  · exact fun mark hmark => hmarks (List.mem_append_left _ hmark)
  · exact fun mark hmark => hmarks (List.mem_append_right _ hmark)

/-- The opening mark of a theorem is read with its name up to the first closing bracket. -/
theorem run_theoremOpening (starred : Bool) {name after : Text} (hname : ']' ∉ name)
    (hafter : FreeOf (environmentMarks "begin".toList kind.env) after) :
    (Step.every (.theoremOpening render kind)).run (namedOpening kind starred name after) =
      render (namedLabel kind.label name) ++ after := by
  have hbegin : dropBegin? kind.env (namedOpening kind starred name after) =
      some ('[' :: (name ++ ']' :: after)) := dropEnvironmentName?_mark ..
  have hnote : note? ('[' :: (name ++ ']' :: after)) = some (name, after) :=
    cutChar?_append hname after
  have hfound : (Reader.theoremOpening render kind).scan (namedOpening kind starred name after) =
      some (render (namedLabel kind.label name), after) := by
    change ((dropBegin? kind.env (namedOpening kind starred name after)).map _).map _ = _
    rw [hbegin, Option.map_some, hnote]
    rfl
  have hsource : namedOpening kind starred name after =
      (environmentMark "begin".toList kind.env starred ++ '[' :: (name ++ [']'])) ++ after := by
    simp [namedOpening]
  rw [hsource] at hfound ⊢
  exact (Scanner.substitute_append_of_some (by simp) hfound).trans
    (congrArg _ (ArgumentReader.substitute_of_freeOf hafter))

theorem freeOf_namedOpening {earlier later : List TheoremKind} {t : Text} {starred : Bool}
    (hkinds : IsTable (earlier ++ kind :: later))
    (ht : FreeOf (theoremMarks (earlier ++ kind :: later)) t) :
    FreeOf (theoremMarks earlier) (environmentMark "begin".toList kind.env starred ++ t) := by
  have hsubset : theoremMarks earlier ⊆ theoremMarks (earlier ++ kind :: later) := by
    rw [theoremMarks, theoremMarks, List.flatMap_append]
    exact List.subset_append_left _ _
  have hkind : kind ∈ earlier ++ kind :: later := by simp
  refine FreeOf.command_append (fun mark hmark => (hkinds.marks mark (hsubset hmark)).1)
    (hkinds.opening kind hkind starred) (fun mark hmark => ?_) (ht.of_subset hsubset)
  obtain ⟨other, hother, hmem⟩ := List.mem_flatMap.mp hmark
  obtain ⟨hbegin, hend⟩ := hkinds.apart kind hkind other (List.mem_append_left _ hother) starred
  rcases List.mem_append.mp hmem with hmem | hmem
  · refine hbegin (fun heq => ?_) mark hmem
    have hnodup := hkinds.nodup
    rw [List.map_append, List.map_cons] at hnodup
    exact List.disjoint_of_nodup_append hnodup (List.mem_map_of_mem hother)
      (heq ▸ List.mem_cons_self ..)
  · exact hend mark hmem

/-- A theorem with a name gets a label with the name up to the first closing bracket, and what
follows the bracket stays. -/
theorem flattenTheorems_named (hkinds : IsTable kinds) (hkind : kind ∈ kinds) (starred : Bool)
    {name after : Text} (hname : ']' ∉ name)
    (hfree : FreeOf (theoremMarks kinds) ('[' :: (name ++ ']' :: after)))
    (hlabel : FreeOf (theoremMarks kinds) (render (namedLabel kind.label name) ++ after)) :
    flattenTheorems render kinds (namedOpening kind starred name after) =
      render (namedLabel kind.label name) ++ after := by
  obtain ⟨earlier, later, rfl, -⟩ := List.eq_append_cons_of_mem hkind
  have hsteps : theoremSteps render (earlier ++ kind :: later) = theoremSteps render earlier ++
      .every (.theoremOpening render kind) ::
        .every (.theoremClosing kind) :: theoremSteps render later := by
    simp [theoremSteps]
  have hearlier := absent_theoremSteps render (@freeOf_namedOpening _ _ _ _ starred hkinds hfree)
  have hlater : ∀ step ∈ .every (.theoremClosing kind) :: theoremSteps render later,
      step.Absent (render (namedLabel kind.label name) ++ after) := fun step hstep =>
    absent_theoremSteps render hlabel step (by simp [hsteps, List.mem_cons.mp hstep])
  have hown : FreeOf (environmentMarks "begin".toList kind.env) after := by
    refine (hfree.of_infix ?_).of_subset ?_
    · exact ⟨'[' :: (name ++ [']']), [], by simp⟩
    · intro mark hmark
      exact List.mem_flatMap.mpr ⟨kind, hkind, List.mem_append_left _ hmark⟩
  rw [← runSteps_theoremSteps, hsteps, runSteps_append, namedOpening,
    runSteps_of_absent hearlier, ← namedOpening, runSteps_cons,
    run_theoremOpening starred hname hown, runSteps_of_absent hlater]

/-! ## Names with citations -/

/-- A name with the links of its citations. -/
def linkedName (style : LinkStyle) (numbers : Numbering) (name : Document) : Text :=
  name.render fun command => linkKeys style numbers command.cited

/-- A name without commands but citations, all of keys that have a number. -/
structure IsName (numbers : Numbering) (name : Document) : Prop where
  opening : '\\' ∉ name.opening.text
  rest : ∀ part ∈ name.rest, '\\' ∉ part.2.text
  keys : ∀ key ∈ name.cited, '\\' ∉ key
  numbered : ∀ key ∈ name.cited, (numbers.get? key).isSome

/-- What stands in front of the link of a key. -/
def linkFront : LinkStyle → Text
  | .markdown => []
  | .latex => "\\href".toList

theorem backslash_not_mem_escape {t : Text} (h : '\\' ∉ t) : '\\' ∉ Html.escape t := by
  induction t with
  | nil => simp [Html.escape_nil]
  | cons c t ih =>
      rw [List.mem_cons, not_or] at h
      rw [Html.escape_cons, List.mem_append, not_or]
      refine ⟨?_, ih h.2⟩
      by_cases hc : c ∈ Html.markupChars
      · simp only [Html.markupChars, List.mem_cons, List.not_mem_nil, or_false] at hc
        rcases hc with rfl | rfl | rfl | rfl | rfl <;> decide
      · simpa [Html.escapeChar_of_not_mem hc] using h.1

theorem backslash_not_mem_slug (key : Text) : '\\' ∉ slug key := fun hmem =>
  absurd (isSlugChar_of_mem_slug hmem) (by decide)

theorem backslash_not_mem_mark (number : Int) : '\\' ∉ mark number := fun hmem =>
  absurd (mark_cases hmem) (by decide)

/-- The link of a key shows its number in brackets, and holds no backslash but the first character
of what stands in front of it. -/
theorem exists_link_eq (style : LinkStyle) {key : Text} (hkey : '\\' ∉ key) (number : Int) :
    ∃ behind, link style key (slug key) (some number) = linkFront style ++ behind ∧
      '\\' ∉ behind ∧ ']' ∈ behind := by
  have hshown : ']' ∈ mark number := by simp [mark]
  cases style with
  | markdown =>
      have hopen : '\\' ∉ "<a class=\"citation\" href=\"#ref-".toList := by decide
      have hclass : '\\' ∉ "\" data-cite-key=\"".toList := by decide
      have hend : '\\' ∉ "\">".toList := by decide
      have hclose : '\\' ∉ "</a>".toList := by decide
      refine ⟨link .markdown key (slug key) (some number), (List.nil_append _).symm, ?_, ?_⟩
      · delta link
        simp only [List.mem_append, not_or]
        exact ⟨⟨⟨⟨⟨⟨hopen, backslash_not_mem_slug key⟩, hclass⟩, backslash_not_mem_escape hkey⟩,
          hend⟩, backslash_not_mem_mark number⟩, hclose⟩
      · delta link
        exact List.mem_append_left _ (List.mem_append_right _ hshown)
  | latex =>
      have hplace : '\\' ∉ braced ("#ref-".toList ++ slug key) := by
        have hfront : '\\' ∉ "#ref-".toList := by decide
        simp only [braced, List.cons_append, List.mem_cons, List.mem_append, not_or]
        exact ⟨by decide, ⟨hfront, backslash_not_mem_slug key⟩, by decide, List.not_mem_nil⟩
      have hbraced : '\\' ∉ braced (mark number) := by
        simp [braced, backslash_not_mem_mark]
      refine ⟨braced ("#ref-".toList ++ slug key) ++ braced (mark number),
        List.append_assoc .., ?_, ?_⟩
      · rw [List.mem_append, not_or]
        exact ⟨hplace, hbraced⟩
      · exact List.mem_append_right _ (List.mem_append_left _ (List.mem_cons_of_mem _ hshown))

/-- Linking replaces the citations between stretches of prose. -/
theorem linkAll_parts (style : LinkStyle) (numbers : Numbering) {opening t : Text}
    {rest : List (WrittenCommand × Chunk)} (hopening : '\\' ∉ opening)
    (hrest : ∀ part ∈ rest, '\\' ∉ part.2.text) (ht : '\\' ∉ t) :
    linkAll style numbers
        (opening ++ (rest.flatMap (fun part => part.1.source ++ part.2.text) ++ t)) =
      opening ++ (rest.flatMap (fun part => linkKeys style numbers part.1.cited ++ part.2.text) ++
        t) := by
  have hpassed {front : Text} (hfront : '\\' ∉ front) (behind : Text) :
      linkAll style numbers (front ++ behind) = front ++ linkAll style numbers behind :=
    ((isScan_citation style numbers).goesBy hfront behind).run_append
  rw [hpassed hopening]
  congr 1
  induction rest with
  | nil => exact linkAll_of_prose style numbers ht
  | cons part rest ih =>
      obtain ⟨hpart, hmore⟩ := List.forall_mem_cons.mp hrest
      have hne : part.1.source ≠ [] := by simp [WrittenCommand.source, citeMark]
      have hfound (behind : Text) : (Reader.citation style numbers).scan
          (part.1.source ++ behind) = some (linkKeys style numbers part.1.cited, behind) := by
        change (command? (part.1.source ++ behind)).map _ = _
        rw [part.1.command?_source]
        rfl
      simp only [List.flatMap_cons, List.append_assoc]
      exact (Scanner.substitute_append_of_some hne (hfound _)).trans
        (congrArg _ ((hpassed hpart _).trans (congrArg _ (ih hmore))))

variable {style : LinkStyle} {numbers : Numbering} {name : Document} {t : Text}

/-- Linking the citations of a name leaves the rest of the text. -/
theorem linkAll_namedOpening (hkinds : IsTable kinds) (hkind : kind ∈ kinds) (starred : Bool)
    (hname : IsName numbers name) (ht : '\\' ∉ t) :
    linkAll style numbers (namedOpening kind starred name.source t) =
      namedOpening kind starred (linkedName style numbers name) t := by
  have hapart : (Reader.citation style numbers).Apart
      (environmentMark "begin".toList kind.env starred) := fun mark hmark => by
    obtain rfl := List.mem_singleton.mp hmark
    simp [IsMark, environmentMark]
  have hpassed := hapart.goesBy (t := []) (hkinds.opening kind hkind starred) List.not_mem_nil
    ('[' :: (name.source ++ ']' :: t))
  rw [List.append_nil] at hpassed
  have hlinked := @linkAll_parts style numbers ('[' :: name.opening.text) (']' :: t) name.rest
    (by simp [hname.opening]) hname.rest (by simp [ht])
  have hbehind : linkAll style numbers ('[' :: (name.source ++ ']' :: t)) =
      '[' :: (linkedName style numbers name ++ ']' :: t) := by
    simpa [linkedName, Document.source, Document.render] using hlinked
  exact (Scanner.substitute_append_of_passed hpassed).trans (congrArg _ hbehind)

/-! ## Marks in a name -/

/-- A text that brings no mark about in front of another text. -/
def Harmless (marks : List Text) (t : Text) : Prop :=
  ∀ rest, FreeOf marks rest → FreeOf marks (t ++ rest)

theorem Harmless.append {marks : List Text} {t u : Text} (ht : Harmless marks t)
    (hu : Harmless marks u) : Harmless marks (t ++ u) := fun rest hrest => by
  rw [List.append_assoc]
  exact ht _ (hu rest hrest)

theorem harmless_of_prose {marks : List Text} (hmarks : ∀ mark ∈ marks, IsMark mark) {t : Text}
    (ht : '\\' ∉ t) : Harmless marks t := fun _ hrest => FreeOf.prose_append hmarks ht hrest

theorem harmless_of_apart {marks : List Text} {opening : Text} (hopening : IsMark opening)
    (hmarks : ∀ mark ∈ marks, IsMark mark ∧ ¬ mark <+: opening ∧ ¬ opening <+: mark) :
    Harmless marks opening := fun _ hrest =>
  FreeOf.command_append (fun mark hmark => (hmarks mark hmark).1) hopening
    (fun mark hmark => (hmarks mark hmark).2) hrest

/-- The links of cited keys bring no mark about, and hold a closing bracket if there are any. -/
theorem harmless_linkKeys {marks : List Text} (hmarks : ∀ mark ∈ marks, IsMark mark)
    {style : LinkStyle} (hstyle : Harmless marks (linkFront style)) {keys : List Text}
    (hkeys : ∀ key ∈ keys, '\\' ∉ key) (hnumbered : ∀ key ∈ keys, (numbers.get? key).isSome) :
    Harmless marks (linkKeys style numbers keys) ∧
      (']' ∈ linkKeys style numbers keys ↔ keys ≠ []) := by
  have hlink {key : Text} (hkey : '\\' ∉ key) (hnumber : (numbers.get? key).isSome) :
      Harmless marks (link style key (slug key) (numbers.get? key)) ∧
        ']' ∈ link style key (slug key) (numbers.get? key) := by
    obtain ⟨number, hnumber⟩ := Option.isSome_iff_exists.mp hnumber
    obtain ⟨behind, hlink, hprose, hshown⟩ := exists_link_eq style hkey number
    rw [hnumber, hlink]
    exact ⟨hstyle.append (harmless_of_prose hmarks hprose),
      List.mem_append_right _ hshown⟩
  induction keys with
  | nil => exact ⟨fun _ hrest => hrest, by simp [linkKeys, join]⟩
  | cons key keys ih =>
      obtain ⟨hkey, hmore⟩ := List.forall_mem_cons.mp hkeys
      obtain ⟨hnumber, hnumbered⟩ := List.forall_mem_cons.mp hnumbered
      obtain ⟨hhere, hshown⟩ := hlink hkey hnumber
      cases keys with
      | nil =>
          have hone : linkKeys style numbers [key] =
              link style key (slug key) (numbers.get? key) := by simp [linkKeys, join]
          rw [hone]
          exact ⟨hhere, by simp [hshown]⟩
      | cons next keys =>
          have hseveral : linkKeys style numbers (key :: next :: keys) =
              link style key (slug key) (numbers.get? key) ++
                ([';', ' '] ++ linkKeys style numbers (next :: keys)) := by
            simp [linkKeys, join]
          rw [hseveral]
          refine ⟨hhere.append ((harmless_of_prose hmarks (by decide)).append
            (ih hmore hnumbered).1), ?_⟩
          simp [hshown]

theorem cited_subset {part : WrittenCommand × Chunk} (hpart : part ∈ name.rest) :
    part.1.cited ⊆ name.cited := fun _ hkey => List.mem_flatMap.mpr ⟨part, hpart, hkey⟩

theorem harmless_linkedName {marks : List Text} (hmarks : ∀ mark ∈ marks, IsMark mark)
    {style : LinkStyle} (hstyle : Harmless marks (linkFront style)) (hname : IsName numbers name) :
    Harmless marks (linkedName style numbers name) := by
  have hrest : ∀ part ∈ name.rest,
      Harmless marks (linkKeys style numbers part.1.cited ++ part.2.text) := fun part hpart =>
    have hcited := cited_subset hpart
    (harmless_linkKeys hmarks hstyle (fun key hkey => hname.keys key (hcited hkey))
      fun key hkey => hname.numbered key (hcited hkey)).1.append
        (harmless_of_prose hmarks (hname.rest part hpart))
  refine (harmless_of_prose hmarks hname.opening).append ?_
  generalize name.rest = parts at hrest
  induction parts with
  | nil => exact fun _ hrest => hrest
  | cons part parts ih =>
      obtain ⟨hpart, hmore⟩ := List.forall_mem_cons.mp hrest
      exact hpart.append (ih hmore)

/-- A name with its links holds no closing bracket exactly if it cites nothing and there is none
in its texts. -/
theorem bracket_not_mem_linkedName_iff (style : LinkStyle) (hname : IsName numbers name) :
    ']' ∉ linkedName style numbers name ↔
      name.cited = [] ∧ ']' ∉ name.opening.text ∧ ∀ part ∈ name.rest, ']' ∉ part.2.text := by
  have hlinks : ∀ part ∈ name.rest,
      (']' ∉ linkKeys style numbers part.1.cited ↔ part.1.cited = []) := by
    intro part hpart
    have hcited := cited_subset hpart
    have hshown := (@harmless_linkKeys numbers [] (by simp) style (fun _ _ => by simp [FreeOf])
      part.1.cited
      (fun key hkey => hname.keys key (hcited hkey))
      fun key hkey => hname.numbered key (hcited hkey)).2
    rw [hshown, not_not]
  simp only [linkedName, Document.render, Document.cited, List.mem_append, List.mem_flatMap,
    List.flatMap_eq_nil_iff, not_or, not_exists, not_and]
  constructor
  · rintro ⟨hopening, hrest⟩
    exact ⟨fun part hpart => (hlinks part hpart).mp (hrest part hpart).1, hopening,
      fun part hpart => (hrest part hpart).2⟩
  · rintro ⟨hcited, hopening, hrest⟩
    exact ⟨hopening, fun part hpart =>
      ⟨(hlinks part hpart).mpr (hcited part hpart), hrest part hpart⟩⟩

theorem backslash_not_mem_linkedName (hname : IsName numbers name) :
    '\\' ∉ linkedName .markdown numbers name := by
  have hfree := @harmless_linkedName numbers name [['\\']] (by decide) .markdown
    (fun _ hrest => hrest) hname [] (by decide)
  rw [List.append_nil] at hfree
  intro hmem
  obtain ⟨before, after, hsplit⟩ := List.append_of_mem hmem
  exact hfree ['\\'] (List.mem_singleton_self _) ⟨before, after, by simp [hsplit]⟩

/-! ## The characters of a label -/

theorem namedLabel_of_ne_nil {name : Text} (h : name ≠ []) :
    namedLabel kind.label name = labelStem kind ++ ([' ', '('] ++ (trim name ++ [')', '.'])) := by
  simp [namedLabel, h, labelStem]

/-- A label with a name that ends at a closing bracket differs in more than blanks from the label
with a longer name. -/
theorem printed_namedLabel_ne (hlabel : kind.label = labelStem kind ++ ['.']) {u v : Text}
    (behind other : Text) :
    printed (namedLabel kind.label u ++ behind) ≠
      printed (namedLabel kind.label (u ++ ']' :: v) ++ other) := by
  intro h
  rw [printed_append, printed_append, @namedLabel_of_ne_nil kind (u ++ ']' :: v) (by simp)] at h
  by_cases hu : u = []
  · rw [hu, namedLabel, if_pos rfl, hlabel] at h
    simp only [printed_append, List.append_assoc, List.append_cancel_left_eq] at h
    exact absurd (List.cons.inj h).1 (by decide)
  · rw [namedLabel_of_ne_nil hu] at h
    simp only [printed_append, printed_trim, List.append_assoc, List.append_cancel_left_eq] at h
    exact absurd (List.cons.inj h).1 (by decide)

/-! ## The pass for theorems behind the links -/

variable {opening closing : Text}

/-- A label with a name free of the marks brings none of them about. -/
theorem freeOf_label (hkinds : IsTable kinds) (hkind : kind ∈ kinds)
    (hrender : ∀ label, render label = opening ++ (label ++ closing))
    (hopening : Harmless (theoremMarks kinds) opening) (hclosing : '\\' ∉ closing)
    {shown after : Text} (hshown : FreeOf (theoremMarks kinds) shown)
    (hafter : FreeOf (theoremMarks kinds) after) :
    FreeOf (theoremMarks kinds) (render (namedLabel kind.label shown) ++ after) := by
  have hmarks : ∀ mark ∈ theoremMarks kinds, IsMark mark :=
    fun mark hmark => (hkinds.marks mark hmark).1
  obtain ⟨hlabel, hstem⟩ := hkinds.label kind hkind
  have hclosed : FreeOf (theoremMarks kinds) (closing ++ after) :=
    FreeOf.prose_append hmarks hclosing hafter
  rw [hrender, List.append_assoc]
  refine hopening _ ?_
  by_cases hnil : shown = []
  · rw [hnil, namedLabel, if_pos rfl, hlabel, List.append_assoc]
    exact FreeOf.prose_append hmarks (by simp [hstem]) hclosed
  · have hgap : ∀ mark ∈ theoremMarks kinds, ∀ c ∈ [')', '.'], c ∉ mark := by
      intro mark hmark
      obtain ⟨-, -, -, hbracket, hstop⟩ := hkinds.marks mark hmark
      simp [hbracket, hstop]
    have hbehind : FreeOf (theoremMarks kinds) (trim shown ++ ([')', '.'] ++ (closing ++ after))) :=
      FreeOf.append_foreign_append (List.cons_ne_nil _ _) hgap hmarks
        (hshown.of_infix (infix_of_trim shown)) hclosed
    have hfront : '\\' ∉ labelStem kind ++ [' ', '('] := by simp [hstem]
    have hall := FreeOf.prose_append hmarks hfront hbehind
    simpa [namedLabel_of_ne_nil hnil] using hall

/-- Behind the links the pass for theorems writes a label with the name up to the first closing
bracket. -/
theorem exists_flattenTheorems_linkAll (hkinds : IsTable kinds) (hkind : kind ∈ kinds)
    (starred : Bool) (hrender : ∀ label, render label = opening ++ (label ++ closing))
    (hopening : Harmless (theoremMarks kinds) opening) (hclosing : '\\' ∉ closing)
    (hstyle : Harmless (theoremMarks kinds) (linkFront style)) (hname : IsName numbers name)
    (ht : '\\' ∉ t) :
    ∃ u v, ']' ∉ u ∧ linkedName style numbers name ++ ']' :: t = u ++ ']' :: v ∧
      flattenTheorems render kinds
        (linkAll style numbers (namedOpening kind starred name.source t)) =
          render (namedLabel kind.label u) ++ v := by
  have hmarks : ∀ mark ∈ theoremMarks kinds, IsMark mark :=
    fun mark hmark => (hkinds.marks mark hmark).1
  have hmem : ']' ∈ linkedName style numbers name ++ ']' :: t := by simp
  obtain ⟨u, v, hsplit, hu⟩ := List.eq_append_cons_of_mem hmem
  have hfree : FreeOf (theoremMarks kinds) (u ++ ']' :: v) :=
    hsplit ▸ harmless_linkedName hmarks hstyle hname _ (FreeOf.of_prose hmarks (by simp [ht]))
  refine ⟨u, v, hu, hsplit, ?_⟩
  rw [linkAll_namedOpening hkinds hkind starred hname ht, namedOpening, hsplit, ← namedOpening]
  refine flattenTheorems_named hkinds hkind starred hu ?_ ?_
  · exact harmless_of_prose hmarks (t := ['[']) (by decide) _ hfree
  · exact freeOf_label hkinds hkind hrender hopening hclosing (hfree.of_infix ⟨[], ']' :: v, rfl⟩)
      (hfree.of_infix ⟨u ++ [']'], [], by simp⟩)

/-- A name is followed by the first closing bracket, or holds it. -/
theorem whole_or_cut {shown u v : Text} (hu : ']' ∉ u)
    (h : shown ++ ']' :: t = u ++ ']' :: v) :
    (']' ∉ shown ∧ u = shown ∧ v = t) ∨ ∃ more, shown = u ++ ']' :: more := by
  by_cases hmem : ']' ∈ shown
  · obtain ⟨first, more, rfl, hfirst⟩ := List.eq_append_cons_of_mem hmem
    have hcut := cutChar?_append hfirst (more ++ ']' :: t)
    rw [List.append_assoc, List.cons_append] at h
    rw [h, cutChar?_append hu] at hcut
    obtain rfl : u = first := congrArg Prod.fst (Option.some.inj hcut)
    exact .inr ⟨more, rfl⟩
  · have hcut := cutChar?_append hmem t
    rw [h, cutChar?_append hu] at hcut
    obtain ⟨rfl, rfl⟩ := Prod.mk.inj (Option.some.inj hcut)
    exact .inl ⟨hmem, rfl, rfl⟩

/-- The label that is written is the one with the whole name exactly if the name holds no closing
bracket, also if blanks do not count. -/
theorem label_eq_iff (hlabel : kind.label = labelStem kind ++ ['.'])
    (hrender : ∀ label, render label = opening ++ (label ++ closing)) {shown u v : Text}
    (hu : ']' ∉ u) (h : shown ++ ']' :: t = u ++ ']' :: v) :
    (render (namedLabel kind.label u) ++ v = render (namedLabel kind.label shown) ++ t ↔
      ']' ∉ shown) ∧
    (printed (render (namedLabel kind.label u) ++ v) =
      printed (render (namedLabel kind.label shown) ++ t) ↔ ']' ∉ shown) := by
  rcases whole_or_cut hu h with ⟨hclosed, rfl, rfl⟩ | ⟨more, rfl⟩
  · exact ⟨iff_of_true rfl hclosed, iff_of_true rfl hclosed⟩
  · have hopen : ¬ ']' ∉ u ++ ']' :: more := by simp
    have hne : printed (render (namedLabel kind.label u) ++ v) ≠
        printed (render (namedLabel kind.label (u ++ ']' :: more)) ++ t) := by
      rw [hrender, hrender, List.append_assoc, List.append_assoc, List.append_assoc,
        List.append_assoc, printed_append, printed_append opening]
      exact fun heq => printed_namedLabel_ne hlabel _ _ (List.append_cancel_left heq)
    exact ⟨iff_of_false (fun heq => hne (congrArg printed heq)) hopen, iff_of_false hne hopen⟩

/-! ## The passes in front of the pass for theorems -/

/-- A body with nothing for the steps between the links and the theorems comes to the theorems as
it is, but for its links. -/
theorem toMarkdown_eq_theorems {body : Text} (hcomments : Step.comments.Absent body)
    (hcolumns : ∀ step ∈ twoColumnSteps, step.Absent (linkAll .markdown numbers body))
    (hblocks : ∀ step ∈ Markdown.commandSteps, step.Absent (linkAll .markdown numbers body))
    (hfonts : Markdown.textStyles (linkAll .markdown numbers body) =
      linkAll .markdown numbers body)
    (hlate : '\\' ∉ Markdown.theorems (linkAll .markdown numbers body)) :
    toMarkdown numbers body =
      collapseBlankLines (Markdown.theorems (linkAll .markdown numbers body)) := by
  have herased : eraseComments body = body := Step.run_of_absent hcomments
  rw [toMarkdown_eq_commandSteps, herased, ← runSteps_twoColumnSteps, runSteps_of_absent hcolumns,
    runSteps_of_absent hblocks, hfonts, Markdown.lateSteps, runSteps_append,
    runSteps_theoremSteps, ← Markdown.theorems, runSteps_of_prose (by decide) hlate]

theorem apart_commandSteps : ∀ kind ∈ Markdown.theoremKinds, ∀ starred,
    ∀ step ∈ .every (.literal "\\twocolumn[".toList []) :: Markdown.commandSteps,
      step.Apart (environmentMark "begin".toList kind.env starred) := by
  decide

/-! ## Whole names -/

theorem isMark_theoremMarks (hkinds : IsTable kinds) : ∀ mark ∈ theoremMarks kinds, IsMark mark :=
  fun mark hmark => (hkinds.marks mark hmark).1

/-- The label that Markdown gets for a theorem with a name. -/
theorem exists_markdownTheorems_linkAll (hkind : kind ∈ Markdown.theoremKinds) (starred : Bool)
    (hname : IsName numbers name) (ht : '\\' ∉ t) :
    ∃ u v, ']' ∉ u ∧ linkedName .markdown numbers name ++ ']' :: t = u ++ ']' :: v ∧
      Markdown.theorems (linkAll .markdown numbers (namedOpening kind starred name.source t)) =
        Markdown.enclose ['*', '*'] (namedLabel kind.label u) ++ v :=
  exists_flattenTheorems_linkAll isTable_markdown hkind starred (fun _ => List.append_assoc ..)
    (harmless_of_prose (isMark_theoremMarks isTable_markdown) (by decide)) (by decide)
    (fun _ hrest => hrest) hname ht

/-- The label that plain LaTeX gets for a theorem with a name. -/
theorem exists_plainTheorems_linkAll (hkind : kind ∈ Plain.theoremKinds) (starred : Bool)
    (hname : IsName numbers name) (ht : '\\' ∉ t) :
    ∃ u v, ']' ∉ u ∧ linkedName .latex numbers name ++ ']' :: t = u ++ ']' :: v ∧
      Plain.theorems (linkAll .latex numbers (namedOpening kind starred name.source t)) =
        "\\paragraph".toList ++ braced (namedLabel kind.label u) ++ v :=
  @exists_flattenTheorems_linkAll _ _ _ _ _ _ _ "\\paragraph\x7b".toList ['}'] isTable_plain hkind
    starred (fun _ => rfl) (harmless_of_apart (by decide) (by decide)) (by decide)
    (harmless_of_apart (by decide) (by decide)) hname ht

/-- On the way into Markdown nothing but the links and the label changes a theorem with a name. -/
theorem toMarkdown_namedOpening (hkind : kind ∈ Markdown.theoremKinds) (starred : Bool)
    (hname : IsName numbers name) (ht : '\\' ∉ t)
    (hcomments : Step.comments.Absent (namedOpening kind starred name.source t))
    (hbrackets : Step.brackets.Absent
      (linkAll .markdown numbers (namedOpening kind starred name.source t)))
    (hfonts : Markdown.textStyles
      (linkAll .markdown numbers (namedOpening kind starred name.source t)) =
        linkAll .markdown numbers (namedOpening kind starred name.source t)) :
    toMarkdown numbers (namedOpening kind starred name.source t) = collapseBlankLines
      (Markdown.theorems (linkAll .markdown numbers (namedOpening kind starred name.source t))) := by
  have hshown := backslash_not_mem_linkedName hname
  obtain ⟨hlabel, hstem⟩ := isTable_markdown.label kind hkind
  have hprose : '\\' ∉ '[' :: (linkedName .markdown numbers name ++ ']' :: t) := by
    simp [hshown, ht]
  have hlinked := @linkAll_namedOpening _ _ .markdown _ _ _ isTable_markdown hkind starred hname ht
  have habsent : ∀ step ∈ .every (.literal "\\twocolumn[".toList []) :: Markdown.commandSteps,
      step.Absent (linkAll .markdown numbers (namedOpening kind starred name.source t)) := by
    intro step hstep
    rw [hlinked]
    exact (apart_commandSteps kind hkind starred step hstep).absent
      (isTable_markdown.opening kind hkind starred) hprose
  obtain ⟨hheading, hcommands⟩ := List.forall_mem_cons.mp habsent
  refine toMarkdown_eq_theorems hcomments ?_ hcommands hfonts ?_
  · exact List.forall_mem_cons.mpr ⟨hheading, List.forall_mem_singleton.mpr hbrackets⟩
  · obtain ⟨u, v, -, hsplit, hresult⟩ := exists_markdownTheorems_linkAll hkind starred hname ht
    have hprose : '\\' ∉ u ++ ']' :: v := by
      rw [← hsplit]
      simp [hshown, ht]
    have hu : '\\' ∉ u := fun hmem => hprose (List.mem_append_left _ hmem)
    have hv : '\\' ∉ v := fun hmem => hprose (List.mem_append_right _ (List.mem_cons_of_mem _ hmem))
    have hwritten : '\\' ∉ namedLabel kind.label u := by
      by_cases hnil : u = []
      · simp [hnil, namedLabel, hlabel, hstem]
      · have htrim : '\\' ∉ trim u := fun hmem => hu (trim_subset u hmem)
        simp [namedLabel_of_ne_nil hnil, hstem, htrim]
    rw [hresult]
    simp [Markdown.enclose, hwritten, hv]

/-- A theorem keeps its whole name, on either path, exactly if the name cites nothing and no closing
bracket stands in it. -/
theorem theoremNames_whole_iff (starred : Bool) (hname : IsName numbers name) (ht : '\\' ∉ t) :
    let whole := name.cited = [] ∧ ']' ∉ name.opening.text ∧ ∀ part ∈ name.rest, ']' ∉ part.2.text
    (∀ kind ∈ Markdown.theoremKinds,
      let source := namedOpening kind starred name.source t
      let linked := linkAll .markdown numbers source
      let label := namedLabel kind.label (linkedName .markdown numbers name)
      let wanted := Markdown.enclose ['*', '*'] label ++ t
      (Markdown.theorems linked = wanted ↔ whole) ∧
        (Step.comments.Absent source → Step.brackets.Absent linked →
          Markdown.textStyles linked = linked →
          (toMarkdown numbers source = collapseBlankLines wanted ↔ whole))) ∧
    (∀ kind ∈ Plain.theoremKinds,
      let linked := linkAll .latex numbers (namedOpening kind starred name.source t)
      let label := namedLabel kind.label (linkedName .latex numbers name)
      Plain.theorems linked = "\\paragraph".toList ++ braced label ++ t ↔ whole) := by
  intro whole
  constructor
  · intro kind hkind source linked label wanted
    obtain ⟨u, v, hu, hsplit, hresult⟩ := exists_markdownTheorems_linkAll hkind starred hname ht
    have hrender (label : Text) : Markdown.enclose ['*', '*'] label =
        ['*', '*'] ++ (label ++ ['*', '*']) := List.append_assoc ..
    obtain ⟨hsame, hprinted⟩ :=
      label_eq_iff (isTable_markdown.label kind hkind).1 hrender hu hsplit
    rw [bracket_not_mem_linkedName_iff _ hname, ← hresult] at hsame hprinted
    refine ⟨hsame, fun hcomments hbrackets hfonts => ?_⟩
    rw [toMarkdown_namedOpening hkind starred hname ht hcomments hbrackets hfonts]
    refine ⟨fun h => hprinted.mp ?_, fun h => congrArg collapseBlankLines (hsame.mpr h)⟩
    rw [← Markdown.printed_collapseBlankLines, h, Markdown.printed_collapseBlankLines]
  · intro kind hkind linked label
    obtain ⟨u, v, hu, hsplit, hresult⟩ := exists_plainTheorems_linkAll hkind starred hname ht
    have hrender (label : Text) : "\\paragraph".toList ++ braced label =
        "\\paragraph\x7b".toList ++ (label ++ ['}']) := rfl
    obtain ⟨hsame, -⟩ := label_eq_iff (isTable_plain.label kind hkind).1 hrender hu hsplit
    rwa [bracket_not_mem_linkedName_iff _ hname, ← hresult] at hsame

/-- A name with a formula. -/
def formulaName : Document := ⟨⟨"On $x$".toList, by decide⟩, []⟩

/-- A name with a citation. -/
def citedName : Document where
  opening := ⟨"After ".toList, by decide⟩
  rest :=
    [(⟨.plain, ["Section 2".toList], [['k']], by decide, by decide, by decide⟩,
      ⟨" again".toList, by decide⟩)]

theorem theoremNames_whole_of_formulaName :
    let kind : TheoremKind := ⟨"theorem".toList, "Theorem.".toList⟩
    toMarkdown [] (namedOpening kind true formulaName.source "\nBody".toList) =
        "**Theorem (On $x$).**\nBody".toList ∧
      Plain.theorems (linkAll .latex [(['k'], 1)]
          (namedOpening kind false citedName.source "\nBody".toList)) ≠
        "\\paragraph".toList ++
          braced "Theorem (After \\href\x7b#ref-k\x7d\x7b[1]\x7d again).".toList ++
            "\nBody".toList := by
  intro kind
  have hmarkdown : kind ∈ Markdown.theoremKinds := by simp [Markdown.theoremKinds, kind]
  have hplain : kind ∈ Plain.theoremKinds := by simp [Plain.theoremKinds, kind]
  have hformula : IsName [] formulaName := by constructor <;> decide
  have hcited : IsName [(['k'], 1)] citedName := by constructor <;> decide
  have hbody : '\\' ∉ "\nBody".toList := by decide
  obtain ⟨-, hkept⟩ := (theoremNames_whole_iff true hformula hbody).1 kind hmarkdown
  have hcut := (theoremNames_whole_iff false hcited hbody).2 kind hplain
  constructor
  · exact ((hkept (by decide) (by decide) (by decide)).mpr
      (by decide)).trans (by decide)
  · intro h
    have hwhole := hcut.mp (h.trans (by decide))
    exact absurd hwhole.1 (by decide)

/-- A name with an interval in a formula, and a name that is a citation, are cut at the first
closing bracket, though the brackets of the interval are balanced and the key has a number. -/
theorem bracket_cuts_name :
    let interval := "\\begin\x7btheorem\x7d[On $[0,1]$]\nBody".toList
    let citing := "\\begin\x7btheorem\x7d[\\cite\x7ba\x7d]\nBody".toList
    toMarkdown [] interval = "**Theorem (On $[0,1).**$]\nBody".toList ∧
      toMarkdown [] interval ≠ "**Theorem (On $[0,1]$).**\nBody".toList ∧
      Plain.theorems (linkAll .latex [(['a'], 1)] citing) =
        "\\paragraph\x7bTheorem (\\href\x7b#ref-a\x7d\x7b[1).\x7d\x7d]\nBody".toList ∧
      Plain.theorems (linkAll .latex [(['a'], 1)] citing) ≠
        "\\paragraph\x7bTheorem (\\href\x7b#ref-a\x7d\x7b[1]\x7d).\x7d\nBody".toList := by
  decide +kernel

end PaperHtml.Conversion

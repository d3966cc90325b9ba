import PaperHtml.Proofs.Conversion.Headings
import PaperHtml.Proofs.Conversion.Listing

/-!
# Commands and their whole arguments

A heading, a title and a caption have an argument in braces, and braces may be
nested in it.  The passes for them read up to the next closing brace, and
`arguments_whole_iff` says for which arguments they do what they would do if they
read the whole argument.

## Strategy

Headings and titles are settled by their passes (`PaperHtml.Proofs.Conversion.Headings`).
Of a caption the listing keeps what is left behind the argument as it is read
(`stripListing_braced_caption`), and the statements hold as many closing braces as
the listing (`count_algorithmLines`), so what is left shows up in them.
-/

namespace PaperHtml.Conversion

open Text Latex Conversion.Markdown

/-! ## Captions of listings -/

namespace ArgumentReader

/-- The scan for the caption of a listing. -/
def caption : ArgumentReader := .ofCommand "caption".toList (fun _ => []) (by decide)

end ArgumentReader

/-- The commands of a listing that are taken away. -/
def listingMarks : List Text :=
  ["\\begin{algorithmic}".toList, "\\end{algorithmic}".toList, "\\caption\x7b".toList,
    "\\label\x7b".toList]

variable {s before after : Text}

/-- The marks of a listing are not found in a caption whose argument is balanced. -/
theorem substitute_caption (reader : Reader) {front y : Text} {c : Char}
    (hcommands : reader.commands = [front ++ c :: '{' :: (y ++ ['}'])]) (hc : c ≠ '\\')
    (hy : '}' ∉ front ++ c :: y) (hmark : IsMark (front ++ c :: '{' :: (y ++ ['}'])))
    (hapart : ¬ front ++ c :: '{' :: (y ++ ['}']) <+: "\\caption\x7b".toList ∧
      ¬ "\\caption\x7b".toList <+: front ++ c :: '{' :: (y ++ ['}']))
    (hbalanced : group? (braced s) = some (s, []))
    (hs : ¬ front ++ c :: '{' :: (y ++ ['}']) <:+: s) (rest : Text) :
    Scanner.substitute reader.scan (Plain.applied "caption".toList s ++ rest) =
      Plain.applied "caption".toList s ++ Scanner.substitute reader.scan rest := by
  refine Scanner.substitute_append_of_passed fun back hback hne => ?_
  have happlied : Plain.applied "caption".toList s = ("\\caption\x7b".toList ++ s) ++ ['}'] := by
    simp [Plain.applied, braced]
  have hfree : FreeOf reader.commands (("\\caption\x7b".toList ++ s) ++ ['}']) := by
    rw [hcommands, List.append_assoc]
    refine FreeOf.command_append (List.forall_mem_singleton.mpr hmark) (by decide)
      (List.forall_mem_singleton.mpr hapart) (List.forall_mem_singleton.mpr ?_)
    exact not_infix_of_balanced hc (fun hmem => hy (by simp [hmem])) hbalanced hs
  rw [happlied] at hback
  refine Reader.scan_eq_none_of_absent (fun mark hmem => ?_) hfree hback hne rest
  rw [hcommands] at hmem
  obtain rfl := List.mem_singleton.mp hmem
  have hlast : (front ++ c :: '{' :: (y ++ ['}'])).dropLast = front ++ c :: '{' :: y := by
    have hsplit : front ++ c :: '{' :: (y ++ ['}']) = (front ++ c :: '{' :: y) ++ ['}'] := by simp
    rw [hsplit, List.dropLast_concat]
  rw [hlast]
  simpa using hy

/-- Of a caption a listing keeps what is left behind its argument as it is read. -/
theorem stripListing_braced_caption (hbalanced : group? (braced s) = some (s, []))
    (hs : FreeOf listingMarks s) (rest : Text) :
    stripListing (Plain.applied "caption".toList s ++ rest) = leftPart s ++ stripListing rest := by
  have hopening : ¬ "\\begi".toList ++ 'n' :: '{' :: ("algorithmic".toList ++ ['}']) <:+: s :=
    hs _ (by decide)
  have hclosing : ¬ "\\en".toList ++ 'd' :: '{' :: ("algorithmic".toList ++ ['}']) <:+: s :=
    hs _ (by decide)
  have happlied (t : Text) : Plain.applied "caption".toList s ++ t =
      "\\caption\x7b".toList ++ (readPart s ++ '}' :: (leftPart s ++ t)) := by
    rw [readPart_append]
    simp [Plain.applied, braced]
  have hcaption (t : Text) : Scanner.substitute listingCaption.scan
      (Plain.applied "caption".toList s ++ t) =
        leftPart s ++ Scanner.substitute listingCaption.scan t := by
    rw [happlied]
    have hread := ArgumentReader.caption.run_opening (List.mem_singleton_self _)
      (brace_not_mem_readPart s) (leftPart s ++ t)
    refine hread.trans (Scanner.substitute_append_of_passed ?_)
    exact ArgumentReader.goesBy_leftPart (by decide) (hs.of_subset (by decide)) t
  have hlabel (t : Text) : stripLabels (leftPart s ++ t) = leftPart s ++ stripLabels t := by
    have hpassed : ArgumentReader.label.scan.GoesBy (leftPart s) t :=
      ArgumentReader.goesBy_leftPart (by decide) (hs.of_subset (by decide)) t
    exact Scanner.substitute_append_of_passed hpassed
  rw [stripListing_eq, substitute_caption listingOpening rfl (by decide) (by decide)
      (by decide) (by decide) hbalanced hopening,
    substitute_caption listingClosing rfl (by decide) (by decide) (by decide)
      (by decide) hbalanced hclosing, hcaption, hlabel, ← stripListing_eq]

/-! ## Closing braces in statements -/

theorem count_trimStart {c : Char} (hc : isBlank c = false) (t : Text) :
    (trimStart t).count c = t.count c := by
  obtain ⟨gap, hgap, heq⟩ := exists_trimStart t
  have hnone : gap.count c = 0 := by
    rw [List.count_eq_zero]
    intro hmem
    rw [hgap c hmem] at hc
    exact Bool.noConfusion hc
  conv_rhs => rw [heq, List.count_append, hnone, Nat.zero_add]

theorem count_trim {c : Char} (hc : isBlank c = false) (t : Text) :
    (trim t).count c = t.count c := by
  have hend : (trimEnd (trimStart t)).count c = (trimStart t).count c := by
    rw [trimEnd, List.count_reverse, ← trimStart, count_trimStart hc, List.count_reverse]
  rw [trim, hend, count_trimStart hc]

theorem count_dropOptional {c mark : Char} (hc : c ≠ mark) (t : Text) :
    (dropOptional mark t).count c = t.count c := by
  cases t with
  | nil => rfl
  | cons d t =>
      rw [dropOptional]
      split
      · rename_i hd
        rw [hd, List.count_cons_of_ne hc.symm]
      · rfl

theorem sum_count_splitOn {c sep : Char} (hc : c ≠ sep) (t : Text) :
    ((splitOn sep t).map (List.count c)).sum = t.count c := by
  induction t with
  | nil => rfl
  | cons d t ih =>
      rw [splitOn]
      split
      · rename_i hd
        rw [List.map_cons, List.sum_cons, ih, hd, List.count_cons_of_ne hc.symm, List.count_nil,
          Nat.zero_add]
      · cases hparts : splitOn sep t with
        | nil => exact absurd hparts (splitOn_ne_nil sep t)
        | cons part parts =>
            rw [hparts, List.map_cons, List.sum_cons] at ih
            rw [List.map_cons, List.sum_cons, List.count_cons, List.count_cons, ← ih]
            omega

/-- The statements of an algorithm hold the closing braces of its listing. -/
theorem count_algorithmLines (t : Text) :
    (algorithmLines t).flatten.count '}' = (stripListing t).count '}' := by
  have hline : ∀ line : Text, (trim (dropOptional '\\' line)).count '}' = line.count '}' := fun line => by
    rw [count_trim (by decide), count_dropOptional (by decide)]
  have hfeed : '}' ≠ '\n' := by decide
  rw [algorithmLines, List.flatten_filter_ne_nil, List.count_flatten, List.map_map,
    ← count_trim (by decide) (stripListing t), ← sum_count_splitOn hfeed]
  exact congrArg List.sum (List.map_congr_left fun line _ => hline line)

/-- A caption leaves nothing of its argument exactly if there is no closing brace in it. -/
theorem algorithmLines_caption_iff (hbefore : ListingEnds before)
    (hbalanced : group? (braced s) = some (s, [])) (hs : FreeOf listingMarks s) :
    algorithmLines (before ++ (Plain.applied "caption".toList s ++ after)) =
        algorithmLines (before ++ after) ↔ '}' ∉ s := by
  have hstripped : stripListing (before ++ (Plain.applied "caption".toList s ++ after)) =
      stripListing before ++ (leftPart s ++ stripListing after) := by
    rw [hbefore, stripListing_braced_caption hbalanced hs]
  constructor
  · intro h
    rw [← leftPart_eq_nil_iff]
    have hcount := congrArg (fun ls : List Text => ls.flatten.count '}') h
    simp only [count_algorithmLines, hstripped, hbefore after, List.count_append] at hcount
    rcases parts_cases s with ⟨-, -, hleft⟩ | ⟨v, -, hleft⟩
    · exact hleft
    · rw [hleft, List.count_append, List.count_singleton_self] at hcount
      omega
  · intro hclosed
    rw [algorithmLines, algorithmLines, hstripped, hbefore after, leftPart_eq_nil_iff.mpr hclosed,
      List.nil_append]

/-! ## Whole arguments -/

/-- Of a balanced argument without commands of the passes themselves: a heading is written with the
whole of it exactly if its first closing brace is followed by such braces alone, and no heading of a
later pass begins in it and goes on behind it; a title or the authors are written with the whole of
it, and a caption is removed with the whole of it, exactly if there is no closing brace in it. -/
theorem arguments_whole_iff (s : Text) (hbalanced : group? (braced s) = some (s, [])) :
    (∀ (level : Level) (starred : Bool) (before after : Text), FreeOf Level.openings before →
      FreeOf Level.openings s → FreeOf Level.openings after →
      (sections (before ++ (level.opening starred ++ (s ++ '}' :: after))) =
          before ++ (level.marker ++ (s ++ after)) ↔
        (∃ u count, '}' ∉ u ∧ s = u ++ List.replicate count '}') ∧
          Level.passes level.later (s ++ after) = s ++ after)) ∧
    (∀ (command : TitleCommand) (before after : Text), FreeOf TitleCommand.openings before →
      FreeOf TitleCommand.openings s → FreeOf TitleCommand.openings after →
      (titleBlock (before ++ (command.opening ++ (s ++ '}' :: after))) =
          before ++ (command.render s ++ '\n' :: after) ↔ '}' ∉ s)) ∧
    (∀ before after : Text, ListingEnds before → FreeOf listingMarks s →
      (algorithmLines (before ++ (Plain.applied "caption".toList s ++ after)) =
          algorithmLines (before ++ after) ↔ '}' ∉ s)) :=
  ⟨fun _ starred _ _ hbefore hs hafter => Level.sections_whole_iff starred hbefore hs hafter,
    fun _ _ _ hbefore hs hafter => TitleCommand.titleBlock_whole_iff hbefore hs hafter,
    fun _ _ hbefore hs => algorithmLines_caption_iff hbefore hbalanced hs⟩

/-- Emphasis at the end of an argument: the heading comes out right, since the brace that is left
over stands where the emphasis ends, and the title and the caption do not. -/
theorem arguments_whole_of_emphasis_at_end :
    let s := "The \\emph\x7bcase\x7d".toList
    group? (braced s) = some (s, []) ∧
      sections (Level.section.opening true ++ (s ++ '}' :: " is".toList)) =
        Level.section.marker ++ (s ++ " is".toList) ∧
      titleBlock (TitleCommand.title.opening ++ (s ++ '}' :: " is".toList)) ≠
        TitleCommand.title.render s ++ '\n' :: " is".toList ∧
      algorithmLines (Plain.applied "caption".toList s ++ " is".toList) ≠
        algorithmLines " is".toList := by
  intro s
  have hbalanced : group? (braced s) = some (s, []) := by decide +kernel
  have hopen : ¬ '}' ∉ s := by decide
  obtain ⟨hsections, htitle, hcaption⟩ := arguments_whole_iff s hbalanced
  refine ⟨hbalanced, ?_, fun h => hopen ?_, fun h => hopen ?_⟩
  · refine (hsections .section true [] _ (by decide) (by decide) (by decide)).mpr
      ⟨⟨"The \\emph\x7bcase".toList, 1, by decide, by decide⟩, by decide +kernel⟩
  · exact (htitle .title [] _ (by decide) (by decide) (by decide)).mp h
  · exact (hcaption [] _ (fun _ => rfl) (by decide)).mp h

/-- Emphasis in the middle of an argument: its closing brace is taken for that of the command. -/
theorem argument_cut_at_emphasis :
    let s := "The \\emph\x7breal\x7d case".toList
    group? (braced s) = some (s, []) ∧ FreeOf Level.openings s ∧ FreeOf TitleCommand.openings s ∧
      FreeOf listingMarks s ∧
      sections (Level.section.opening false ++ (s ++ ['}'])) =
        "## The \\emph\x7breal case\x7d".toList ∧
      sections (Level.section.opening false ++ (s ++ ['}'])) ≠ Level.section.marker ++ s ∧
      titleBlock (TitleCommand.title.opening ++ (s ++ ['}'])) ≠ TitleCommand.title.render s ++ ['\n'] ∧
      algorithmLines (Plain.applied "caption".toList s) = [" case\x7d".toList.tail] := by
  intro s
  exact ⟨by decide +kernel, by decide, by decide, by decide, by decide +kernel, by decide +kernel,
    by decide +kernel, by decide +kernel⟩

end PaperHtml.Conversion

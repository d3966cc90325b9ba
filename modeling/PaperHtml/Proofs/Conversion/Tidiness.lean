import PaperHtml.Proofs.Bibliography.Boundary
import PaperHtml.Proofs.Conversion.Crossing
import PaperHtml.Proofs.Conversion.Fences

/-!
# What Markdown is free of

Markdown that was made of a body holds no page command, no start of an appendix,
no two blank lines in a row and no blanks at either end, whatever the body is.

## Strategy

The passes that see to this are the last three, and none of them is run twice,
so what matters is what each of them can bring about.  What a scan puts in or
goes on with after taking a command away is no letter of a command
(`Scanner.exists_of_suffix_substitute`): a heading begins with a line feed, and
no word goes on behind a page command.  So a command in what is left was one
before, at a place that the scan passed over.  The limit on blank lines takes
line feeds away and the trimming blanks, and at neither does a word go on.
-/

namespace PaperHtml.Conversion

open Text Latex

/-! ## Page commands -/

/-- The names of the page commands. -/
def pageNames : List String := ["newpage", "clearpage", "onecolumn", "twocolumn"]

/-- No page command ends at a word boundary. -/
def PageFree (t : Text) : Prop :=
  ∀ name ∈ pageNames, ∀ before after, t = before ++ ('\\' :: name.toList ++ after) →
    atWordEnd after = false

theorem dropWholeCommand?_eq_some_iff {name t rest : Text} :
    dropWholeCommand? name t = some rest ↔ t = '\\' :: name ++ rest ∧ atWordEnd rest = true := by
  rw [dropWholeCommand?, Option.filter_eq_some_iff, dropCommand?, dropPrefix?_eq_some_iff]

theorem scan_pageCommand_eq_some_iff {t out rest : Text} :
    Reader.pageCommand.scan t = some (out, rest) ↔ dropPageCommand? t = some rest ∧ out = [] := by
  constructor
  · intro h
    obtain ⟨found, hfound, heq⟩ := Option.map_eq_some_iff.mp h
    obtain ⟨rfl, rfl⟩ := Prod.mk.inj heq
    exact ⟨hfound, rfl⟩
  · rintro ⟨h, rfl⟩
    exact congrArg (Option.map fun after => ([], after)) h

/-- What is taken away is a page command, and no word goes on behind it. -/
theorem exists_of_dropPageCommand? {t rest : Text} (h : dropPageCommand? t = some rest) :
    ∃ name ∈ pageNames, t = '\\' :: name.toList ++ rest ∧ atWordEnd rest = true := by
  obtain ⟨name, hname, hfound⟩ := exists_of_firstM_eq_some h
  exact ⟨name, hname, dropWholeCommand?_eq_some_iff.mp hfound⟩

theorem atWordEnd_of_dropPageCommand?_eq_none {name : String} (hname : name ∈ pageNames)
    {rest : Text} (h : dropPageCommand? ('\\' :: name.toList ++ rest) = none) :
    atWordEnd rest = false := by
  have hnone := eq_none_of_firstM_eq_none h name hname
  by_contra hend
  rw [Bool.not_eq_false] at hend
  rw [dropWholeCommand?_eq_some_iff.mpr ⟨rfl, hend⟩] at hnone
  exact Option.some_ne_none _ hnone

/-- A word goes on at a character that begins no command. -/
theorem exists_of_atWordEnd_eq_false {t : Text} (h : atWordEnd t = false) :
    ∃ c rest, t = c :: rest ∧ isWordChar c = true := by
  cases t with
  | nil => exact absurd h (by simp [atWordEnd])
  | cons c rest => exact ⟨c, rest, rfl, by simpa [atWordEnd] using h⟩

/-- The word characters of a command are not what follows a page command that is taken away. -/
theorem head_of_dropPageCommand? {letters : Text} (hword : ∀ c ∈ letters, isWordChar c = true)
    {t out rest : Text} (h : Reader.pageCommand.scan t = some (out, rest)) :
    ∀ c ∈ (out ++ rest).head?, c ∉ letters := by
  obtain ⟨hdrop, rfl⟩ := scan_pageCommand_eq_some_iff.mp h
  obtain ⟨-, -, -, hend⟩ := exists_of_dropPageCommand? hdrop
  intro c hc hmem
  obtain ⟨behind, rfl⟩ := List.head?_eq_some_iff.mp hc
  simp [atWordEnd, hword c hmem] at hend

theorem exists_source_pageCommand {t out rest : Text}
    (h : Reader.pageCommand.scan t = some (out, rest)) :
    ∃ source, source ≠ [] ∧ t = source ++ rest := by
  obtain ⟨hdrop, -⟩ := scan_pageCommand_eq_some_iff.mp h
  obtain ⟨name, -, rfl, -⟩ := exists_of_dropPageCommand? hdrop
  exact ⟨_, List.cons_ne_nil _ _, rfl⟩

/-- A command of word characters that stands in what is left stood in the text before, where no page
command was found. -/
theorem exists_of_suffix_stripPageCommands {letters t back : Text}
    (hword : ∀ c ∈ letters, isWordChar c = true) (h : back <:+ stripPageCommands t)
    (hmark : '\\' :: letters <+: back) :
    ∃ place, place <:+ t ∧ '\\' :: letters <+: place ∧ dropPageCommand? place = none ∧
      back = stripPageCommands place := by
  have hsuffix : back <:+ Scanner.substitute Reader.pageCommand.scan t := h
  obtain ⟨place, hplace, hbegins, hnone, hback⟩ := Scanner.exists_of_suffix_substitute
    (fun _ _ _ => exists_source_pageCommand)
    (fun t out rest hfound => by
      obtain ⟨-, rfl⟩ := scan_pageCommand_eq_some_iff.mp hfound
      exact List.not_mem_nil)
    (fun _ _ _ => head_of_dropPageCommand? hword) hsuffix hmark
  exact ⟨place, hplace, hbegins, Option.map_eq_none_iff.mp hnone, hback⟩

theorem isWordChar_of_mem_pageName {name : String} (hname : name ∈ pageNames) {c : Char}
    (hc : c ∈ name.toList) : isWordChar c = true := by
  have hletters : ∀ name ∈ pageNames, name.toList.all isWordChar = true := by decide +kernel
  exact List.all_eq_true.mp (hletters name hname) c hc

/-- Taking page commands away leaves none, since none comes about from the pieces around another. -/
theorem pageFree_stripPageCommands (t : Text) : PageFree (stripPageCommands t) := by
  intro name hname before after hsplit
  have hword : ∀ c ∈ name.toList, isWordChar c = true := fun _ =>
    isWordChar_of_mem_pageName hname
  obtain ⟨place, -, ⟨more, rfl⟩, hnone, hback⟩ := exists_of_suffix_stripPageCommands
    hword (hsplit ▸ List.suffix_append before _) (List.prefix_append _ after)
  obtain ⟨c, more, rfl, hc⟩ :=
    exists_of_atWordEnd_eq_false (atWordEnd_of_dropPageCommand?_eq_none hname hnone)
  have hprose : '\\' ∉ name.toList ++ [c] := by
    intro hmem
    rcases List.mem_append.mp hmem with hmem | hmem
    · exact absurd (hword _ hmem) (by decide)
    · rw [← List.mem_singleton.mp hmem] at hc
      exact absurd hc (by decide)
  have hpassed : Reader.pageCommand.scan.GoesBy (name.toList ++ [c]) more := fun back hback hne =>
    Reader.scan_eq_none_of_prose (by decide) hprose hback hne more
  have hkept : stripPageCommands ('\\' :: name.toList ++ c :: more) =
      '\\' :: name.toList ++ c :: stripPageCommands more := by
    have hscan : Reader.pageCommand.scan ('\\' :: (name.toList ++ c :: more)) = none :=
      Option.map_eq_none_iff.mpr hnone
    have hbehind := Scanner.substitute_append_of_passed hpassed
    rw [List.append_assoc, List.append_assoc] at hbehind
    rw [List.cons_append]
    exact (Scanner.substitute_cons_of_none hscan).trans (congrArg ('\\' :: ·) hbehind)
  obtain rfl : after = c :: stripPageCommands more := List.append_cancel_left (hback.trans hkept)
  simp [atWordEnd, hc]

/-! ## The start of the appendix -/

/-- Where the start of the appendix is made a heading, its command is left nowhere. -/
theorem appendixFree_appendix (t : Text) : ¬ "\\appendix".toList <:+: Markdown.appendix t := by
  rintro ⟨before, after, heq⟩
  rw [List.append_assoc] at heq
  have hfound {t out rest : Text}
      (h : Scanner.literal "\\appendix".toList "\n## Appendix\n".toList t = some (out, rest)) :
      t = "\\appendix".toList ++ rest ∧ out = "\n## Appendix\n".toList := by
    obtain ⟨found, hdrop, hpair⟩ := Option.map_eq_some_iff.mp h
    obtain ⟨rfl, rfl⟩ := Prod.mk.inj hpair
    exact ⟨dropPrefix?_eq_some_iff.mp hdrop, rfl⟩
  have hsuffix : "\\appendix".toList ++ after <:+ Scanner.substitute
      (Scanner.literal "\\appendix".toList "\n## Appendix\n".toList) t :=
    ⟨before, heq⟩
  have hbegins : '\\' :: "appendix".toList <+: "\\appendix".toList ++ after :=
    List.prefix_append _ after
  obtain ⟨place, -, hmark, hnone, -⟩ := Scanner.exists_of_suffix_substitute
    (fun t out rest h => ⟨_, List.cons_ne_nil _ _, (hfound h).1⟩)
    (fun t out rest h => by
      rw [(hfound h).2]
      decide)
    (fun t out rest h c hc => by
      rw [(hfound h).2, List.head?_append_of_ne_nil _ (by decide)] at hc
      obtain rfl : '\n' = c := Option.some.inj hc
      decide)
    hsuffix hbegins
  obtain ⟨rest, rfl⟩ := hmark
  have hdrop := Option.map_eq_none_iff.mp hnone
  exact Option.some_ne_none _ ((dropPrefix?_append _ rest).symm.trans hdrop)

theorem appendixFree_stripPageCommands {t : Text} (h : ¬ "\\appendix".toList <:+: t) :
    ¬ "\\appendix".toList <:+: stripPageCommands t := by
  have hword : "appendix".toList.all isWordChar = true := by decide +kernel
  rintro ⟨before, after, heq⟩
  rw [List.append_assoc] at heq
  have hbegins : '\\' :: "appendix".toList <+: "\\appendix".toList ++ after :=
    List.prefix_append _ after
  obtain ⟨place, hplace, hmark, -⟩ := exists_of_suffix_stripPageCommands
    (List.all_eq_true.mp hword) ⟨before, heq⟩ hbegins
  exact h (hmark.isInfix.trans hplace.isInfix)

/-! ## Blank lines -/

/-- Behind the line feeds of a run that are kept, the limit takes nothing away but line feeds. -/
theorem exists_of_limitLineFeeds_eq_append {line t after : Text} (hfeed : '\n' ∉ line)
    (h : limitLineFeeds 0 t = line ++ after) :
    ∃ rest, t = line ++ rest ∧ after = limitLineFeeds 0 rest := by
  induction line generalizing t with
  | nil => exact ⟨t, rfl, h.symm⟩
  | cons c line ih =>
      rw [List.mem_cons, not_or] at hfeed
      cases t with
      | nil => simp [limitLineFeeds] at h
      | cons d t =>
          rw [limitLineFeeds] at h
          split at h
          · rename_i hd
            obtain ⟨hc, -⟩ := List.cons.inj h
            exact absurd (hd.symm.trans hc) hfeed.1
          · obtain ⟨rfl, hbehind⟩ := List.cons.inj h
            obtain ⟨rest, rfl, hrest⟩ := ih hfeed.2 hbehind
            exact ⟨rest, rfl, hrest⟩

/-- What stands on a line behind the limit stood there before, with the same text behind it but for
line feeds. -/
theorem exists_of_limitLineFeeds_eq {line t before after : Text} {count : Nat} (hne : line ≠ [])
    (hfeed : '\n' ∉ line) (h : limitLineFeeds count t = before ++ (line ++ after)) :
    ∃ front rest, t = front ++ (line ++ rest) ∧ after = limitLineFeeds 0 rest := by
  induction t generalizing count before with
  | nil =>
      have hnil : before ++ (line ++ after) = [] := h.symm
      simp [hne] at hnil
  | cons c t ih =>
      -- the character belongs to the text in front of the line, or the line begins with it
      have hlater {count : Nat} {before : Text}
          (h : limitLineFeeds count t = before ++ (line ++ after)) :
          ∃ front rest, c :: t = front ++ (line ++ rest) ∧ after = limitLineFeeds 0 rest := by
        obtain ⟨front, rest, rfl, hrest⟩ := ih h
        exact ⟨c :: front, rest, rfl, hrest⟩
      by_cases hc : c = '\n'
      · rw [limitLineFeeds, if_pos hc] at h
        split at h
        · cases before with
          | nil =>
              obtain ⟨d, line, rfl⟩ := List.exists_cons_of_ne_nil hne
              obtain ⟨rfl, -⟩ := List.cons.inj h
              exact absurd (by simp [hc]) hfeed
          | cons d before => exact hlater (List.cons.inj h).2
        · exact hlater h
      · cases before with
        | nil =>
            have hzero : limitLineFeeds 0 (c :: t) = line ++ after := by
              rw [limitLineFeeds, if_neg hc] at h ⊢
              exact h
            obtain ⟨rest, hsplit, hrest⟩ := exists_of_limitLineFeeds_eq_append hfeed hzero
            exact ⟨[], rest, hsplit, hrest⟩
        | cons d before =>
            rw [limitLineFeeds, if_neg hc] at h
            exact hlater (List.cons.inj h).2

/-- The limit leaves no three line feeds in a row, nor as many as are left of a run in front. -/
theorem not_lineFeeds_limitLineFeeds (t : Text) {count : Nat} (hcount : count ≤ 2) :
    ¬ List.replicate (3 - count) '\n' <+: limitLineFeeds count t ∧
      ¬ List.replicate 3 '\n' <:+: limitLineFeeds count t := by
  induction t generalizing count with
  | nil =>
      have hne : 3 - count ≠ 0 := by omega
      simp [limitLineFeeds, hne]
  | cons c t ih =>
      rw [limitLineFeeds]
      split
      · rename_i hc
        subst hc
        split
        · rename_i hless
          obtain ⟨hfront, hinside⟩ := @ih (count + 1) (by omega)
          have hsucc : 3 - count = (3 - (count + 1)) + 1 := by omega
          constructor
          · rw [hsucc, List.replicate_succ, List.cons_prefix_cons]
            exact fun h => hfront h.2
          · intro h
            rcases List.infix_cons_iff.mp h with h | h
            · rw [List.replicate_succ, List.cons_prefix_cons] at h
              exact hfront ((List.prefix_replicate_iff.mpr ⟨by simp, by simp⟩).trans h.2)
            · exact hinside h
        · rename_i hfull
          obtain rfl : count = 2 := by omega
          exact ih (le_refl 2)
      · rename_i hc
        obtain ⟨-, hinside⟩ := @ih 0 (Nat.zero_le 2)
        have hne : 3 - count = (2 - count) + 1 := by omega
        constructor
        · rw [hne, List.replicate_succ, List.cons_prefix_cons]
          exact fun h => hc h.1.symm
        · intro h
          rcases List.infix_cons_iff.mp h with h | h
          · rw [List.replicate_succ, List.cons_prefix_cons] at h
            exact hc h.1.symm
          · exact hinside h

/-! ## What is left at the end -/

/-- A text without page commands and without the start of an appendix, with one blank line at most
between two others, and with no blanks at either end. -/
structure CleanedUp (t : Text) : Prop where
  pageFree : PageFree t
  appendixFree : ¬ "\\appendix".toList <:+: t
  blankLines : ¬ ['\n', '\n', '\n'] <:+: t
  front : ∀ c ∈ t.head?, isBlank c = false
  back : ∀ c ∈ t.getLast?, isBlank c = false

/-- The limit on blank lines and the trimming bring no command about, and no end of a word. -/
theorem PageFree.collapseBlankLines {t : Text} (h : PageFree t) :
    PageFree (collapseBlankLines t) := by
  intro name hname before after hsplit
  have hfeed : ∀ name ∈ pageNames, '\n' ∉ '\\' :: name.toList := by decide
  obtain ⟨front, gap, hgap, htrim⟩ := exists_trim (limitLineFeeds 0 t)
  have hlimit : limitLineFeeds 0 t =
      (front ++ before) ++ ('\\' :: name.toList ++ (after ++ gap)) := by
    rw [htrim, ← Conversion.collapseBlankLines, hsplit]
    simp only [List.append_assoc]
  obtain ⟨first, rest, ht, hrest⟩ :=
    exists_of_limitLineFeeds_eq (List.cons_ne_nil _ _) (hfeed name hname) hlimit
  obtain ⟨c, rest, rfl, hc⟩ := exists_of_atWordEnd_eq_false (h name hname first rest ht)
  have hword : c ≠ '\n' := by
    rintro rfl
    exact absurd hc (by decide +kernel)
  rw [limitLineFeeds, if_neg hword] at hrest
  cases after with
  | nil =>
      -- the word would go on in the blanks that are trimmed
      rw [List.nil_append] at hrest
      have hblank : isBlank c = true := List.all_eq_true.mp hgap c (hrest ▸ List.mem_cons_self ..)
      rw [isWordChar_eq_false_of_isBlank hblank] at hc
      exact Bool.noConfusion hc
  | cons d after =>
      obtain ⟨rfl, -⟩ := List.cons.inj hrest
      simp [atWordEnd, hc]

theorem not_infix_collapseBlankLines {mark t : Text} (hne : mark ≠ []) (hfeed : '\n' ∉ mark)
    (h : ¬ mark <:+: t) : ¬ mark <:+: collapseBlankLines t := by
  intro hmark
  obtain ⟨before, after, hsplit⟩ := hmark.trans (infix_of_trim (limitLineFeeds 0 t))
  rw [List.append_assoc] at hsplit
  obtain ⟨front, rest, rfl, -⟩ := exists_of_limitLineFeeds_eq hne hfeed hsplit.symm
  exact h ⟨front, rest, List.append_assoc ..⟩

/-- What the last three passes leave of any text. -/
theorem cleanedUp_lastPasses (t : Text) :
    CleanedUp (collapseBlankLines (stripPageCommands (Markdown.appendix t))) where
  pageFree := (pageFree_stripPageCommands _).collapseBlankLines
  appendixFree := not_infix_collapseBlankLines (by decide) (by decide)
    (appendixFree_stripPageCommands (appendixFree_appendix t))
  blankLines hfeeds := (not_lineFeeds_limitLineFeeds _ (Nat.zero_le 2)).2
    (hfeeds.trans (infix_of_trim _))
  front _ hc := isBlank_head_trim hc
  back _ hc := isBlank_getLast_trimEnd hc

/-- Markdown holds no page commands and no start of an appendix, whatever pieces of commands the
body holds, one blank line at most between two others, and no blanks at either end. -/
theorem cleanedUp_toMarkdown (numbers : Citation.Numbering) (body : Text) :
    CleanedUp (toMarkdown numbers body) := by
  have happendix (t : Text) : (Step.every (.literal "\\appendix".toList
      "\n## Appendix\n".toList)).run t = Markdown.appendix t := rfl
  rw [toMarkdown_eq, Markdown.lateSteps, runSteps_append, runSteps_cons, runSteps_cons,
    runSteps_nil, run_pageStep, happendix]
  exact cleanedUp_lastPasses _

end PaperHtml.Conversion

import Mathlib
import PaperHtml.Conversion.Pass
import PaperHtml.Proofs.Text.Seams

/-!
# Fenced blocks

A fenced block of lines goes through the fonts and through the limit on blank
lines as it is.

## Strategy

The fonts are set between fenced blocks only, so it is enough that the block is
found as one: no backtick stands in it, and the text in front of it has no open
fence (`FenceApart`).  The limit on blank lines counts line feeds, and the count
starts anew at any other character; no line of the block is empty, and the two
fences are no blanks, so trimming ends outside the block.
-/

namespace PaperHtml.Conversion.Markdown

open Text

/-- What a fenced block of lines holds between its fences. -/
def fenceBody (ls : List Text) : Text := "text".toList ++ '\n' :: (unlines ls ++ ['\n'])

/-- Lines in a fenced block. -/
def fenced (ls : List Text) : Text := ['`', '`', '`'] ++ (fenceBody ls ++ ['`', '`', '`'])

/-! ## Fonts -/

/-- The fences of a text are closed before a backtick that follows it. -/
def FenceApart (front : Text) : Prop :=
  ∀ rest, Scanner.pieces fence (front ++ '`' :: rest) =
    Scanner.pieces fence front ++ Scanner.pieces fence ('`' :: rest)

theorem fence_eq_none_of_not_mem {t : Text} (h : '`' ∉ t) :
    ∀ c ∈ t, ∀ rest, fence (c :: rest) = none := by
  intro c hc rest
  have hne : '`' ≠ c := fun heq => h (heq ▸ hc)
  simp [fence, Math.delimited, dropPrefix?, hne]

theorem fenceApart_of_not_mem {front : Text} (h : '`' ∉ front) : FenceApart front := by
  have hnone := fence_eq_none_of_not_mem h
  intro rest
  have hfront := @Scanner.pieces_append_of_none _ fence front [] hnone
  rw [List.append_nil, Scanner.pieces_nil, List.append_nil] at hfront
  rw [Scanner.pieces_append_of_none hnone, hfront]

/-- A block stands between two stretches of prose, each of which is set by itself. -/
theorem styleStretches_append_hit (prose : Text) (before after : List (Piece Text))
    (block : Text) :
    styleStretches prose (before ++ .hit block :: after) =
      styleStretches prose before ++ (block ++ styleStretches [] after) := by
  induction before generalizing prose with
  | nil => simp [styleStretches]
  | cons piece before ih => cases piece <;> simp [styleStretches, ih]

/-- A text between fences. -/
def fencedText (inner : Text) : Text := ['`', '`', '`'] ++ (inner ++ ['`', '`', '`'])

theorem pieces_fencedText {inner : Text} (h : '`' ∉ inner) (rest : Text) :
    Scanner.pieces fence (fencedText inner ++ rest) =
      .hit (fencedText inner) :: Scanner.pieces fence rest := by
  have hcut : cut? ['`', '`', '`'] (inner ++ (['`', '`', '`'] ++ rest)) = some (inner, rest) := by
    have hhere : cut? ['`', '`', '`'] (['`', '`', '`'] ++ rest) = some ([], rest) := rfl
    rw [cut?_append_of_not_mem h, hhere, Option.map_some, List.append_nil]
  have hfound : fence (fencedText inner ++ rest) = some (fencedText inner, rest) := by
    rw [fencedText, List.append_assoc, List.append_assoc, fence, Math.delimited, dropPrefix?_append,
      Option.bind_some, hcut]
    rfl
  exact Scanner.pieces_of_some hfound

/-- A fenced text stays, and what stands around it is set by itself. -/
theorem textStyles_fencedText {front inner : Text} (hfront : FenceApart front) (h : '`' ∉ inner)
    (rest : Text) :
    textStyles (front ++ (fencedText inner ++ rest)) =
      textStyles front ++ (fencedText inner ++ textStyles rest) := by
  have hopen : fencedText inner ++ rest = '`' :: (fencedText inner ++ rest).tail := rfl
  rw [textStyles, hopen, hfront, ← hopen, pieces_fencedText h, styleStretches_append_hit]
  rfl

theorem textStyles_fenced {front : Text} {ls : List Text} (hfront : FenceApart front)
    (h : '`' ∉ unlines ls) (rest : Text) :
    textStyles (front ++ (fenced ls ++ rest)) =
      textStyles front ++ (fenced ls ++ textStyles rest) := by
  have hbody : '`' ∉ fenceBody ls := by
    simp [fenceBody, h]
  exact textStyles_fencedText hfront hbody rest

/-- A text without fences is set as a whole. -/
theorem textStyles_of_not_mem {t : Text} (h : '`' ∉ t) : textStyles t = styleAround t := by
  have hstretch (prose : Text) (t : Text) :
      styleStretches prose (t.map .plain) = styleAround (prose.reverse ++ t) := by
    induction t generalizing prose with
    | nil => simp [styleStretches]
    | cons c t ih => simp [styleStretches, ih]
  have hpieces : Scanner.pieces fence t = t.map .plain := by
    have hpassed := @Scanner.pieces_append_of_none _ fence t [] (fence_eq_none_of_not_mem h)
    rwa [List.append_nil, Scanner.pieces_nil, List.append_nil] at hpassed
  rw [textStyles, hpieces, hstretch]
  rfl

/-! ## Blank lines -/

/-- A character that is no line feed begins a new count. -/
theorem limitLineFeeds_append_cons {c : Char} (hc : c ≠ '\n') (count : Nat) (t rest : Text) :
    limitLineFeeds count (t ++ c :: rest) =
      limitLineFeeds count t ++ c :: limitLineFeeds 0 rest := by
  induction t generalizing count with
  | nil => simp [limitLineFeeds, hc]
  | cons d t ih =>
      simp only [List.cons_append, limitLineFeeds]
      split
      · split
        · rw [ih, List.cons_append]
        · exact ih count
      · rw [ih, List.cons_append]

theorem limitLineFeeds_line {line : Text} (hne : line ≠ []) (hfeed : '\n' ∉ line) (count : Nat)
    (rest : Text) : limitLineFeeds count (line ++ rest) = line ++ limitLineFeeds 0 rest := by
  induction line generalizing count with
  | nil => exact absurd rfl hne
  | cons c line ih =>
      rw [List.mem_cons, not_or] at hfeed
      have hc : c ≠ '\n' := fun heq => hfeed.1 heq.symm
      rw [List.cons_append, limitLineFeeds, if_neg hc, List.cons_append]
      cases line with
      | nil => rfl
      | cons d line => rw [ih (List.cons_ne_nil _ _) hfeed.2]

theorem printed_limitLineFeeds (count : Nat) (t : Text) :
    printed (limitLineFeeds count t) = printed t := by
  induction t generalizing count with
  | nil => rfl
  | cons c t ih =>
      have hfeed : isBlank '\n' = true := by decide
      rw [limitLineFeeds]
      split
      · rename_i hc
        subst hc
        split <;> simp [printed_cons, hfeed, ih]
      · rw [printed_cons, printed_cons, ih]

/-- The limit on blank lines and the trimming take blanks away. -/
theorem printed_collapseBlankLines (t : Text) : printed (collapseBlankLines t) = printed t := by
  rw [collapseBlankLines, printed_trim, printed_limitLineFeeds]

/-- A text ends as before, since of a run of line feeds the first are kept. -/
theorem getLast?_limitLineFeeds (t : Text) : (limitLineFeeds 0 t).getLast? = t.getLast? := by
  -- with the line feeds in front that have been kept already
  have hkept (count : Nat) (hcount : count ≤ 2) :
      (List.replicate count '\n' ++ limitLineFeeds count t).getLast? =
        (List.replicate count '\n' ++ t).getLast? := by
    induction t generalizing count with
    | nil => rfl
    | cons c t ih =>
        rw [limitLineFeeds]
        split
        · rename_i hc
          subst hc
          split
          · rename_i hless
            have hnext := ih (count + 1) (by omega)
            simpa only [List.replicate_succ', List.append_assoc, List.singleton_append] using hnext
          · rename_i hfull
            obtain rfl : count = 2 := by omega
            rw [ih 2 (le_refl 2)]
            cases t <;> simp
        · have hrest := ih 0 (Nat.zero_le 2)
          rw [List.replicate_zero, List.nil_append, List.nil_append] at hrest
          rw [List.getLast?_append, List.getLast?_append, List.getLast?_cons, List.getLast?_cons,
            hrest]
  exact hkept 0 (Nat.zero_le 2)

/-- The line feeds between lines that are not empty are kept. -/
theorem limitLineFeeds_unlines {ls : List Text} (h : ∀ line ∈ ls, line ≠ [] ∧ '\n' ∉ line)
    {c : Char} (hc : c ≠ '\n') (rest : Text) :
    limitLineFeeds 1 (unlines ls ++ '\n' :: c :: rest) =
      unlines ls ++ '\n' :: c :: limitLineFeeds 0 rest := by
  induction ls with
  | nil => simp [unlines, join, limitLineFeeds, hc]
  | cons line ls ih =>
      obtain ⟨hne, hfeed⟩ := h line (List.mem_cons_self ..)
      have hmore := ih fun l hl => h l (List.mem_cons_of_mem _ hl)
      cases ls with
      | nil =>
          rw [unlines_singleton, limitLineFeeds_line hne hfeed]
          simp [limitLineFeeds, hc]
      | cons next ls =>
          have hsplit := @unlines_append [line] (next :: ls) (List.cons_ne_nil _ _)
            (List.cons_ne_nil _ _)
          rw [List.singleton_append, unlines_singleton] at hsplit
          rw [hsplit, List.append_assoc, limitLineFeeds_line hne hfeed, List.cons_append,
            limitLineFeeds, if_pos rfl, if_pos (by decide), hmore]
          simp

theorem limitLineFeeds_fenced {ls : List Text} (h : ∀ line ∈ ls, line ≠ [] ∧ '\n' ∉ line)
    (front rest : Text) :
    limitLineFeeds 0 (front ++ (fenced ls ++ rest)) =
      limitLineFeeds 0 front ++ (fenced ls ++ limitLineFeeds 0 rest) := by
  have htick : '`' ≠ '\n' := by decide
  -- the opening fence with its word is a line, and so is the closing fence
  have hblock : fenced ls ++ rest =
      "```text".toList ++ '\n' :: (unlines ls ++ '\n' :: '`' :: ('`' :: '`' :: rest)) := by
    simp [fenced, fenceBody]
  have hopening (t : Text) : limitLineFeeds 0 ("```text".toList ++ '\n' :: t) =
      "```text".toList ++ '\n' :: limitLineFeeds 1 t :=
    limitLineFeeds_line (by decide) (by decide) 0 ('\n' :: t)
  have hclosing : limitLineFeeds 0 ('`' :: '`' :: rest) = '`' :: '`' :: limitLineFeeds 0 rest := rfl
  have hstart : fenced ls ++ rest = '`' :: (fenced ls ++ rest).tail := rfl
  have hinside : limitLineFeeds 0 (fenced ls ++ rest) = fenced ls ++ limitLineFeeds 0 rest := by
    rw [hblock, hopening, limitLineFeeds_unlines h htick, hclosing]
    simp [fenced, fenceBody]
  have hfront := limitLineFeeds_append_cons htick 0 front (fenced ls ++ rest).tail
  have hhere := limitLineFeeds_append_cons htick 0 [] (fenced ls ++ rest).tail
  rw [← hstart] at hfront
  rw [List.nil_append, ← hstart] at hhere
  rw [hfront, ← hinside, hhere]
  rfl

/-- Trimming ends outside a block. -/
theorem trim_fenced (front : Text) (ls : List Text) (rest : Text) :
    trim (front ++ (fenced ls ++ rest)) = trimStart front ++ (fenced ls ++ trimEnd rest) := by
  obtain ⟨inside, hinside⟩ : ∃ inside, fenced ls = '`' :: (inside ++ ['`']) :=
    ⟨['`', '`'] ++ (fenceBody ls ++ ['`', '`']), by simp [fenced]⟩
  have hblock (t : Text) : fenced ls ++ t = '`' :: (inside ++ '`' :: t) := by simp [hinside]
  rw [hblock, hblock, trim, trimStart_append_cons (by decide), ← List.cons_append,
    ← List.append_assoc, trimEnd_append_cons (by decide)]
  simp

/-- The limit on blank lines and the trimming do not reach into a fenced block. -/
theorem collapseBlankLines_fenced {ls : List Text} (h : ∀ line ∈ ls, line ≠ [] ∧ '\n' ∉ line)
    (front rest : Text) :
    collapseBlankLines (front ++ (fenced ls ++ rest)) =
      trimStart (limitLineFeeds 0 front) ++
        (fenced ls ++ trimEnd (limitLineFeeds 0 rest)) := by
  rw [collapseBlankLines, limitLineFeeds_fenced h, trim_fenced]

end PaperHtml.Conversion.Markdown

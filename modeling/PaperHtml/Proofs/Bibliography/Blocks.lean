import Mathlib
import PaperHtml.Proofs.Bibliography.Boundary

/-!
# Blocks put below one another

A bibliography as a sequence of blocks `@word{…}`.  The reader does not follow the
braces of a block, so blocks are not independent of one another: one that holds the
beginning of an entry but has no closing brace at the start of a line takes in the
blocks below it, up to the next one that has.  `units` puts the blocks together that
way, and the reader reads each unit as if it stood alone.

## Strategy

A beginning holds no closing brace and a block ends with one, hence no entry begins
in one block and has its key in the next.  What remains is where entries end.  A text
that ends with a closing brace at the start of a line closes every entry that
begins in it; a text in which none begins leaves nothing to close.  In both
cases the scan of what follows starts anew (`findAll_append_of_ended`).
-/

namespace PaperHtml.Bibliography

open Text

/-! ## Blocks -/

/-- The block of a word and of what stands in its braces. -/
def blockOf (word inner : Text) : Text := '@' :: (word ++ braced inner)

/-- A block with a word and braces, without comments and without a closing brace at the start of a
line before its own last one. -/
structure IsBlock (block : Text) : Prop where
  shape : ∃ word inner, (word ≠ [] ∧ ∀ c ∈ word, isWordChar c = true) ∧
    block = blockOf word inner
  noComment : ∀ line ∈ lines block, isComment line = false
  noClosing : ¬ closing <:+: block.dropLast

/-- Whether all braces of a text are closed in it, when `depth` are open before it. -/
def isBalancedFrom : (depth : Nat) → Text → Bool
  | depth, [] => depth == 0
  | depth, '{' :: rest => isBalancedFrom (depth + 1) rest
  | 0, '}' :: _ => false
  | depth + 1, '}' :: rest => isBalancedFrom depth rest
  | depth, _ :: rest => isBalancedFrom depth rest

/-- Whether the beginning of an entry stands in a text. -/
def HasBeginning (t : Text) : Prop := ∃ kind key head, Begins kind key head ∧ head <:+: t

/-- Whether a text ends with a closing brace at the start of a line. -/
def EndsOnLine (t : Text) : Prop := closing <:+ t

instance (t : Text) : Decidable (EndsOnLine t) := inferInstanceAs (Decidable (closing <:+ t))

theorem IsBlock.exists_brace {block : Text} (h : IsBlock block) : ∃ front, block = front ++ ['}'] := by
  obtain ⟨word, inner, -, rfl⟩ := h.shape
  exact ⟨'@' :: (word ++ '{' :: inner), by simp [blockOf, braced]⟩

theorem isBlock_blockOf {word inner : Text} (hne : word ≠ []) (hword : word.all isWordChar = true)
    (hlines : (lines (blockOf word inner)).all (fun line => !isComment line) = true)
    (hclosing : ¬ closing <:+: (blockOf word inner).dropLast) : IsBlock (blockOf word inner) where
  shape := ⟨word, inner, ⟨hne, List.all_eq_true.mp hword⟩, rfl⟩
  noComment line hline := by simpa using List.all_eq_true.mp hlines line hline
  noClosing := hclosing

/-! ## Beginnings within a text -/

/-- A beginning cannot reach behind a closing brace. -/
theorem Begins.isPrefix {kind key head front rest : Text} (h : Begins kind key head)
    (hhead : head <+: front ++ '}' :: rest) : head <+: front := by
  have hbrace := h.brace_not_mem
  by_cases hlength : head.length ≤ front.length
  · exact List.prefix_of_prefix_length_le hhead (List.prefix_append _ _) hlength
  · have hlong : (front ++ ['}']).length ≤ head.length := by
      rw [List.length_append, List.length_singleton]
      omega
    have hfront : front ++ ['}'] <+: head :=
      List.prefix_of_prefix_length_le ⟨rest, by simp⟩ hhead hlong
    exact absurd (hfront.subset (by simp)) hbrace

/-- Nor does a beginning end with the line feed before a closing brace. -/
theorem Begins.isPrefix_of_closing {kind key head front rest : Text} (h : Begins kind key head)
    (hhead : head <+: front ++ closing ++ rest) : head <+: front := by
  have hwhole : head <+: (front ++ ['\n']) ++ '}' :: rest := by simpa [closing] using hhead
  have hfeed : head <+: front ++ ['\n'] := h.isPrefix hwhole
  rcases List.prefix_concat_iff.mp hfeed with e | hfront
  · obtain ⟨begun, hcomma⟩ := h.exists_comma
    have hlast := congrArg List.getLast? (hcomma.symm.trans e)
    simp at hlast
  · exact hfront

/-- Where an entry begins and a line with a closing brace follows, an entry is read. -/
theorem Begins.exists_read {kind key head : Text} (h : Begins kind key head) (inner : Text) :
    ∃ found, rawEntry? (head ++ inner ++ closing) = some found := by
  obtain ⟨⟨body, after⟩, hcut⟩ := Option.ne_none_iff_exists'.mp (cut?_append_ne_none closing inner [])
  rw [List.append_nil] at hcut
  exact ⟨_, rawEntry?_eq_some_iff.mpr ⟨head, _, List.append_assoc .., h, hcut⟩⟩

/-- A beginning stands in a text if and only if an entry would be read there were it closed. -/
theorem hasBeginning_iff {t : Text} :
    HasBeginning t ↔ ∃ back ∈ t.tails, rawEntry? (back ++ closing) ≠ none := by
  constructor
  · rintro ⟨kind, key, head, hbegins, before, inner, rfl⟩
    obtain ⟨found, hread⟩ := hbegins.exists_read inner
    exact ⟨head ++ inner, (List.mem_tails _ _).mpr ⟨before, by simp⟩, by rw [hread]; simp⟩
  · rintro ⟨back, hback, hread⟩
    obtain ⟨⟨⟨kind, key, body⟩, after⟩, hread⟩ := Option.ne_none_iff_exists'.mp hread
    obtain ⟨head, rest, hsplit, hbegins, -⟩ := rawEntry?_eq_some_iff.mp hread
    have hhead : head <+: back :=
      hbegins.isPrefix_of_closing ⟨rest, by rw [← hsplit, List.append_nil]⟩
    exact ⟨kind, key, head, hbegins, hhead.isInfix.trans ((List.mem_tails _ _).mp hback).isInfix⟩

instance (t : Text) : Decidable (HasBeginning t) := decidable_of_iff _ hasBeginning_iff.symm

/-! ## Texts behind which the scan starts anew -/

/-- Whether nothing that begins in a text reaches behind it. -/
def IsEnded (t : Text) : Prop := EndsOnLine t ∨ (¬ HasBeginning t ∧ ∃ front, t = front ++ ['}'])

private theorem rawEntry?_append_of_endsOnLine {back rest : Text} (h : EndsOnLine back) :
    rawEntry? (back ++ rest) = ( rawEntry? back).map fun found => (found.1, found.2 ++ rest) := by
  obtain ⟨front, rfl⟩ := h
  cases hread : rawEntry? (front ++ closing) with
  | some found =>
      obtain ⟨⟨kind, key, body⟩, after⟩ := found
      obtain ⟨head, inner, hsplit, hbegins, hcut⟩ := rawEntry?_eq_some_iff.mp hread
      rw [hsplit]
      exact rawEntry?_eq_some_iff.mpr
        ⟨head, inner ++ rest, List.append_assoc .., hbegins, cut?_append_of_some hcut rest⟩
  | none =>
      rw [Option.map_none, Option.eq_none_iff_forall_ne_some]
      rintro ⟨⟨kind, key, body⟩, after⟩ hwhole
      obtain ⟨head, behind, hsplit, hbegins, -⟩ := rawEntry?_eq_some_iff.mp hwhole
      obtain ⟨inner, rfl⟩ := hbegins.isPrefix_of_closing ⟨behind, hsplit.symm⟩
      obtain ⟨found, hfound⟩ := hbegins.exists_read inner
      rw [hread] at hfound
      cases hfound

private theorem rawEntry?_of_not_hasBeginning {front : Text} (h : ¬ HasBeginning (front ++ ['}']))
    (rest : Text) : rawEntry? (front ++ ['}'] ++ rest) = none := by
  rw [Option.eq_none_iff_forall_ne_some]
  rintro ⟨⟨kind, key, body⟩, after⟩ hread
  obtain ⟨head, behind, hsplit, hbegins, -⟩ := rawEntry?_eq_some_iff.mp hread
  have hhead : head <+: front := hbegins.isPrefix ⟨behind, by simpa using hsplit.symm⟩
  exact h ⟨kind, key, head, hbegins, hhead.isInfix.trans (List.prefix_append _ _).isInfix⟩

/-- Behind a text that is ended the scan starts anew. -/
theorem findAll_append_of_isEnded {t : Text} (h : IsEnded t) (rest : Text) :
    Scanner.findAll rawEntry? (t ++ rest) =
      Scanner.findAll rawEntry? t ++ Scanner.findAll rawEntry? rest := by
  refine Scanner.findAll_append fun back hback hne => ?_
  rcases h with hends | ⟨hbegins, front, rfl⟩
  · -- the brace alone begins no entry, and every longer end of the text ends on its line as well
    rcases List.suffix_or_suffix_of_suffix hends hback with hends | hshort
    · exact rawEntry?_append_of_endsOnLine hends
    · rcases List.suffix_cons_iff.mp hshort with rfl | hshort
      · exact rawEntry?_append_of_endsOnLine (List.suffix_refl _)
      · rcases List.suffix_cons_iff.mp hshort with rfl | hshort
        · rfl
        · exact absurd (List.suffix_nil.mp hshort) hne
  · obtain ⟨begun, rfl⟩ : ∃ begun, back = begun ++ ['}'] := by
      rcases List.suffix_concat_iff.mp hback with rfl | ⟨begun, rfl, -⟩
      · exact absurd rfl hne
      · exact ⟨begun, rfl⟩
    have hnone : ¬ HasBeginning (begun ++ ['}']) := fun ⟨kind, key, head, hbegins', hhead⟩ =>
      hbegins ⟨kind, key, head, hbegins', hhead.trans hback.isInfix⟩
    have hback := rawEntry?_of_not_hasBeginning hnone []
    rw [List.append_nil] at hback
    rw [hback, rawEntry?_of_not_hasBeginning hnone rest, Option.map_none]

/-! ## Units -/

/-- Whether a block takes in what stands below it. -/
def IsOpen (block : Text) : Prop := HasBeginning block ∧ ¬ EndsOnLine block

instance (block : Text) : Decidable (IsOpen block) :=
  inferInstanceAs (Decidable (HasBeginning block ∧ ¬ EndsOnLine block))

/-- `units` with the blocks of a unit that is still open. -/
def unitsFrom : (unit : List Text) → List Text → List (List Text)
  | [], [] => []
  | unit, [] => [unit]
  | [], block :: rest =>
    if IsOpen block then unitsFrom [block] rest else [block] :: unitsFrom [] rest
  | unit, block :: rest =>
    if EndsOnLine block then (unit ++ [block]) :: unitsFrom [] rest
    else unitsFrom (unit ++ [block]) rest

/-- The blocks put together: an open block with those below it, up to the first that ends on a
line of its own, and every other block alone. -/
def units (blocks : List Text) : List (List Text) := unitsFrom [] blocks

theorem isEnded_of_not_isOpen {block : Text} (h : IsBlock block) (hopen : ¬ IsOpen block) :
    IsEnded block := by
  by_cases hends : EndsOnLine block
  · exact .inl hends
  · exact .inr ⟨fun hbegins => hopen ⟨hbegins, hends⟩, h.exists_brace⟩

/-- Blocks end on a line if the last of them does. -/
theorem EndsOnLine.unlines_concat {block : Text} (h : EndsOnLine block) (above : List Text) :
    EndsOnLine (unlines (above ++ [block])) := by
  cases above with
  | nil => simpa using h
  | cons first above =>
      rw [unlines_append (List.cons_ne_nil _ _) (List.cons_ne_nil _ _), unlines_singleton,
        List.append_cons]
      exact h.trans (List.suffix_append _ _)

/-- Blocks that are ended are read alone. -/
theorem findAll_unlines_append {above : List Text} (hne : above ≠ []) (h : IsEnded (unlines above))
    (below : List Text) :
    Scanner.findAll rawEntry? (unlines (above ++ below)) =
      Scanner.findAll rawEntry? (unlines above) ++ Scanner.findAll rawEntry? (unlines below) := by
  cases below with
  | nil => simp [unlines, join]
  | cons next below =>
      rw [unlines_append hne (List.cons_ne_nil _ _), findAll_append_of_isEnded h]
      rfl

theorem findAll_unlines_unitsFrom (unit : List Text) {blocks : List Text}
    (h : ∀ block ∈ blocks, IsBlock block) :
    Scanner.findAll rawEntry? (unlines (unit ++ blocks)) =
      (unitsFrom unit blocks).flatMap fun unit => Scanner.findAll rawEntry? (unlines unit) := by
  induction blocks generalizing unit with
  | nil =>
      cases unit with
      | nil => rfl
      | cons first unit => simp [unitsFrom]
  | cons block rest ih =>
      obtain ⟨hblock, hrest⟩ := List.forall_mem_cons.mp h
      have hgrow : unit ++ block :: rest = unit ++ [block] ++ rest := List.append_cons ..
      have hnew := ih [] hrest
      rw [List.nil_append] at hnew
      -- a unit either grows by the block, or ends with it
      have hgrown : (unitsFrom unit (block :: rest) = unitsFrom (unit ++ [block]) rest) ∨
          (unitsFrom unit (block :: rest) = (unit ++ [block]) :: unitsFrom [] rest ∧
            IsEnded (unlines (unit ++ [block]))) := by
        cases unit with
        | nil =>
            by_cases hopen : IsOpen block
            · exact .inl (by simp [unitsFrom, hopen])
            · have hended := isEnded_of_not_isOpen hblock hopen
              exact .inr ⟨by simp [unitsFrom, hopen], by simpa using hended⟩
        | cons first unit =>
            by_cases hends : EndsOnLine block
            · exact .inr ⟨by simp [unitsFrom, hends], .inl (hends.unlines_concat _)⟩
            · exact .inl (by simp [unitsFrom, hends])
      rcases hgrown with hgrown | ⟨hgrown, hended⟩
      · rw [hgrow, ih _ hrest, hgrown]
      · rw [hgrow, findAll_unlines_append (by simp) hended, hnew, hgrown, List.flatMap_cons]

/-- The blocks of the units are the blocks. -/
theorem flatten_unitsFrom (unit blocks : List Text) :
    (unitsFrom unit blocks).flatten = unit ++ blocks := by
  induction blocks generalizing unit with
  | nil => cases unit <;> simp [unitsFrom]
  | cons block rest ih =>
      cases unit with
      | nil =>
          rw [unitsFrom]
          split <;> simp [ih]
      | cons first unit =>
          simp only [unitsFrom]
          split <;> simp [ih]

/-! ## Texts in which nothing is closed -/

theorem rawEntry?_of_not_closing {t : Text} (h : ¬ closing <:+: t) : rawEntry? t = none := by
  rw [Option.eq_none_iff_forall_ne_some]
  rintro ⟨⟨kind, key, body⟩, after⟩ hread
  obtain ⟨head, rest, rfl, -, hcut⟩ := rawEntry?_eq_some_iff.mp hread
  have hsplit := cut?_eq_some hcut
  exact h ⟨head ++ body, after, by simp [hsplit]⟩

theorem findAll_of_not_closing {t : Text} (h : ¬ closing <:+: t) : Scanner.findAll rawEntry? t = [] :=
  Scanner.findAll_eq_nil fun _ hback =>
    rawEntry?_of_not_closing fun hclosing => h (hclosing.trans hback.isInfix)

theorem IsBlock.not_closing {block : Text} (h : IsBlock block) (hends : ¬ EndsOnLine block) :
    ¬ closing <:+: block := by
  obtain ⟨front, rfl⟩ := h.exists_brace
  have hfront : ¬ closing <:+: front := by simpa using h.noClosing
  rw [List.infix_concat_iff, not_or]
  exact ⟨hends, hfront⟩

/-- Blocks none of which ends on a line close nothing together either. -/
theorem not_closing_unlines {blocks : List Text}
    (h : ∀ block ∈ blocks, IsBlock block ∧ ¬ EndsOnLine block) : ¬ closing <:+: unlines blocks := by
  induction blocks with
  | nil => decide
  | cons block rest ih =>
      obtain ⟨⟨hblock, hends⟩, hrest⟩ := List.forall_mem_cons.mp h
      have hinside := hblock.not_closing hends
      cases rest with
      | nil => simpa using hinside
      | cons next rest =>
          obtain ⟨below, hbelow⟩ : ∃ below, unlines (next :: rest) = '@' :: below := by
            obtain ⟨word, inner, -, hshape⟩ := (hrest next (List.mem_cons_self ..)).1.shape
            cases rest with
            | nil => exact ⟨_, by rw [unlines_singleton, hshape]; rfl⟩
            | cons last rest =>
                exact ⟨_, by rw [unlines, join, List.intercalate_cons_cons, hshape]; rfl⟩
          -- a line feed stands between two blocks, and the next one begins with an at sign
          have hseam : ¬ closing <:+: block ++ ['\n'] := by
            rw [List.infix_concat_iff, not_or]
            refine ⟨fun hsuffix => ?_, hinside⟩
            obtain ⟨front, hfront⟩ := hsuffix
            have hlast := congrArg List.getLast? hfront
            simp [closing] at hlast
          have hnext := cut?_eq_none_iff.mpr (ih hrest)
          rw [← List.singleton_append, unlines_append (List.cons_ne_nil _ _) (List.cons_ne_nil _ _),
            unlines_singleton, ← cut?_eq_none_iff, cut?_append hseam, hbelow, cut?_cons]
          have hdrop : dropPrefix? closing ('\n' :: '@' :: below) = none := rfl
          rw [hbelow] at hnext
          simp [hdrop, hnext]

/-! ## Reading blocks -/

/-- Blocks are read alone if no open one stands above one that ends on a line. -/
theorem findAll_unlines_of_pairwise {blocks : List Text} (h : ∀ block ∈ blocks, IsBlock block)
    (hopen : blocks.Pairwise fun above below => IsOpen above → ¬ EndsOnLine below) :
    Scanner.findAll rawEntry? (unlines blocks) = blocks.flatMap (Scanner.findAll rawEntry?) := by
  induction blocks with
  | nil => rfl
  | cons block rest ih =>
      obtain ⟨hblock, hrest⟩ := List.forall_mem_cons.mp h
      obtain ⟨hbelow, hpairwise⟩ := List.pairwise_cons.mp hopen
      by_cases hblockOpen : IsOpen block
      · -- nothing below the block ends it, so there is no entry at all
        have hends : ∀ other ∈ block :: rest, IsBlock other ∧ ¬ EndsOnLine other := by
          intro other hother
          refine ⟨h other hother, ?_⟩
          rcases List.mem_cons.mp hother with rfl | hother
          · exact hblockOpen.2
          · exact hbelow other hother hblockOpen
        have halone : (block :: rest).flatMap (Scanner.findAll rawEntry?) = [] :=
          List.flatMap_eq_nil_iff.mpr fun other hother =>
            findAll_of_not_closing ((hends other hother).1.not_closing (hends other hother).2)
        rw [halone, findAll_of_not_closing (not_closing_unlines hends)]
      · have hended : IsEnded (unlines [block]) := by
          simpa using isEnded_of_not_isOpen hblock hblockOpen
        rw [← List.singleton_append, findAll_unlines_append (List.cons_ne_nil _ _) hended,
          ih hrest hpairwise, unlines_singleton]
        rfl

theorem eraseComments_unlines {blocks : List Text} (h : ∀ block ∈ blocks, IsBlock block) :
    eraseComments (unlines blocks) = unlines blocks := by
  apply eraseComments_eq_self
  intro line hline
  rcases mem_lines_unlines hline with ⟨block, hblock, hline⟩ | rfl
  · exact (h block hblock).noComment line hline
  · rfl

private theorem read_eq_flatMap {t : Text} {parts : List Text} (ht : eraseComments t = t)
    (hparts : ∀ part ∈ parts, eraseComments part = part)
    (hfind : Scanner.findAll rawEntry? t = parts.flatMap (Scanner.findAll rawEntry?)) :
    read t = parts.flatMap read := by
  rw [read, ht, hfind, List.filterMap_flatMap]
  refine List.flatMap_congr fun part hpart => ?_
  rw [read, hparts part hpart]

/-- The reader reads every unit of a sequence of blocks alone.  Thus it reads every block alone,
unless a block that holds the beginning of an entry and does not end on a line of its own stands
above one that does. -/
theorem read_unlines (blocks : List Text) (h : ∀ block ∈ blocks, IsBlock block) :
    (read (unlines blocks) = (units blocks).flatMap fun unit => read (unlines unit)) ∧
      ((blocks.Pairwise fun above below => IsOpen above → ¬ EndsOnLine below) →
        read (unlines blocks) = blocks.flatMap read) := by
  have hwhole := eraseComments_unlines h
  constructor
  · have hunits : ∀ part ∈ (units blocks).map unlines, eraseComments part = part := by
      intro part hpart
      obtain ⟨unit, hunit, rfl⟩ := List.mem_map.mp hpart
      refine eraseComments_unlines fun block hblock => h block ?_
      rw [← List.nil_append blocks, ← flatten_unitsFrom]
      exact List.mem_flatten.mpr ⟨unit, hunit, hblock⟩
    have hfind := findAll_unlines_unitsFrom [] h
    rw [List.nil_append] at hfind
    rw [read_eq_flatMap hwhole hunits (by rw [hfind, List.flatMap_map]; rfl), List.flatMap_map]
  · intro hopen
    have hblocks : ∀ block ∈ blocks, eraseComments block = block := fun block hblock =>
      eraseComments_eq_self (h block hblock).noComment
    exact read_eq_flatMap hwhole hblocks (findAll_unlines_of_pairwise h hopen)

/-- A string that is defined on one line. -/
def stringBlock : Text := blockOf "string".toList "jml = \x22J. of ML\x22".toList

/-- A comment on one line that begins as an entry does. -/
def commentBlock : Text := blockOf "comment".toList "note, see below".toList

/-- An entry on several lines. -/
def entryBlock : Text := blockOf "misc".toList "a,\n  title = \x7bThe \x7bA\x7d Paper\x7d\n".toList

theorem isBlock_stringBlock : IsBlock stringBlock :=
  isBlock_blockOf (by decide) (by decide) (by decide) (by decide)

theorem isBlock_commentBlock : IsBlock commentBlock :=
  isBlock_blockOf (by decide) (by decide) (by decide) (by decide)

theorem isBlock_entryBlock : IsBlock entryBlock :=
  isBlock_blockOf (by decide) (by decide) (by decide) (by decide)

/-- A comment below an entry does no harm. -/
theorem read_unlines_comment_below :
    (∀ block ∈ [stringBlock, entryBlock, commentBlock], IsBlock block) ∧
      read (unlines [stringBlock, entryBlock, commentBlock]) =
        [stringBlock, entryBlock, commentBlock].flatMap read := by
  have hblocks : ∀ block ∈ [stringBlock, entryBlock, commentBlock], IsBlock block := by
    simp [isBlock_stringBlock, isBlock_commentBlock, isBlock_entryBlock]
  have hopen : [stringBlock, entryBlock, commentBlock].Pairwise
      fun above below => IsOpen above → ¬ EndsOnLine below := by decide +kernel
  exact ⟨hblocks, (read_unlines _ hblocks).2 hopen⟩

/-- A comment above an entry takes it in: there is one in the entry alone, and none in both. -/
theorem read_unlines_comment_above :
    (∀ block ∈ [commentBlock, entryBlock], IsBlock block ∧ isBalancedFrom 0 block = true) ∧
      read (unlines [commentBlock, entryBlock]) ≠ [commentBlock, entryBlock].flatMap read := by
  constructor
  · have hcomment : isBalancedFrom 0 commentBlock = true := by decide +kernel
    have hentry : isBalancedFrom 0 entryBlock = true := by decide +kernel
    simp [isBlock_commentBlock, isBlock_entryBlock, hcomment, hentry]
  · intro hread
    have hjoined : (read (unlines [commentBlock, entryBlock])).length = 0 := by decide +kernel
    have halone : ([commentBlock, entryBlock].flatMap read).length = 1 := by decide +kernel
    rw [hread, halone] at hjoined
    cases hjoined

end PaperHtml.Bibliography

import Mathlib
import PaperHtml.Proofs.Citation.Document
import PaperHtml.Proofs.Conversion.Comments

/-!
# Citations behind a percent sign

Whatever stands behind a percent sign that begins a line, the order of the
citations and the links of the text around are the same: a citation that is
commented out takes no number.  A percent sign behind blanks begins no comment,
and then some text behind it does bring a citation in.

## Strategy

Two bodies that differ in one comment are the same without their comments.  For
the other direction a text is needed that cites a new key wherever its line
stands, also within a citation command that begins above.  Such a command has a
note or a list of keys open, and `]{}` ends both (`Stops`): a scan reads nothing
from in front of these three characters into what follows them
(`command?_append_of_suffix`), so it finds a citation there.
-/

namespace PaperHtml.Citation

open Text Latex

/-! ## The end of a command -/

/-- A closing bracket, and an empty list of keys. -/
def stop : Text := [']', '{', '}']

/-- A text that ends where a note has been closed and an empty list of keys has followed. -/
def Stops (t : Text) : Prop := t = ['{', '}'] ∨ ∃ u, t = u ++ stop

variable {t u back : Text}

theorem Stops.of_append_cons {v w : Text} (h : v ++ ']' :: w = u ++ stop) (hv : ']' ∉ v) :
    Stops w := by
  rcases List.append_eq_append_iff.mp h with ⟨gap, hu, hgap⟩ | ⟨gap, hv', hgap⟩
  · cases gap with
    | nil => exact .inl (List.cons.inj hgap).2
    | cons c gap => exact .inr ⟨gap, (List.cons.inj hgap).2⟩
  · cases gap with
    | nil => exact .inl (List.cons.inj hgap).2.symm
    | cons c gap =>
        obtain ⟨rfl, -⟩ := List.cons.inj hgap
        exact absurd (hv' ▸ by simp) hv

/-- Where no bracket is taken off the front, the end stays. -/
theorem Stops.of_cons {c : Char} (h : Stops (c :: t)) (hbrace : c ≠ '{') (hbracket : c ≠ ']') :
    Stops t := by
  rcases h with h | ⟨u, h⟩
  · exact absurd (List.cons.inj h).1 hbrace
  · cases u with
    | nil => exact absurd (List.cons.inj h).1 hbracket
    | cons d u => exact .inr ⟨u, (List.cons.inj h).2⟩

/-- A place in front of the end, or in the list of keys. -/
theorem stops_of_suffix (h : back <:+ u ++ stop) :
    Stops back ∨ back = ['}'] ∨ back = [] := by
  induction u with
  | nil =>
      rcases List.suffix_cons_iff.mp h with rfl | h
      · exact .inl (.inr ⟨[], rfl⟩)
      rcases List.suffix_cons_iff.mp h with rfl | h
      · exact .inl (.inl rfl)
      rcases List.suffix_cons_iff.mp h with rfl | h
      · exact .inr (.inl rfl)
      · exact .inr (.inr (List.suffix_nil.mp h))
  | cons c u ih =>
      rcases List.suffix_cons_iff.mp h with rfl | h
      · exact .inl (.inr ⟨c :: u, rfl⟩)
      · exact ih h

/-- A note that has begun is closed in front of the end. -/
theorem Stops.dropNote_append (h : Stops t) (rest : Text) :
    dropNote (t ++ rest) = dropNote t ++ rest ∧ Stops (dropNote t) := by
  rcases h with rfl | ⟨u, rfl⟩
  · exact ⟨rfl, .inl rfl⟩
  cases u with
  | nil => exact ⟨rfl, .inr ⟨[], rfl⟩⟩
  | cons c u =>
      by_cases hc : c = '['
      · subst hc
        have hmem : ']' ∈ u ++ stop := by simp [stop]
        obtain ⟨v, w, hsplit, hv⟩ := List.eq_append_cons_of_mem hmem
        have hnote (after : Text) : dropNote ('[' :: (v ++ ']' :: after)) = after := by
          rw [dropNote, note?, cutChar?_append hv]
        rw [List.cons_append, List.cons_append, hsplit, List.append_assoc, List.cons_append, hnote,
          hnote]
        exact ⟨rfl, .of_append_cons hsplit.symm hv⟩
      · have hnote (after : Text) : dropNote (c :: after) = c :: after := by
          unfold dropNote note?
          split
          · rename_i heq
            split at heq
            · rename_i hopen
              exact absurd (List.cons.inj hopen).1 hc
            · cases heq
          · rfl
        rw [List.cons_append, List.cons_append, hnote, hnote]
        exact ⟨rfl, .inr ⟨c :: u, rfl⟩⟩

/-- So is a list of keys. -/
theorem Stops.argument?_append (h : Stops t) (rest : Text) :
    argument? (t ++ rest) = (argument? t).map fun found => (found.1, found.2 ++ rest) := by
  rcases h with rfl | ⟨u, rfl⟩
  · rfl
  cases u with
  | nil => rfl
  | cons c u =>
      by_cases hc : c = '{'
      · subst hc
        exact cutChar?_append_of_mem (by simp [stop]) rest
      · have hnone (after : Text) : argument? (c :: after) = none := by
          unfold argument?
          split
          · rename_i hopen
            exact absurd (List.cons.inj hopen).1 hc
          · rfl
        rw [List.cons_append, List.cons_append, hnone, hnone]
        rfl

/-- The letter of a command stands in front of the end. -/
theorem Stops.dropLetter_append (h : Stops t) (rest : Text) :
    (dropAny? [['p'], ['t']] (t ++ rest)).getD (t ++ rest) =
        (dropAny? [['p'], ['t']] t).getD t ++ rest ∧
      Stops ((dropAny? [['p'], ['t']] t).getD t) := by
  cases t with
  | nil =>
      rcases h with h | ⟨u, h⟩
      · cases h
      · simp [stop] at h
  | cons c t =>
      by_cases hp : 'p' = c
      · subst hp
        exact ⟨rfl, h.of_cons (by decide) (by decide)⟩
      by_cases ht : 't' = c
      · subst ht
        exact ⟨rfl, h.of_cons (by decide) (by decide)⟩
      · have hnone (after : Text) : dropAny? [['p'], ['t']] (c :: after) = none := by
          simp [dropAny?, dropPrefix?, hp, ht]
        rw [List.cons_append, hnone, hnone]
        exact ⟨rfl, h⟩

/-- Behind letters that are no bracket and no brace there is more in front of the end. -/
theorem Stops.of_append {letters : Text} (hletters : ∀ c ∈ letters, c ≠ '{' ∧ c ≠ ']')
    (h : Stops (letters ++ t)) : Stops t := by
  induction letters with
  | nil => exact h
  | cons c letters ih =>
      obtain ⟨hc, hrest⟩ := List.forall_mem_cons.mp hletters
      exact ih hrest (h.of_cons hc.1 hc.2)

/-- No command that begins in front of the end goes on behind it. -/
theorem command?_append_of_suffix (hback : back <:+ u ++ stop) (hne : back ≠ []) (rest : Text) :
    command? (back ++ rest) = (command? back).map fun found => (found.1, found.2 ++ rest) := by
  rcases stops_of_suffix hback with hstops | rfl | rfl
  · cases hname : dropCommand? "cite".toList back with
    | none =>
        have hmore : dropCommand? "cite".toList (back ++ rest) = none := by
          rw [Option.eq_none_iff_forall_ne_some] at hname ⊢
          intro after hafter
          -- the name holds no brace, so it lies within the text
          obtain ⟨t, ht⟩ : ∃ t, back = t ++ ['}'] := by
            rcases hstops with rfl | ⟨u, rfl⟩
            · exact ⟨['{'], rfl⟩
            · exact ⟨u ++ [']', '{'], by simp [stop]⟩
          have hwhole : citeMark <+: t ++ ['}'] ++ rest :=
            ht ▸ ⟨after, (dropPrefix?_eq_some_iff.mp hafter).symm⟩
          have hlast : '}' ∉ citeMark.dropLast := by decide
          obtain ⟨behind, hbehind⟩ := prefix_of_prefix_append_last hlast hwhole
          exact hname behind (dropPrefix?_eq_some_iff.mpr (ht.trans hbehind.symm))
        rw [command?, command?, hname, hmore]
        rfl
    | some behind =>
        have hsplit : back = citeMark ++ behind := dropPrefix?_eq_some_iff.mp hname
        have hmore : dropCommand? "cite".toList (back ++ rest) = some (behind ++ rest) := by
          rw [hsplit, List.append_assoc]
          exact dropPrefix?_append citeMark _
        have hbehind : Stops behind := .of_append (by simp [citeMark]) (hsplit ▸ hstops)
        obtain ⟨hletter, hbehind⟩ := hbehind.dropLetter_append rest
        obtain ⟨hfirst, hnotes⟩ := hbehind.dropNote_append rest
        obtain ⟨hsecond, hlist⟩ := hnotes.dropNote_append rest
        simp only [command?, hname, hmore, Option.bind_some, hletter, hfirst, hsecond,
          hlist.argument?_append rest, Option.map_map]
        rfl
  · rfl
  · exact absurd rfl hne

/-! ## A citation of a new key -/

/-- There is a key that none of the keys is, with nothing in it that could end it. -/
theorem exists_new_key (keys : List Text) :
    ∃ key, key ∉ keys ∧ trim key = key ∧ key ≠ [] ∧ ',' ∉ key ∧ '}' ∉ key ∧ '\n' ∉ key := by
  -- a key longer than all of them
  refine ⟨List.replicate ((keys.map List.length).sum + 1) 'x', fun hmem => ?_, ?_, by simp, ?_⟩
  · have hle := List.le_sum_of_mem (List.mem_map_of_mem (f := List.length) hmem)
    rw [List.length_replicate] at hle
    omega
  · have hstart (n : Nat) : trimStart (List.replicate (n + 1) 'x') = List.replicate (n + 1) 'x' :=
      trimStart_cons (by decide) _
    rw [trim, hstart, trimEnd, List.reverse_replicate, ← trimStart, hstart,
      List.reverse_replicate]
  · simp [List.mem_replicate]

/-- A citation behind the end of all commands is found. -/
theorem mem_cited_behind_stop {key : Text} (htrim : trim key = key) (hne : key ≠ [])
    (hcomma : ',' ∉ key) (hbrace : '}' ∉ key) (front rest : Text) :
    key ∈ cited (front ++ stop ++ (citeMark ++ braced key ++ rest)) := by
  let command : WrittenCommand := ⟨.plain, [], [key], by simp, by simp, by simp [hcomma, hbrace]⟩
  have hsource : command.source = citeMark ++ braced key := by
    simp [WrittenCommand.source, CommandForm.letter, WrittenCommand.arguments,
      WrittenCommand.list, join, command]
  have hcited : command.cited = [key] := by
    simp [WrittenCommand.cited, htrim, hne, command]
  have hfound := command.command?_source rest
  rw [hsource, hcited] at hfound
  rw [cited, Scanner.findAll_append fun back hback hback' =>
    command?_append_of_suffix hback hback' _,
    Scanner.findAll_append_of_some (by simp [citeMark]) hfound]
  simp

/-! ## Lines behind a percent sign -/

/-- A line that has a percent sign behind blanks, or at its front. -/
def percentLine (indent t : Text) : Text := indent ++ '%' :: t

/-- A percent sign behind blanks begins no comment. -/
theorem isCommentLine_percentLine {c : Char} {indent : Text} (hc : c ≠ '%') (t : Text) :
    isCommentLine (percentLine (c :: indent) t) = false := by
  simp [percentLine, isCommentLine, hc]

/-- A text behind a percent sign that is no comment can bring a key in. -/
theorem mem_order_percentLine {c : Char} {indent key : Text} (hc : c ≠ '%')
    (hfeed : '\n' ∉ c :: indent) (htrim : trim key = key) (hne : key ≠ []) (hcomma : ',' ∉ key)
    (hbrace : '}' ∉ key) (hkey : '\n' ∉ key) {above below : List Text}
    (habove : ∀ line ∈ above, '\n' ∉ line) (hbelow : ∀ line ∈ below, '\n' ∉ line) :
    key ∈ order (unlines (above ++
      percentLine (c :: indent) (stop ++ (citeMark ++ braced key)) :: below)) := by
  have hline : '\n' ∉ percentLine (c :: indent) (stop ++ (citeMark ++ braced key)) := by
    simp only [percentLine, List.mem_append, List.mem_cons, not_or]
    rw [List.mem_cons, not_or] at hfeed
    exact ⟨hfeed, by decide, by decide, by decide, by simp [braced, hkey]⟩
  have hlines : lines (unlines (above ++
      percentLine (c :: indent) (stop ++ (citeMark ++ braced key)) :: below)) =
        above ++ percentLine (c :: indent) (stop ++ (citeMark ++ braced key)) :: below := by
    refine lines_unlines (by simp) fun line hmem => ?_
    simp only [List.mem_append, List.mem_cons] at hmem
    rcases hmem with hmem | rfl | hmem
    · exact habove line hmem
    · exact hline
    · exact hbelow line hmem
  rw [mem_order, eraseComments, hlines, List.map_append, List.map_cons,
    isCommentLine_percentLine hc, if_neg Bool.false_ne_true]
  generalize above.map (fun line => if isCommentLine line then [] else line) = above
  generalize below.map (fun line => if isCommentLine line then [] else line) = below
  -- the text from the front to the end of all commands, the citation, and what follows it
  have hsplit : percentLine (c :: indent) (stop ++ (citeMark ++ braced key)) =
      (percentLine (c :: indent) [] ++ stop) ++ (citeMark ++ braced key) := by
    simp [percentLine]
  have hfront := unlines_parted above [] (percentLine (c :: indent) []) stop
  have hback := unlines_parted [] below (citeMark ++ braced key) []
  rw [List.append_nil, List.nil_append, List.nil_append, unlines_singleton] at hback
  rw [hsplit, unlines_parted, hfront, hback, unlines_singleton]
  exact mem_cited_behind_stop htrim hne hcomma hbrace _ _

/-- What stands behind a percent sign, with nothing but spaces and tabs in front of it on its line,
changes neither the order of the citations nor the links that the link pass makes with the numbers
of that order, whatever it is, exactly if the percent sign is the first character of the line. -/
theorem commentedOut_iff {body indent t : Text} {above below : List Text}
    (hbody : lines body = above ++ percentLine indent t :: below)
    (hindent : ∀ c ∈ indent, c = ' ' ∨ c = '\t') :
    (∀ other : Text, '\n' ∉ other →
      let changed := unlines (above ++ percentLine indent other :: below)
      order changed = order body ∧ ∀ style,
        linkAll style (numbering (order changed)) (eraseComments changed) =
          linkAll style (numbering (order body)) (eraseComments body)) ↔
      indent = [] := by
  have hlines : ∀ line ∈ above ++ percentLine indent t :: below, '\n' ∉ line :=
    fun line hline => not_mem_of_mem_splitOn (hbody ▸ hline : line ∈ lines body)
  have habove : ∀ line ∈ above, '\n' ∉ line :=
    fun line hline => hlines line (List.mem_append_left _ hline)
  have hbelow : ∀ line ∈ below, '\n' ∉ line :=
    fun line hline => hlines line (List.mem_append_right _ (List.mem_cons_of_mem _ hline))
  constructor
  · intro h
    cases indent with
    | nil => rfl
    | cons c indent =>
        have hc : c ≠ '%' := by
          rcases hindent c (List.mem_cons_self ..) with rfl | rfl <;> decide
        have hfeed : '\n' ∉ c :: indent := fun hmem => by
          rcases hindent '\n' hmem with heq | heq <;> exact absurd heq (by decide)
        obtain ⟨key, hnew, htrim, hne, hcomma, hbrace, hkey⟩ := exists_new_key (order body)
        obtain ⟨horder, -⟩ := h (stop ++ (citeMark ++ braced key)) (by
          simp only [List.mem_append, not_or]
          exact ⟨by decide, by decide, by simp [braced, hkey]⟩)
        have hmem := mem_order_percentLine hc hfeed htrim hne hcomma hbrace hkey habove hbelow
        exact absurd (horder ▸ hmem) hnew
  · rintro rfl other hother
    have hnew : lines (unlines (above ++ percentLine [] other :: below)) =
        above ++ percentLine [] other :: below := by
      refine lines_unlines (by simp) fun line hline => ?_
      simp only [List.mem_append, List.mem_cons] at hline
      rcases hline with hline | rfl | hline
      · exact habove line hline
      · simp [percentLine, hother]
      · exact hbelow line hline
    have hsame : SameButComments (unlines (above ++ percentLine [] other :: below)) body := by
      rw [SameButComments, hnew, hbody]
      refine List.rel_append (List.forall₂_same.mpr fun line _ => .refl line) (.cons ?_ ?_)
      · exact .inr ⟨rfl, rfl⟩
      · exact List.forall₂_same.mpr fun line _ => .refl line
    have horder : order (unlines (above ++ percentLine [] other :: below)) = order body := by
      rw [order, order, hsame.eraseComments_eq]
    refine ⟨horder, fun style => ?_⟩
    rw [horder, hsame.eraseComments_eq]

/-- A body with a citation in a comment, and a comment between the keys of a citation. -/
def interruptedBody : Text :=
  unlines ["% \\cite\x7bz\x7d".toList, "\\cite\x7ba,".toList, percentLine [] ['x'], "b\x7d".toList]

theorem commentedOut_of_interruptedBody :
    (lines interruptedBody =
        ["% \\cite\x7bz\x7d".toList, "\\cite\x7ba,".toList] ++ percentLine [] ['x'] ::
          ["b\x7d".toList] ∧ ∀ c ∈ ([] : Text), c = ' ' ∨ c = '\t') ∧
      ∀ other : Text, '\n' ∉ other →
        order (unlines (["% \\cite\x7bz\x7d".toList, "\\cite\x7ba,".toList] ++ percentLine [] other ::
          ["b\x7d".toList])) = [['a'], ['b']] := by
  have hbody : lines interruptedBody =
      ["% \\cite\x7bz\x7d".toList, "\\cite\x7ba,".toList] ++ percentLine [] ['x'] ::
        ["b\x7d".toList] := by decide
  have hindent : ∀ c ∈ ([] : Text), c = ' ' ∨ c = '\t' := by simp
  have hkept := (commentedOut_iff hbody hindent).mpr rfl
  exact ⟨⟨hbody, hindent⟩, fun other hother => (hkept other hother).1.trans (by decide)⟩

/-- A citation behind an indented percent sign takes a number, and the citation below it another
one. -/
theorem indented_comment_cites :
    let commented := unlines [percentLine [' '] "\\cite\x7bz\x7d".toList, "\\cite\x7ba\x7d".toList]
    let noted := unlines [percentLine [' '] "note".toList, "\\cite\x7ba\x7d".toList]
    (order commented = [['z'], ['a']] ∧ order noted = [['a']]) ∧
      (numbering (order commented)).get? ['a'] = some 2 ∧
      (numbering (order noted)).get? ['a'] = some 1 := by
  decide

end PaperHtml.Citation

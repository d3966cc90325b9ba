import PaperHtml.Proofs.Math.Guarding
import PaperHtml.Proofs.Text.Seams

/-!
# Restoring as a substitution

An engine may move the tokens of a text about, put them side by side or lose
some of them.  What restoring makes of such a text is what putting all formulas
in the places of their tokens at once makes of it (`restore_marked`).

## Strategy

`restore` puts the formulas back one after the other, and each turn looks for
its token in the text that the turns before it have left.  That text is `filled`
with the first few spans, which is the invariant of `restoreFrom_filled`.

No token begins inside another one or across two of them, whatever their
numbers.  A token can be *forged*, though: the end of one token, a text that
reads like the middle of a token, and the beginning of another one.  A single
piece cannot be such a text, but a piece and a span can make it up between them
(`Forges`, `restore_marked_forged`).  A formula has delimiters, which stand in no
token, so what guarding takes out of a text forges nothing
(`not_forges_of_guard`).
-/

namespace PaperHtml.Math

open Text TextPart

/-- A token in a text, by its number, and the piece of text behind it. -/
structure Slot where
  number : Nat
  piece : Text
  deriving DecidableEq

/-- A slot with the spans put back: the span with its number, or its token if there is none. -/
def Slot.filled (spans : List Text) (slot : Slot) : Text :=
  spans[slot.number]?.getD (token slot.number) ++ slot.piece

/-- A text of pieces with tokens between them, all spans put back at once. -/
def filled (spans : List Text) (first : Text) (slots : List Slot) : Text :=
  first ++ slots.flatMap (Slot.filled spans)

/-- A text of pieces with tokens between them. -/
def marked (first : Text) (slots : List Slot) : Text := filled [] first slots

/-- The token with a number is forged in front of its own place: between two tokens that are
still there when its turn comes, spans that have been put back and the pieces around them read like
the middle of it. -/
def Forges (spans : List Text) (slots : List Slot) (number : Nat) : Prop :=
  ∃ before left between right after, slots = before ++ left :: (between ++ right :: after) ∧
    (∀ slot ∈ before, slot.number ≠ number) ∧ number < left.number ∧ number ≤ right.number ∧
    between ≠ [] ∧ (∀ slot ∈ between, slot.number < number) ∧
    filled (spans.take number) left.piece between = tokenWord ++ ofNat number

variable {spans : List Text} {first : Text} {slots : List Slot}

/-! ## Filling slots -/

@[simp] theorem filled_nil (spans : List Text) (first : Text) : filled spans first [] = first :=
  List.append_nil first

theorem filled_cons (spans : List Text) (first : Text) (slot : Slot) (slots : List Slot) :
    filled spans first (slot :: slots) = filled spans (first ++ slot.filled spans) slots := by
  simp [filled]

theorem filled_append (spans : List Text) (first : Text) (before after : List Slot) :
    filled spans first (before ++ after) =
      filled spans first before ++ after.flatMap (Slot.filled spans) := by
  simp [filled]

theorem Slot.filled_of_lt {slot : Slot} (h : slot.number < spans.length) :
    slot.filled spans = spans[slot.number] ++ slot.piece := by
  simp [Slot.filled, h]

theorem Slot.filled_of_le {slot : Slot} (h : spans.length ≤ slot.number) :
    slot.filled spans = token slot.number ++ slot.piece := by
  simp [Slot.filled, h]

/-- One more span matters only to its own slots. -/
theorem Slot.filled_take_succ {slot : Slot} {number : Nat} (h : slot.number ≠ number) :
    slot.filled (spans.take (number + 1)) = slot.filled (spans.take number) := by
  have hlt : slot.number < number + 1 ↔ slot.number < number := by omega
  simp only [Slot.filled, List.getElem?_take, hlt]

theorem flatMap_filled_take_succ {number : Nat} (h : ∀ slot ∈ slots, slot.number ≠ number) :
    slots.flatMap (Slot.filled (spans.take (number + 1))) =
      slots.flatMap (Slot.filled (spans.take number)) :=
  List.flatMap_congr fun slot hslot => Slot.filled_take_succ (h slot hslot)

/-! ## Where a token can be found -/

/-- Spans and pieces without at signs, so that every at sign is that of a token. -/
structure Unsigned (spans : List Text) (slots : List Slot) : Prop where
  spans : ∀ span ∈ spans, '@' ∉ span
  pieces : ∀ slot ∈ slots, '@' ∉ slot.piece

theorem Unsigned.of_cons {slot : Slot} (h : Unsigned spans (slot :: slots)) : Unsigned spans slots :=
  ⟨h.spans, fun other hother => h.pieces other (List.mem_cons_of_mem _ hother)⟩

/-- A slot that is filled with a span holds no at sign. -/
theorem Unsigned.at_not_mem {slot : Slot} (h : Unsigned spans (slot :: slots))
    (hlt : slot.number < spans.length) : '@' ∉ slot.filled spans := by
  rw [Slot.filled_of_lt hlt, List.mem_append, not_or]
  exact ⟨h.spans _ (List.getElem_mem hlt), h.pieces slot (List.mem_cons_self ..)⟩

/-- The first at sign of a filled text begins the first token that is still there. -/
theorem exists_slot_of_filled_eq {run word rest : Text} (hunsigned : Unsigned spans slots)
    (hrun : '@' ∉ run) (hword : '@' ∉ word) (h : filled spans run slots = word ++ '@' :: rest) :
    ∃ between right after, slots = between ++ right :: after ∧
      (∀ slot ∈ between, slot.number < spans.length) ∧ spans.length ≤ right.number ∧
      filled spans run between = word ∧
      '@' :: rest = token right.number ++ filled spans right.piece after := by
  induction slots generalizing run with
  | nil =>
      rw [filled_nil] at h
      exact absurd (h ▸ List.mem_append_right _ (List.mem_cons_self ..)) hrun
  | cons slot slots ih =>
      rcases Nat.lt_or_ge slot.number spans.length with hlt | hge
      · -- a span has been put back here: the run goes on
        have hlonger : '@' ∉ run ++ slot.filled spans := by
          rw [List.mem_append, not_or]
          exact ⟨hrun, hunsigned.at_not_mem hlt⟩
        rw [filled_cons] at h
        obtain ⟨between, right, after, rfl, hbetween, hright, hfilled, hrest⟩ :=
          ih hunsigned.of_cons hlonger h
        refine ⟨slot :: between, right, after, rfl, ?_, hright, ?_, hrest⟩
        · exact List.forall_mem_cons.mpr ⟨hlt, hbetween⟩
        · rw [filled_cons, hfilled]
      · obtain ⟨tail, htoken⟩ : ∃ tail, token slot.number = '@' :: tail := ⟨_, token_eq _⟩
        have hsplit : filled spans run (slot :: slots) =
            run ++ '@' :: (tail ++ filled spans slot.piece slots) := by
          rw [filled, List.flatMap_cons, Slot.filled_of_le hge, htoken]
          simp [filled]
        have hcut := congrArg (cutChar? '@') (hsplit.symm.trans h)
        rw [cutChar?_append hrun, cutChar?_append hword] at hcut
        obtain ⟨rfl, rfl⟩ := Prod.mk.inj (Option.some.inj hcut)
        refine ⟨[], slot, slots, rfl, List.forall_mem_nil _, hge, filled_nil _ _, ?_⟩
        rw [htoken, List.cons_append]

/-- Behind a token no lone at sign follows. -/
theorem not_lone_prefix_filled {run : Text} (hunsigned : Unsigned spans slots) (hrun : '@' ∉ run) :
    ¬ ['@', 'M'] <+: filled spans run slots := by
  rintro ⟨rest, hrest⟩
  obtain ⟨between, right, after, -, -, -, -, htoken⟩ :=
    @exists_slot_of_filled_eq spans slots run [] ('M' :: rest) hunsigned hrun List.not_mem_nil
      hrest.symm
  rw [token_eq] at htoken
  simp at htoken

/-- A token begins in another one only at its end, where the rest of it must follow. -/
theorem word_prefix_of_token_prefix {other number : Nat} {back tail : Text}
    (hback : back <:+ token other) (hne : back ≠ []) (hother : other ≠ number)
    (hlone : ¬ ['@', 'M'] <+: tail) (h : token number <+: back ++ tail) :
    tokenWord ++ (ofNat number ++ ['@', '@']) <+: tail := by
  obtain ⟨after, hafter⟩ := h
  rw [token_eq, List.cons_append, List.cons_append] at hafter
  match back, hne with
  | [c], _ =>
      obtain ⟨-, htail⟩ := List.cons.inj hafter
      rw [tokenWord_eq] at htail
      exact absurd ⟨_, htail⟩ hlone
  | [c, d], _ =>
      obtain ⟨-, htail⟩ := List.cons.inj hafter
      obtain ⟨-, htail⟩ := List.cons.inj htail
      exact ⟨after, htail⟩
  | c :: d :: e :: back, _ =>
      -- the word begins in the other token, so that is the whole of it
      obtain ⟨front, hfront⟩ := hback
      obtain ⟨rfl, hrest⟩ := List.cons.inj hafter
      obtain ⟨rfl, hword⟩ := List.cons.inj hrest
      rw [tokenWord_eq] at hword
      obtain ⟨rfl, -⟩ := List.cons.inj hword
      have hsplit : token other = (front ++ ['@', '@']) ++ 'M' :: back := by simp [← hfront]
      obtain ⟨-, rfl⟩ := eq_of_token_eq hsplit
      have hdigits : ofNat number ++ '@' :: '@' :: after = ofNat other ++ '@' :: '@' :: tail := by
        simpa [tokenWord_eq] using hafter
      exact absurd (ofNat_append_inj hdigits).1.symm hother

/-- What is in the way of a token in front of its own place, once the spans with smaller numbers
have been put back: a text that reads like the middle of it and is no single piece. -/
theorem forges_of_middle {before slots : List Slot} {left : Slot} {number : Nat}
    (hlength : (spans.take number).length = number)
    (hunsigned : Unsigned (spans.take number) (left :: slots))
    (hpiece : ¬ tokenWord <:+: left.piece) (hbefore : ∀ slot ∈ before, slot.number ≠ number)
    (hleft : number < left.number)
    (h : tokenWord ++ (ofNat number ++ ['@', '@']) <+: filled (spans.take number) left.piece slots) :
    Forges spans (before ++ left :: slots) number := by
  have hmiddle : '@' ∉ tokenWord ++ ofNat number := by
    rw [List.mem_append, not_or]
    exact ⟨by decide, fun hmem => absurd (isDigit_of_mem_ofNat hmem) (by decide)⟩
  obtain ⟨rest, hrest⟩ := h
  have hsplit : filled (spans.take number) left.piece slots =
      (tokenWord ++ ofNat number) ++ '@' :: ('@' :: rest) := by simp [← hrest]
  obtain ⟨between, right, after, rfl, hbetween, hright, hfilled, -⟩ :=
    exists_slot_of_filled_eq hunsigned.of_cons (hunsigned.pieces left (List.mem_cons_self ..))
      hmiddle hsplit
  rw [hlength] at hbetween hright
  refine ⟨before, left, between, right, after, rfl, hbefore, hleft, hright, ?_, hbetween, hfilled⟩
  rintro rfl
  rw [filled_nil] at hfilled
  exact hpiece ⟨[], ofNat number, by simp [hfilled]⟩

/-! ## One span put back -/

/-- Slots without the number are passed over when its token is replaced. -/
theorem replaceFirst_filled_append {passed before after : List Slot} {number : Nat} (new : Text)
    (hlength : (spans.take number).length = number)
    (hunsigned : Unsigned (spans.take number) (before ++ after)) (hfirst : '@' ∉ first)
    (hword : ∀ slot ∈ before, ¬ tokenWord <:+: slot.piece)
    (hnumber : ∀ slot ∈ passed ++ before, slot.number ≠ number)
    (hforged : ¬ Forges spans (passed ++ (before ++ after)) number) :
    replaceFirst (token number) new (filled (spans.take number) first (before ++ after)) =
      filled (spans.take number) first before ++
        replaceFirst (token number) new (after.flatMap (Slot.filled (spans.take number))) := by
  have hbegins {front rest : Text} (hfront : '@' ∉ front) :
      ∀ back, back <:+ front → back ≠ [] → ¬ token number <+: back ++ rest := by
    rintro (_ | ⟨c, back⟩) hback hne htoken
    · exact hne rfl
    · rw [token_eq, List.cons_append, List.cons_prefix_cons] at htoken
      exact hfront (htoken.1 ▸ hback.subset (List.mem_cons_self ..))
  induction before generalizing first passed with
  | nil =>
      rw [List.nil_append, filled_nil, filled]
      exact replaceFirst_append_of_passed (token_ne_nil number) new (hbegins hfirst)
  | cons slot before ih =>
      have hslot := hnumber slot (by simp)
      have hpassed : passed ++ slot :: before = (passed ++ [slot]) ++ before := by simp
      have hwhole : passed ++ (slot :: before ++ after) = (passed ++ [slot]) ++ (before ++ after) := by
        simp
      have hpiece := hunsigned.pieces slot (List.mem_cons_self ..)
      rw [List.cons_append] at hunsigned ⊢
      rcases Nat.lt_or_ge slot.number number with hlt | hge
      · -- what has been put back here goes on the run
        have hlonger : '@' ∉ first ++ slot.filled (spans.take number) := by
          rw [List.mem_append, not_or]
          exact ⟨hfirst, hunsigned.at_not_mem (by rwa [hlength])⟩
        rw [filled_cons, filled_cons]
        exact ih hunsigned.of_cons hlonger
          (fun other hother => hword other (List.mem_cons_of_mem _ hother)) (hpassed ▸ hnumber)
          (hwhole ▸ hforged)
      · have htoken : slot.filled (spans.take number) = token slot.number ++ slot.piece :=
          Slot.filled_of_le (by rwa [hlength])
        have hsplit (slots : List Slot) : filled (spans.take number) first (slot :: slots) =
            first ++ (token slot.number ++ filled (spans.take number) slot.piece slots) := by
          simp [filled, htoken]
        -- no token begins in the one that stands here
        have hinside : ∀ back, back <:+ token slot.number → back ≠ [] →
            ¬ token number <+: back ++ filled (spans.take number) slot.piece (before ++ after) := by
          intro back hback hne hprefix
          have hmiddle := word_prefix_of_token_prefix hback hne hslot
            (not_lone_prefix_filled hunsigned.of_cons hpiece) hprefix
          exact hforged (forges_of_middle hlength hunsigned (hword slot (List.mem_cons_self ..))
            (fun other hother => hnumber other (List.mem_append_left _ hother))
            (Nat.lt_of_le_of_ne hge hslot.symm) hmiddle)
        rw [hsplit, hsplit, replaceFirst_append_of_passed (token_ne_nil number) new (hbegins hfirst),
          replaceFirst_append_of_passed (token_ne_nil number) new hinside,
          ih hunsigned.of_cons hpiece
            (fun other hother => hword other (List.mem_cons_of_mem _ hother)) (hpassed ▸ hnumber)
            (hwhole ▸ hforged)]
        simp

/-- Pieces and spans in which nothing looks like a token, and every number in at most one slot. -/
structure Substitutable (spans : List Text) (first : Text) (slots : List Slot) : Prop where
  spans : ∀ span ∈ spans, Unmarked span
  first : Unmarked first
  pieces : ∀ slot ∈ slots, Unmarked slot.piece
  nodup : (slots.map Slot.number).Nodup

instance (spans : List Text) (first : Text) (slots : List Slot) :
    Decidable (Substitutable spans first slots) :=
  decidable_of_iff ((∀ span ∈ spans, Unmarked span) ∧ Unmarked first ∧
      (∀ slot ∈ slots, Unmarked slot.piece) ∧ (slots.map Slot.number).Nodup)
    ⟨fun h => ⟨h.1, h.2.1, h.2.2.1, h.2.2.2⟩, fun h => ⟨h.spans, h.first, h.pieces, h.nodup⟩⟩

theorem Substitutable.unsigned (h : Substitutable spans first slots) (number : Nat) :
    Unsigned (spans.take number) slots :=
  ⟨fun span hspan => (h.spans span (List.mem_of_mem_take hspan)).at_not_mem,
    fun slot hslot => (h.pieces slot hslot).at_not_mem⟩

/-- Each turn puts back the span whose turn it is. -/
theorem replaceFirst_filled (h : Substitutable spans first slots) {number : Nat}
    (hlt : number < spans.length) (hforged : ¬ Forges spans slots number) :
    replaceFirst (token number) spans[number] (filled (spans.take number) first slots) =
      filled (spans.take (number + 1)) first slots := by
  have hlength : (spans.take number).length = number := List.length_take_of_le hlt.le
  by_cases hmem : number ∈ slots.map Slot.number
  · obtain ⟨slot, hslot, rfl⟩ := List.mem_map.mp hmem
    obtain ⟨before, after, rfl⟩ := List.append_of_mem hslot
    have hnodup := h.nodup
    rw [List.map_append, List.map_cons, List.nodup_middle, List.nodup_cons] at hnodup
    have hother := hnodup.1
    rw [List.mem_append, not_or] at hother
    have hbefore : ∀ other ∈ before, other.number ≠ slot.number := fun other hmem heq =>
      hother.1 (heq ▸ List.mem_map_of_mem hmem)
    have hafter : ∀ other ∈ after, other.number ≠ slot.number := fun other hmem heq =>
      hother.2 (heq ▸ List.mem_map_of_mem hmem)
    have hhere : slot.filled (spans.take slot.number) = token slot.number ++ slot.piece :=
      Slot.filled_of_le hlength.le
    have hnext : slot.filled (spans.take (slot.number + 1)) = spans[slot.number] ++ slot.piece := by
      simp [Slot.filled, hlt]
    have hfound : replaceFirst (token slot.number) spans[slot.number]
        ((slot :: after).flatMap (Slot.filled (spans.take slot.number))) =
          (slot :: after).flatMap (Slot.filled (spans.take (slot.number + 1))) := by
      rw [List.flatMap_cons, List.flatMap_cons, hhere, hnext, List.append_assoc,
        replaceFirst_append (token_ne_nil _), flatMap_filled_take_succ hafter, List.append_assoc]
    rw [@replaceFirst_filled_append spans first [] before (slot :: after) slot.number _ hlength
        (h.unsigned _) h.first.at_not_mem
        (fun other hmem => (h.pieces other (List.mem_append_left _ hmem)).word_absent) hbefore hforged,
      hfound, filled_append, filled, filled, flatMap_filled_take_succ hbefore]
  · have hnone : ∀ slot ∈ slots, slot.number ≠ number := fun slot hslot heq =>
      hmem (heq ▸ List.mem_map_of_mem hslot)
    have hkept := @replaceFirst_filled_append spans first [] slots [] number spans[number] hlength
      (by simpa using h.unsigned number) h.first.at_not_mem
      (fun slot hslot => (h.pieces slot hslot).word_absent) hnone (by simpa using hforged)
    rw [List.append_nil] at hkept
    rw [hkept, List.flatMap_nil, replaceFirst_nil (token_ne_nil _), List.append_nil, filled, filled,
      flatMap_filled_take_succ hnone]

/-- Restoring puts the spans from a number on in the places of their tokens. -/
theorem restoreFrom_filled (h : Substitutable spans first slots)
    (hforged : ∀ number < spans.length, ¬ Forges spans slots number) (next : Nat) :
    restoreFrom next (spans.drop next) (filled (spans.take next) first slots) =
      filled spans first slots := by
  induction hleft : spans.length - next generalizing next with
  | zero =>
      have hle : spans.length ≤ next := by omega
      rw [List.drop_eq_nil_of_le hle, restoreFrom, List.take_of_length_le hle]
  | succ left ih =>
      have hlt : next < spans.length := by omega
      rw [List.drop_eq_getElem_cons hlt, restoreFrom, replaceFirst_filled h hlt (hforged next hlt),
        ih (next + 1) (by omega)]

/-! ## Forged tokens -/

/-- Spans with a character that stands in no token cannot help to forge one. -/
theorem not_forges_of_delimited (h : ∀ span ∈ spans, ∃ c ∈ span, isTokenChar c = false)
    (slots : List Slot) {number : Nat} (hlt : number < spans.length) :
    ¬ Forges spans slots number := by
  rintro ⟨before, left, between, right, after, -, -, -, -, hne, hbetween, hfilled⟩
  obtain ⟨slot, rest, rfl⟩ := List.exists_cons_of_ne_nil hne
  have hslot : slot.number < number := hbetween slot (List.mem_cons_self ..)
  obtain ⟨c, hc, htoken⟩ := h spans[slot.number] (List.getElem_mem (hslot.trans hlt))
  have hspan : slot.filled (spans.take number) = spans[slot.number] ++ slot.piece := by
    simp [Slot.filled, hslot, hslot.trans hlt]
  have hmiddle : c ∈ tokenWord ++ ofNat number := by
    rw [← hfilled, filled, List.flatMap_cons, hspan]
    simp [hc]
  have hmem : c ∈ token number := by
    rw [token_eq, ← List.append_assoc]
    exact List.mem_cons_of_mem _ (List.mem_cons_of_mem _ (List.mem_append_left _ hmiddle))
  rw [isTokenChar_of_mem_token hmem] at htoken
  exact absurd htoken (by decide)

/-- What guarding takes out of a text forges no token, whatever pieces it is put between. -/
theorem not_forges_of_guard (t : Text) (slots : List Slot) {number : Nat}
    (hlt : number < (guard t).spans.length) : ¬ Forges (guard t).spans slots number := by
  refine not_forges_of_delimited (fun span hspan => ?_) slots hlt
  obtain ⟨scan, hscan, front, after, hfound⟩ := exists_of_mem_spans_guard hspan
  obtain ⟨c, inner, d, hc, -, rfl, -⟩ := bracketed_of_mem_delimiters hscan _ _ _ hfound
  exact ⟨c, List.mem_cons_self .., hc⟩

/-- Restoring a text with tokens in any order puts every span in the place of its token and
leaves everything else as it is, unless a token is forged on the way. -/
theorem restore_marked (spans : List Text) (first : Text) (slots : List Slot)
    (h : Substitutable spans first slots)
    (hforged : ∀ number < spans.length, ¬ Forges spans slots number) :
    restore spans (marked first slots) = filled spans first slots := by
  have hall := restoreFrom_filled h hforged 0
  rwa [List.drop_zero, List.take_zero] at hall

/-- Formulas are put back out of order, next to another token, and where a number of which there
is no span begins with the same digit. -/
theorem restore_marked_out_of_order :
    let spans : List Text := ["$a$".toList, "$b$".toList]
    let slots : List Slot := [⟨10, []⟩, ⟨1, " and ".toList⟩, ⟨0, []⟩]
    Substitutable spans "see ".toList slots ∧
      (∀ number < spans.length, ¬ Forges spans slots number) ∧
      marked "see ".toList slots = "see @@MATH10@@@@MATH1@@ and @@MATH0@@".toList ∧
      filled spans "see ".toList slots = "see @@MATH10@@$b$ and $a$".toList ∧
      restore spans (marked "see ".toList slots) = filled spans "see ".toList slots := by
  intro spans slots
  have hsubstitutable : Substitutable spans "see ".toList slots := by decide
  have hdollar : ∀ span ∈ spans, '$' ∈ span := by decide
  have hforged : ∀ number < spans.length, ¬ Forges spans slots number := fun number hlt =>
    not_forges_of_delimited (fun span hspan => ⟨'$', hdollar span hspan, by decide⟩) slots hlt
  exact ⟨hsubstitutable, hforged, by decide +kernel, by decide +kernel,
    restore_marked spans _ slots hsubstitutable hforged⟩

/-- A span and the piece behind it read like the middle of a token that stands nowhere; the span
with its number is put between the tokens on both sides and takes them apart. -/
theorem restore_marked_forged :
    let spans : List Text := ["M".toList, "x".toList]
    let slots : List Slot := [⟨2, []⟩, ⟨0, "ATH1".toList⟩, ⟨3, []⟩]
    Substitutable spans [] slots ∧ marked [] slots = "@@MATH2@@@@MATH0@@ATH1@@MATH3@@".toList ∧
      filled spans [] slots = "@@MATH2@@MATH1@@MATH3@@".toList ∧
      restore spans (marked [] slots) = "@@MATH2xMATH3@@".toList ∧
      restore spans (marked [] slots) ≠ filled spans [] slots := by
  intro spans slots
  exact ⟨by decide, by decide +kernel, by decide +kernel, by decide +kernel, by decide +kernel⟩

end PaperHtml.Math

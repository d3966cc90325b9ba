import Mathlib
import PaperHtml.Proofs.Html.Verbatim
import PaperHtml.Proofs.Math.Unguarded
import PaperHtml.Proofs.Session.Citations

/-!
# Formulas on their way to the page

A formula between dollars is kept from Markdown, put back into the source that
Markdown gives, and found again among the texts of the page.

## Strategy

On the way through Markdown the formula is safe whatever it holds: there is one
token, and it is replaced where it stands.  On the way through the source of the
page it is safe as long as it is inert, for it is put back unescaped.
-/

namespace PaperHtml

namespace Math

open Text Html

/-! ## One formula in running text -/

/-- A formula that can stand between dollars. -/
structure IsInline (formula : Text) : Prop where
  ne_nil : formula ≠ []
  noDollar : '$' ∉ formula
  noFeed : '\n' ∉ formula
  noBracket : ¬ ['\\', '['] <:+: formula

/-- A text that holds no formula, no token and no markup. -/
def IsProse (t : Text) : Prop := ∀ c ∈ t, c ∉ ['<', '&', '$', '@', '\\']

instance (formula : Text) : Decidable (IsInline formula) :=
  decidable_of_iff
    (formula ≠ [] ∧ '$' ∉ formula ∧ '\n' ∉ formula ∧ ¬ ['\\', '['] <:+: formula)
    ⟨fun h => ⟨h.1, h.2.1, h.2.2.1, h.2.2.2⟩,
      fun h => ⟨h.ne_nil, h.noDollar, h.noFeed, h.noBracket⟩⟩

instance (t : Text) : Decidable (IsProse t) :=
  decidable_of_iff ((t.all fun c => decide (c ∉ ['<', '&', '$', '@', '\\'])) = true)
    ⟨fun h c hc => of_decide_eq_true (List.all_eq_true.mp h c hc),
      fun h => List.all_eq_true.mpr fun c hc => decide_eq_true (h c hc)⟩

/-- A formula between dollars. -/
def inDollars (formula : Text) : Text := '$' :: formula ++ ['$']

/-- A text with one formula in it. -/
def withFormula (before formula after : Text) : Text := before ++ (inDollars formula ++ after)

variable {before formula after : Text}

theorem IsProse.not_mem {t : Text} (h : IsProse t) {d : Char}
    (hd : d ∈ ['<', '&', '$', '@', '\\']) : d ∉ t := fun hmem => h d hmem hd

theorem IsProse.ne {t : Text} (h : IsProse t) {c d : Char} (hc : c ∈ t)
    (hd : d ∈ ['<', '&', '$', '@', '\\']) : c ≠ d :=
  ne_of_mem_of_not_mem hc (h.not_mem hd)

theorem inDollars_append (formula after : Text) :
    inDollars formula ++ after = '$' :: (formula ++ '$' :: after) := by
  simp [inDollars]

/-! ## Guarding it -/

theorem not_dollars_withFormula (hformula : IsInline formula) (hbefore : IsProse before)
    (hafter : IsProse after) : ¬ ['$', '$'] <:+: withFormula before formula after := by
  rintro ⟨front, back, hsplit⟩
  have hdollarBefore : '$' ∉ before := hbefore.not_mem (by simp)
  have hdollarAfter : '$' ∉ after := hafter.not_mem (by simp)
  rw [withFormula, inDollars_append, List.append_assoc] at hsplit
  -- there are two dollars, so none stands in front of the pair
  have hfront : '$' ∉ front := by
    have hcount := congrArg (List.count '$') hsplit
    simp only [List.count_append, List.count_cons_self, List.count_nil,
      List.count_eq_zero.mpr hdollarBefore, List.count_eq_zero.mpr hdollarAfter,
      List.count_eq_zero.mpr hformula.noDollar] at hcount
    rw [← List.count_eq_zero]
    omega
  have hcut := cutChar?_append hdollarBefore (formula ++ '$' :: after)
  rw [← hsplit, List.cons_append, cutChar?_append hfront] at hcut
  obtain ⟨c, rest, hcons⟩ := List.exists_cons_of_ne_nil hformula.ne_nil
  have hnext := (Prod.mk.inj (Option.some.inj hcut)).2
  rw [hcons] at hnext
  have hc : c = '$' := ((List.cons.inj hnext).1).symm
  exact hformula.noDollar (by simp [hcons, hc])

theorem not_bracket_withFormula (hformula : IsInline formula) (hbefore : IsProse before)
    (hafter : IsProse after) : ¬ ['\\', '['] <:+: withFormula before formula after := by
  have hprose {t : Text} (h : IsProse t) : ¬ ['\\', '['] <:+: t := fun hmark =>
    h.not_mem (by simp) (hmark.subset (List.mem_cons_self ..))
  intro hmark
  rw [withFormula, inDollars_append] at hmark
  rcases infix_append_cons (by decide) hmark with hmark | hmark
  · exact hprose hbefore hmark
  · rcases infix_append_cons (by decide) hmark with hmark | hmark
    · exact hformula.noBracket hmark
    · exact hprose hafter hmark

theorem inlineDollars_inDollars (hformula : IsInline formula) (after : Text) :
    inlineDollars (inDollars formula ++ after) = some (inDollars formula, after) := by
  rw [inDollars_append]
  exact inlineDollars_append hformula.noDollar hformula.noFeed after

/-- The formula is the only one that is guarded, and its token stands in its place. -/
theorem guard_withFormula (hformula : IsInline formula) (hbefore : IsProse before)
    (hafter : IsProse after) : guard (withFormula before formula after) =
      ⟨before ++ (token 0 ++ after), [inDollars formula]⟩ := by
  have hplain {t : Text} (h : IsProse t) : ∀ c ∈ t, ∀ rest, inlineDollars (c :: rest) = none :=
    fun c hc rest => inlineDollars_eq_none (h.ne hc (by simp)) rest
  have hpieces : Scanner.pieces inlineDollars (withFormula before formula after) =
      before.map .plain ++ .hit (inDollars formula) :: after.map .plain :=
    Scanner.pieces_around (by simp [inDollars]) (hplain hbefore) (hplain hafter)
      (inlineDollars_inDollars hformula after)
  have hfound : Scanner.findAll inlineDollars (withFormula before formula after) =
      [inDollars formula] := by
    simp [Scanner.findAll, hpieces, List.filterMap_append, List.filterMap_map]
  -- the kinds that are guarded first find nothing, and leave the text as it is
  have hdollars := guardKind_of_plain
    (pieces_delimited (not_dollars_withFormula hformula hbefore hafter) ['$', '$'])
  have hbracket := guardKind_of_plain
    (pieces_delimited (not_bracket_withFormula hformula hbefore hafter) ['\\', ']'])
  rw [guard, delimiters, List.foldl_cons, hdollars, List.foldl_cons, hbracket, List.foldl_cons,
    List.foldl_nil]
  simp only [guardKind, List.length_nil, hpieces, hfound, stash_map_plain_append, stash,
    stash_map_plain, List.nil_append]

/-! ## Putting it back -/

theorem restore_withFormula (formula : Text) {front : Text} (hfront : '@' ∉ front) (back : Text) :
    restore [inDollars formula] (front ++ (token 0 ++ back)) = front ++ (inDollars formula ++ back) := by
  have htoken : token 0 = '@' :: "@MATH0@@".toList := by decide
  have hcut : cut? (token 0) (token 0 ++ back) = some ([], back) := by
    rw [htoken, List.cons_append, cut?_cons, ← List.cons_append, dropPrefix?_append]
  simp only [restore, restoreFrom, replaceFirst]
  rw [htoken, cut?_append_of_not_mem hfront, ← htoken, hcut]
  simp

/-! ## Finding it again -/

theorem span?_inDollars (hformula : IsInline formula) (after : Text) :
    span? (inDollars formula ++ after) = some (⟨inDollars formula, trim formula, false⟩, after) := by
  have hinline : inlineSpan ('$' :: (formula ++ '$' :: after)) =
      some (⟨inDollars formula, trim formula, false⟩, after) := by
    obtain ⟨c, rest, hcons⟩ := List.exists_cons_of_ne_nil hformula.ne_nil
    have htake := takeWhile_inline hformula.noDollar hformula.noFeed after
    rw [hcons] at htake ⊢
    simp only [inlineSpan, htake, List.drop_left, inDollars]
  have hdollars : delimitedSpan true ['$', '$'] ['$', '$'] ('$' :: (formula ++ '$' :: after)) = none := by
    obtain ⟨c, rest, rfl⟩ := List.exists_cons_of_ne_nil hformula.ne_nil
    have hc : '$' ≠ c := fun e => hformula.noDollar (e ▸ List.mem_cons_self ..)
    simp [delimitedSpan, dropPrefix?, hc]
  have hbracket (display : Bool) (mark : Char) (closing t : Text) :
      delimitedSpan display ['\\', mark] closing ('$' :: t) = none := rfl
  rw [inDollars_append]
  simp only [span?, hdollars, hbracket, hinline, Option.none_or]

theorem span?_eq_none {c : Char} (hdollar : c ≠ '$') (hbackslash : c ≠ '\\') (t : Text) :
    span? (c :: t) = none := by
  have hinline : inlineSpan (c :: t) = none := by
    unfold inlineSpan
    split
    · rename_i heq
      exact absurd (List.cons.inj heq).1 hdollar
    · rfl
  have hdelimited (display : Bool) {first : Char} (hfirst : first ≠ c) (mark : Char) (closing : Text) :
      delimitedSpan display [first, mark] closing (c :: t) = none := by
    simp [delimitedSpan, dropPrefix?, hfirst]
  simp only [span?, hinline, hdelimited _ hdollar.symm, hdelimited _ hbackslash.symm, Option.none_or]

/-- On the page the formula is the only one. -/
theorem pieces_withFormula (hformula : IsInline formula) (hbefore : IsProse before)
    (hafter : IsProse after) : Scanner.pieces span? (withFormula before formula after) =
      before.map .plain ++ .hit ⟨inDollars formula, trim formula, false⟩ :: after.map .plain := by
  have hplain {t : Text} (h : IsProse t) : ∀ c ∈ t, ∀ rest, span? (c :: rest) = none :=
    fun c hc rest => span?_eq_none (h.ne hc (by simp)) (h.ne hc (by simp)) rest
  exact Scanner.pieces_around (by simp [inDollars]) (hplain hbefore) (hplain hafter)
    (span?_inDollars hformula after)

theorem setPieces_map_plain (convert : Converter) (t stretch : Text) (rest : List (Piece Span)) :
    setPieces convert stretch (t.map .plain ++ rest) = setPieces convert (t.reverse ++ stretch) rest := by
  induction t generalizing stretch with
  | nil => rfl
  | cons c t ih =>
      rw [List.map_cons, List.cons_append, setPieces, ih]
      simp

/-- The formula is given to the converter as it was written, but for blanks at its ends. -/
theorem setText_withFormula (convert : Converter) (hformula : IsInline formula)
    (hbefore : IsProse before) (hafter : IsProse after) :
    setText convert (withFormula before formula after) =
      match convert false (trim formula) with
      | .ok markup =>
        match parse markup with
        | .ok nodes => { nodes := .text .prose before :: nodes ++ [.text .prose after], count := 1 }
        | .error why =>
          { nodes := [.text .prose (withFormula before formula after)], rejected := some why }
      | .error reason =>
        { nodes := [.text .prose (withFormula before formula after)]
          reports := [report (trim formula) reason] } := by
  have hback (stretch : Text) : setPieces convert stretch (after.map .plain) =
      { nodes := [.text .prose (stretch.reverse ++ after)] } := by
    have hpieces := setPieces_map_plain convert after stretch []
    rw [List.append_nil] at hpieces
    rw [hpieces, setPieces]
    simp
  unfold setText
  rw [pieces_withFormula hformula hbefore hafter, setPieces_map_plain, List.append_nil, setPieces]
  cases convert false (trim formula) with
  | ok markup => cases hnodes : parse markup <;> simp [hback, hnodes]
  | error reason => simp [hback]

/-- A text put into a paragraph. -/
def inParagraph (t : Text) : Text := "<p>".toList ++ t ++ "</p>".toList

/-- A paragraph on the page. -/
def paragraph (nodes : List Node) : Node := .element ⟨"p".toList, []⟩ nodes

/-- The source of a text that is put into a paragraph with its formulas guarded. -/
def guardedParagraph (t : Text) : Text := restore (guard t).spans (inParagraph (guard t).text)

theorem guardedParagraph_withFormula (hformula : IsInline formula) (hbefore : IsProse before)
    (hafter : IsProse after) :
    guardedParagraph (withFormula before formula after) =
      inParagraph (withFormula before formula after) := by
  have hfront : '@' ∉ "<p>".toList ++ before := by
    rw [List.mem_append, not_or]
    exact ⟨by decide, hbefore.not_mem (by simp)⟩
  have hrestored := restore_withFormula formula hfront (after ++ "</p>".toList)
  rw [guardedParagraph, guard_withFormula hformula hbefore hafter]
  simp only [inParagraph, withFormula, List.append_assoc] at hrestored ⊢
  exact hrestored

theorem isInert_withFormula (hformula : IsInert formula) (hbefore : IsProse before)
    (hafter : IsProse after) : IsInert (withFormula before formula after) := by
  have hprose {t : Text} (h : IsProse t) : ∀ c ∈ t, Builder.isRunning c = true := by
    intro c hc
    have hbracket : c ≠ '<' := h.ne hc (by simp)
    have hampersand : c ≠ '&' := h.ne hc (by simp)
    simp [Builder.isRunning, hbracket, hampersand]
  have hdollar (c : Char) : beginsMarkup c '$' = false := beginsMarkup_of_harmless rfl (by decide) c
  -- behind the formula stands a dollar, before which nothing begins markup
  have hrest : IsInert ('$' :: after) :=
    isInert_of_isRunning fun c hc => (List.mem_cons.mp hc).elim (fun e => e ▸ rfl) (hprose hafter c)
  have hinner : IsInert (formula ++ '$' :: after) :=
    List.isChain_append.mpr ⟨hformula, hrest, fun c _ next hnext => by
      obtain rfl := Option.mem_some.mp hnext
      exact hdollar c⟩
  have hwhole : IsInert ('$' :: (formula ++ '$' :: after)) :=
    List.isChain_cons.mpr ⟨fun next _ => beginsMarkup_of_isRunning rfl next, hinner⟩
  rw [withFormula, inDollars_append]
  exact List.isChain_append.mpr ⟨isInert_of_isRunning (hprose hbefore), hwhole,
    fun c hc next _ => beginsMarkup_of_isRunning (hprose hbefore c (List.mem_of_mem_getLast? hc)) next⟩

theorem parse_inParagraph {t : Text} (h : IsInert t) (hmem : '$' ∈ t) :
    parse (inParagraph t) = .ok [paragraph [.text .prose t]] := by
  have hname : Markup.isElementName "p".toList = true := by decide +kernel
  have hstart : "<p>".toList = Markup.startSource "p".toList [] := by decide
  have hend : "</p>".toList = Markup.endSource "p".toList := by decide
  have htag : Markup.keptTag "p".toList [] = ⟨"p".toList, []⟩ := rfl
  have hblank : t.all Builder.isAsciiBlank = false :=
    List.all_eq_false.mpr ⟨'$', hmem, by decide⟩
  have hempty : t ≠ [] := List.ne_nil_of_mem hmem
  have hkept : Markup.textNodes ["p".toList] t = [.text .prose t] := by
    have hkind : Markup.textKind ["p".toList] = .prose := by decide +kernel
    rw [Markup.textNodes, if_neg hempty, hkind, Markup.keptText, hblank, Bool.and_false]
    rfl
  rw [inParagraph, hstart, hend, parse_inert hname h, htag, hkept, paragraph]

end Math

namespace Session

open Html Math Page

theorem Framed.childrenOf_setContent {page : Page} (h : Framed page) (source : Text) :
    (page.setContent source).childrenOf contentId = parsed source := by
  obtain ⟨l, rfl, hsteady⟩ := h
  have hcontent := hsteady.with_content (parsed source)
  rw [hsteady.apart.setContent, Page.childrenOf, hcontent.apart.find?_content]

/-- A formula comes through Markdown as it was written.  If it is inert, the content of the page is
then one paragraph with the text as it was, and the converter is given the formula. -/
theorem formula_reaches_page {before formula after : Text} (hformula : IsInline formula)
    (hbefore : IsProse before) (hafter : IsProse after) :
    let t := withFormula before formula after
    guardedParagraph t = inParagraph t ∧
      (IsInert formula →
        parse (guardedParagraph t) = .ok [paragraph [.text .prose t]] ∧
        (∀ page, Framed page → (page.setContent (guardedParagraph t)).childrenOf contentId =
          [paragraph [.text .prose t]]) ∧
        ∀ convert, setBelow convert Layout.contentAround [paragraph [.text .prose t]] =
          match convert false (Text.trim formula) with
          | .ok markup =>
            match parse markup with
            | .ok nodes =>
              { nodes := [paragraph (.text .prose before :: nodes ++ [.text .prose after])]
                count := 1 }
            | .error why => { nodes := [paragraph [.text .prose t]], rejected := some why }
          | .error reason =>
            { nodes := [paragraph [.text .prose t]]
              reports := [report (Text.trim formula) reason] }) := by
  intro t
  have hsource := guardedParagraph_withFormula hformula hbefore hafter
  refine ⟨hsource, fun hinert => ?_⟩
  have hdollar : '$' ∈ t := by simp [t, withFormula, inDollars]
  have hparse : parse (guardedParagraph t) = .ok [paragraph [.text .prose t]] := by
    rw [hsource, parse_inParagraph (isInert_withFormula hinert hbefore hafter) hdollar]
  refine ⟨hparse, ?page, ?convert⟩
  case page =>
    intro page hframed
    rw [hframed.childrenOf_setContent, parsed_of_parse hparse]
  case convert =>
    intro convert
    have haround : Layout.contentAround.any isPassedOver = false := by decide +kernel
    have hparagraph : isPassedOver "p".toList = false := by decide +kernel
    have hset := setText_withFormula convert hformula hbefore hafter
    simp only [setBelow, haround, paragraph, setNodes, setNode, hparagraph, t, hset]
    cases convert false (Text.trim formula) with
    | ok markup => cases hnodes : parse markup <;> simp [hnodes]
    | error reason => simp

theorem formula_reaches_page_bounds :
    let formula := "0 < x & y \\le 1".toList
    let t := withFormula "Let ".toList formula " hold.".toList
    IsInline formula ∧ IsInert formula ∧
      (new.page.setContent (guardedParagraph t)).childrenOf contentId =
        [paragraph [.text .prose t]] := by
  intro formula t
  have hformula : IsInline formula := by decide +kernel
  have hinert : IsInert formula := by decide +kernel
  have hbefore : IsProse "Let ".toList := by decide +kernel
  have hafter : IsProse " hold.".toList := by decide +kernel
  exact ⟨hformula, hinert,
    ((formula_reaches_page hformula hbefore hafter).2 hinert).2.1 _ (framed_empty _)⟩

/-- A comparison without blanks is taken for the beginning of a tag, up to the next bracket. -/
theorem formula_lost_in_comparison :
    let formula := "a<b".toList
    let t := withFormula "Let ".toList formula " hold.".toList
    let content := (new.page.setContent (guardedParagraph t)).childrenOf contentId
    IsInline formula ∧ IsProse "Let ".toList ∧ IsProse " hold.".toList ∧
      content ≠ [paragraph [.text .prose t]] ∧
      content = [paragraph [.text .prose "Let $a".toList,
        .element ⟨"b$".toList, [("hold.<".toList, []), ("p".toList, [])]⟩ []]] := by
  intro formula t content
  have hformula : IsInline formula := by decide +kernel
  have hbefore : IsProse "Let ".toList := by decide +kernel
  have hafter : IsProse " hold.".toList := by decide +kernel
  have hcontent : content = parsed "<p>Let $a<b$ hold.</p>".toList := by
    have hframed : Framed new.page := framed_empty _
    have hsource := guardedParagraph_withFormula hformula hbefore hafter
    exact (hframed.childrenOf_setContent _).trans (congrArg parsed hsource)
  have hparsed : parsed "<p>Let $a<b$ hold.</p>".toList = [paragraph [.text .prose "Let $a".toList,
      .element ⟨"b$".toList, [("hold.<".toList, []), ("p".toList, [])]⟩ []]] := by
    decide +kernel
  refine ⟨hformula, hbefore, hafter, ?_, hcontent.trans hparsed⟩
  rw [hcontent, hparsed]
  decide +kernel

end Session

end PaperHtml

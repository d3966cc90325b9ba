import Mathlib
import PaperHtml.Proofs.Html.Building

/-!
# Text that is read as it stands

A text that was never escaped is still read as itself, as long as no bracket in
it is followed by a character that makes it a tag, and no ampersand by one that
makes it a reference.

## Strategy

Whether a character begins markup is settled by the next character.  Such a text
is read character by character; where the text goes on with markup, its last
character has to be followed by something harmless too.
-/

namespace PaperHtml.Html

open Text

/-- Whether a character followed by another may begin a tag, a comment or a reference. -/
def beginsMarkup : Char → Char → Bool
  | '<', next => next.isAlpha || next == '/' || next == '!' || next == '?'
  | '&', next => next.isAlpha || next == '#'
  | _, _ => false

/-- A text none of whose characters begins markup. -/
def IsInert (t : Text) : Prop := t.IsChain fun c next => beginsMarkup c next = false

instance (t : Text) : Decidable (IsInert t) :=
  inferInstanceAs (Decidable (t.IsChain fun c next => beginsMarkup c next = false))

theorem beginsMarkup_of_isRunning {c : Char} (h : Builder.isRunning c = true) (next : Char) :
    beginsMarkup c next = false := by
  simp only [Builder.isRunning, Bool.and_eq_true, bne_iff_ne, ne_eq] at h
  unfold beginsMarkup
  split
  · exact absurd rfl h.1
  · exact absurd rfl h.2
  · rfl

theorem isInert_of_isRunning {t : Text} (h : ∀ c ∈ t, Builder.isRunning c = true) : IsInert t := by
  induction t with
  | nil => exact .nil
  | cons c t ih =>
      have htail := ih fun d hd => h d (List.mem_cons_of_mem _ hd)
      exact List.isChain_cons.mpr
        ⟨fun next _ => beginsMarkup_of_isRunning (h c (List.mem_cons_self ..)) next, htail⟩

namespace Builder

/-- A character that begins no markup there is read as itself. -/
theorem read_cons_of_inert {c next : Char} (h : beginsMarkup c next = false) (t : Text)
    (b : Builder) : b.read (c :: next :: t) = (b.take (.text [c])).read (next :: t) := by
  by_cases hrunning : isRunning c = true
  · exact read_running hrunning _ b
  · have hc : c = '<' ∨ c = '&' := by
      simp only [isRunning, Bool.and_eq_true, bne_iff_ne, ne_eq] at hrunning
      tauto
    rcases hc with rfl | rfl
    · simp only [beginsMarkup, Bool.or_eq_false_iff, beq_eq_false_iff_ne] at h
      obtain ⟨⟨⟨halpha, hslash⟩, hmark⟩, hquestion⟩ := h
      have hstep : step false ('<' :: next :: t) = .go [.text ['<']] (next :: t) := by
        have hbracket : bracketStep (next :: t) = .go [.text ['<']] (next :: t) := by
          simp [bracketStep, halpha, hslash, hmark, hquestion]
        rw [step, hbracket]
      exact read_of_go (List.nil_append _).symm hstep b
    · simp only [beginsMarkup, Bool.or_eq_false_iff, beq_eq_false_iff_ne] at h
      obtain ⟨halpha, hnumber⟩ := h
      have hname : nameInText? (next :: t) = none := by simp [nameInText?, halpha]
      have hstep : step false ('&' :: next :: t) = .go [.text ['&']] (next :: t) := by
        have hampersand : ampersandStep false (next :: t) = .go [.text ['&']] (next :: t) := by
          unfold ampersandStep
          split
          · rename_i heq
            cases heq
          · rename_i heq
            exact absurd (List.cons.inj heq).1 hnumber
          · rename_i heq
            obtain ⟨rfl, rfl⟩ := List.cons.inj heq
            simp [hname, halpha]
        exact hampersand
      exact read_of_go (List.nil_append _).symm hstep b

/-- An inert text is read as itself, if it is so with the character that follows it. -/
theorem read_inert {t : Text} {next : Char} (h : IsInert (t ++ [next])) (rest : Text)
    (b : Builder) : b.read (t ++ next :: rest) = (b.take (.text t)).read (next :: rest) := by
  induction t generalizing b with
  | nil => simp
  | cons c t ih =>
      rw [IsInert, List.cons_append, List.isChain_cons] at h
      obtain ⟨hhead, htail⟩ := h
      obtain ⟨d, more, hmore⟩ : ∃ d more, t ++ [next] = d :: more :=
        List.exists_cons_of_ne_nil (by simp)
      have hwhole : t ++ next :: rest = d :: (more ++ rest) := by
        rw [List.append_cons, hmore, List.cons_append]
      have hc : beginsMarkup c d = false := hhead d (by rw [hmore]; rfl)
      rw [List.cons_append, hwhole, read_cons_of_inert hc, ← hwhole, ih htail]
      simp

end Builder

theorem beginsMarkup_of_harmless {next : Char} (halpha : next.isAlpha = false)
    (h : next ∉ ['/', '!', '?', '#']) (c : Char) : beginsMarkup c next = false := by
  simp only [List.mem_cons, List.not_mem_nil, or_false, not_or] at h
  unfold beginsMarkup
  split <;> simp [halpha, h]

/-- An element around an inert text is read as the element with the text. -/
theorem parse_inert {name t : Text} (hname : Markup.isElementName name = true) (h : IsInert t) :
    parse (Markup.startSource name [] ++ t ++ Markup.endSource name) =
      .ok [.element (Markup.keptTag name []) (Markup.textNodes [name] t)] := by
  have hplain : Markup.isPlain (.element name [] [.text t]) = true := by
    simp [Markup.isPlain, Markup.arePlain, Markup.areAttributes, Markup.areAttributeNames, hname]
  have htag := (Markup.isElementName_iff.mp hname).1
  have hseam : IsInert (t ++ ['<']) :=
    List.isChain_append.mpr ⟨h, .singleton _, fun c _ next hnext => by
      obtain rfl := Option.mem_some.mp hnext
      exact beginsMarkup_of_harmless rfl (by decide) c⟩
  -- with the text escaped the element is read as this one as well
  have hescaped : parse (Markup.startSource name [] ++ t ++ Markup.endSource name) =
      parse (Markup.source (.element name [] [.text t])) := by
    have hread (b : Builder) : b.read (t ++ Markup.endSource name) =
        b.read (escape t ++ Markup.endSource name) := by
      rw [Builder.read_escape, Markup.endSource]
      exact Builder.read_inert hseam _ b
    have hstart := Markup.read_startSource htag (show Markup.areAttributes [] = true from rfl)
    refine parse_congr ?_
    simp only [Markup.source, Markup.sources, List.append_nil, List.append_assoc, hstart, hread]
  rw [hescaped, parse_source hplain, Markup.built_element]
  rfl

end PaperHtml.Html

import Mathlib
import PaperHtml.Html.Escape
import PaperHtml.Html.Parser

/-!
# Escaped text is read back

A text that is escaped comes back as it was, from the content of a page and from
a quoted attribute value.

## Strategy

Reading a source is followed on the builder: `Builder.read` takes in all tokens
of a source.  In content a character or its reference adds just that character
to the pending text, whatever follows; so an escaped text adds itself, by
induction on its characters.  A value is decoded character by character, and the
induction is the same.
-/

namespace PaperHtml.Html

open Text

/-- A character with a meaning in HTML has its own reference, any other stands for itself. -/
theorem escapeChar_cases (c : Char) :
    (c = '&' ∧ escapeChar c = ['&', 'a', 'm', 'p', ';']) ∨
    (c = '<' ∧ escapeChar c = ['&', 'l', 't', ';']) ∨
    (c = '>' ∧ escapeChar c = ['&', 'g', 't', ';']) ∨
    (c = '"' ∧ escapeChar c = ['&', 'q', 'u', 'o', 't', ';']) ∨
    (c = '\'' ∧ escapeChar c = ['&', '#', 'x', '2', '7', ';']) ∨
    (c ∉ markupChars ∧ escapeChar c = [c]) := by
  by_cases h : c ∈ markupChars
  · simp only [markupChars, List.mem_cons, List.not_mem_nil, or_false] at h
    rcases h with rfl | rfl | rfl | rfl | rfl
    · exact .inl ⟨rfl, rfl⟩
    · exact .inr (.inl ⟨rfl, rfl⟩)
    · exact .inr (.inr (.inl ⟨rfl, rfl⟩))
    · exact .inr (.inr (.inr (.inl ⟨rfl, rfl⟩)))
    · exact .inr (.inr (.inr (.inr (.inl ⟨rfl, rfl⟩))))
  · exact .inr (.inr (.inr (.inr (.inr ⟨h, escapeChar_of_not_mem h⟩))))

/-! ## Attribute values -/

private theorem decodeValueFrom_skip (passed t : Text) :
    decodeValueFrom passed.length (passed ++ t) = decodeValueFrom 0 t := by
  induction passed with
  | nil => rfl
  | cons c rest ih =>
      rw [← ih]
      rfl

/-- A reference is passed over as a whole. -/
private theorem decodeValueFrom_reference (reference : Text) {t after out : Text}
    (hsplit : t = reference ++ after) (h : valueReference? t = some (.ok out, after)) :
    decodeValueFrom 0 ('&' :: t) = (decodeValueFrom 0 after).map (out ++ ·) := by
  subst hsplit
  have hlength : (reference ++ after).length - after.length = reference.length := by simp
  rw [decodeValueFrom, if_pos rfl, h]
  simp only [hlength, decodeValueFrom_skip]

private theorem decodeValueFrom_plain {c : Char} (h : c ≠ '&') (t : Text) :
    decodeValueFrom 0 (c :: t) = (decodeValueFrom 0 t).map (c :: ·) := by
  rw [decodeValueFrom, if_neg h]

private theorem valueReference?_named {name t out : Text}
    (h : valueReference? (name ++ ';' :: t) = some (.ok (namedValue name true), t))
    (hname : namedValue name true = out) :
    valueReference? (name ++ ';' :: t) = some (.ok out, t) := by
  rw [h, hname]

private theorem decodeValueFrom_escapeChar (c : Char) (t : Text) :
    decodeValueFrom 0 (escapeChar c ++ t) = (decodeValueFrom 0 t).map (c :: ·) := by
  have hnamed : namedValue ['a', 'm', 'p'] true = ['&'] ∧ namedValue ['l', 't'] true = ['<'] ∧
      namedValue ['g', 't'] true = ['>'] ∧ namedValue ['q', 'u', 'o', 't'] true = ['"'] := by
    decide
  obtain ⟨hamp, hless, hgreater, hquote⟩ := hnamed
  rcases escapeChar_cases c with ⟨rfl, h⟩ | ⟨rfl, h⟩ | ⟨rfl, h⟩ | ⟨rfl, h⟩ | ⟨rfl, h⟩ | ⟨hc, h⟩
  · rw [h]
    exact decodeValueFrom_reference ['a', 'm', 'p', ';'] rfl
      (@valueReference?_named ['a', 'm', 'p'] t _ rfl hamp)
  · rw [h]
    exact decodeValueFrom_reference ['l', 't', ';'] rfl
      (@valueReference?_named ['l', 't'] t _ rfl hless)
  · rw [h]
    exact decodeValueFrom_reference ['g', 't', ';'] rfl
      (@valueReference?_named ['g', 't'] t _ rfl hgreater)
  · rw [h]
    exact decodeValueFrom_reference ['q', 'u', 'o', 't', ';'] rfl
      (@valueReference?_named ['q', 'u', 'o', 't'] t _ rfl hquote)
  · rw [h]
    exact decodeValueFrom_reference ['#', 'x', '2', '7', ';'] rfl rfl
  · have hne : c ≠ '&' := by
      rintro rfl
      exact hc (by decide)
    rw [h]
    exact decodeValueFrom_plain hne t

/-- An escaped value is decoded to what it was. -/
theorem decodeValue_escape (value : Text) : decodeValue (escape value) = .ok value := by
  unfold decodeValue
  induction value with
  | nil => rfl
  | cons c rest ih =>
      rw [escape_cons, decodeValueFrom_escapeChar, ih]
      rfl

/-! ## Reading a source -/

/-- All tokens of a source taken in. -/
def Builder.read (source : Text) (b : Builder) : Builder := (tokens source).foldl Builder.take b

@[simp] theorem Builder.read_nil (b : Builder) : b.read [] = b := rfl

/-- Sources that are read alike make the same nodes. -/
theorem parse_congr {source other : Text} (h : Builder.read source {} = Builder.read other {}) :
    parse source = parse other := by
  unfold Builder.read at h
  rw [parse, parse, h]

/-- A source in which nothing is rejected makes the nodes that it builds. -/
theorem parse_eq_finish {source : Text} (h : (Builder.read source {}).rejected = none) :
    parse source = .ok (Builder.read source {}).finish := by
  unfold Builder.read at h ⊢
  rw [parse]
  simp only [h]

private theorem tokensFrom_skip (passed t : Text) :
    tokensFrom false passed.length (passed ++ t) = tokensFrom false 0 t := by
  induction passed with
  | nil => rfl
  | cons c rest ih =>
      rw [← ih]
      rfl

/-- A step that is not held back is taken, and reading goes on behind it. -/
theorem Builder.read_of_go {c : Char} {t passed after : Text} {found : List Token}
    (hsplit : t = passed ++ after) (h : step false (c :: t) = .go found after) (b : Builder) :
    b.read (c :: t) = (found.foldl Builder.take b).read after := by
  subst hsplit
  have hlength : (passed ++ after).length - after.length = passed.length := by simp
  have htokens : tokens (c :: (passed ++ after)) = found ++ tokens after := by
    unfold tokens
    rw [tokensFrom, h]
    simp only [hlength, tokensFrom_skip]
  rw [Builder.read, htokens, List.foldl_append, Builder.read]

/-! ## Content -/

namespace Builder

@[simp] theorem take_text_take_text (s t : Text) (b : Builder) :
    (b.take (.text s)).take (.text t) = b.take (.text (s ++ t)) := by
  simp [take]

@[simp] theorem take_text_nil (b : Builder) : b.take (.text []) = b := by
  simp [take]

/-- A character that begins no markup. -/
def isRunning (c : Char) : Bool := c != '<' && c != '&'

private theorem step_running {c : Char} (h : isRunning c = true) (t : Text) :
    step false (c :: t) = .go [.text (c :: t.takeWhile isRunning)] (t.dropWhile isRunning) := by
  have hdrop : t.drop (t.takeWhile isRunning).length = t.dropWhile isRunning := by
    have hleft := @List.drop_left _ (t.takeWhile isRunning) (t.dropWhile isRunning)
    rwa [List.takeWhile_append_dropWhile] at hleft
  simp only [isRunning, Bool.and_eq_true, bne_iff_ne, ne_eq] at h
  rw [← hdrop]
  unfold step
  split
  · rename_i heq
    cases heq
  · rename_i heq
    exact absurd (List.cons.inj heq).1 h.1
  · rename_i heq
    exact absurd (List.cons.inj heq).1 h.2
  · rename_i heq
    obtain ⟨rfl, rfl⟩ := List.cons.inj heq
    rfl

/-- A run of text is read at once. -/
private theorem read_run {c : Char} (h : isRunning c = true) (t : Text) (b : Builder) :
    b.read (c :: t) =
      (b.take (.text (c :: t.takeWhile isRunning))).read (t.dropWhile isRunning) :=
  read_of_go List.takeWhile_append_dropWhile.symm (step_running h t) b

/-- A character that begins no markup is text, whatever follows it. -/
theorem read_running {c : Char} (h : isRunning c = true) (t : Text) (b : Builder) :
    b.read (c :: t) = (b.take (.text [c])).read t := by
  rw [read_run h]
  cases t with
  | nil => rfl
  | cons d rest =>
      by_cases hd : isRunning d = true
      · rw [read_run hd]
        simp [hd]
      · simp [hd]

/-- A text in which no markup begins is read as it is, whatever follows it. -/
theorem read_plain {content : Text} (h : ∀ c ∈ content, isRunning c = true) (t : Text)
    (b : Builder) : b.read (content ++ t) = (b.take (.text content)).read t := by
  induction content generalizing b with
  | nil => simp
  | cons c rest ih =>
      obtain ⟨hc, hrest⟩ := List.forall_mem_cons.mp h
      rw [List.cons_append, read_running hc, ih hrest]
      simp

private theorem read_reference {reference t : Text} {c : Char}
    (h : ampersandStep false (reference ++ t) = .go [.text [c]] t) (b : Builder) :
    b.read ('&' :: (reference ++ t)) = (b.take (.text [c])).read t := by
  have hstep : step false ('&' :: (reference ++ t)) = .go [.text [c]] t := h
  exact read_of_go rfl hstep b

private theorem ampersandStep_named {name t out : Text}
    (h : ampersandStep false (name ++ ';' :: t) = .go [.text (named name)] t)
    (hname : named name = out) :
    ampersandStep false (name ++ ';' :: t) = .go [.text out] t := by
  rw [h, hname]

/-- The reference for a character is read as the character, whatever follows it. -/
theorem read_escapeChar (c : Char) (t : Text) (b : Builder) :
    b.read (escapeChar c ++ t) = (b.take (.text [c])).read t := by
  have hnamed : named ['a', 'm', 'p'] = ['&'] ∧ named ['l', 't'] = ['<'] ∧
      named ['g', 't'] = ['>'] ∧ named ['q', 'u', 'o', 't'] = ['"'] := by
    decide
  obtain ⟨hamp, hless, hgreater, hquote⟩ := hnamed
  rcases escapeChar_cases c with ⟨rfl, h⟩ | ⟨rfl, h⟩ | ⟨rfl, h⟩ | ⟨rfl, h⟩ | ⟨rfl, h⟩ | ⟨hc, h⟩
  · rw [h]
    exact read_reference (@ampersandStep_named ['a', 'm', 'p'] t _ rfl hamp) b
  · rw [h]
    exact read_reference (@ampersandStep_named ['l', 't'] t _ rfl hless) b
  · rw [h]
    exact read_reference (@ampersandStep_named ['g', 't'] t _ rfl hgreater) b
  · rw [h]
    exact read_reference (@ampersandStep_named ['q', 'u', 'o', 't'] t _ rfl hquote) b
  · rw [h]
    have hnumber : ampersandStep false (['#', 'x', '2', '7', ';'] ++ t) = .go [.text ['\'']] t :=
      rfl
    exact read_reference hnumber b
  · have hrunning : isRunning c = true := by
      simp only [markupChars, List.mem_cons, not_or] at hc
      simp [isRunning, hc]
    rw [h]
    exact read_running hrunning t b

/-- An escaped text is read as the text it was, whatever follows it. -/
theorem read_escape (content t : Text) (b : Builder) :
    b.read (escape content ++ t) = (b.take (.text content)).read t := by
  induction content generalizing b with
  | nil => simp [escape_nil]
  | cons c rest ih =>
      rw [escape_cons, List.append_assoc, read_escapeChar, ih]
      simp

end Builder

end PaperHtml.Html

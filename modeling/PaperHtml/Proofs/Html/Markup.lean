import Mathlib
import PaperHtml.Proofs.Html.Escaping

/-!
# Markup and its tokens

All fragments that a page is filled with are written in one way: elements with
plain names, quoted and escaped attribute values, and escaped text.  The source
of a tree of such markup is read as the tokens of the tree.

## Strategy

A start tag is read attribute by attribute: `remainder` is what stands behind
its name, and the induction is on the attributes in it, each set off by a space
that lets the next one begin.  Text and end tags are read at once, whatever
follows them, so the source of a tree is read by recursion on the tree
(`read_sources`).
-/

namespace PaperHtml.Html

open Text

/-- A text or an element as it is written into the source of a page. -/
inductive Markup where
  | text (content : Text)
  | element (name : Text) (attributes : List (Text × Option Text)) (children : List Markup)

namespace Markup

/-! ## Writing -/

/-- The value of an attribute in its quotation marks, if it has one. -/
def valueSource : Option Text → Text
  | none => []
  | some value => '=' :: '"' :: escape value ++ ['"']

/-- An attribute, set off by a space. -/
def attributeSource (given : Text × Option Text) : Text :=
  ' ' :: given.1 ++ valueSource given.2

/-- A start tag. -/
def startSource (name : Text) (attributes : List (Text × Option Text)) : Text :=
  '<' :: name ++ attributes.flatMap attributeSource ++ ['>']

/-- An end tag. -/
def endSource (name : Text) : Text := '<' :: '/' :: name ++ ['>']

mutual

/-- A text or an element, written. -/
def source : Markup → Text
  | .text content => escape content
  | .element name attributes children =>
    startSource name attributes ++ sources children ++ endSource name

/-- Several texts and elements, written. -/
def sources : List Markup → Text
  | [] => []
  | markup :: rest => source markup ++ sources rest

end

/-! ## Names that are read back -/

/-- A character of the names that are written. -/
def isPlainChar (c : Char) : Bool :=
  ('a' ≤ c && c ≤ 'z') || ('0' ≤ c && c ≤ '9') || c == '-'

/-- The name of an attribute. -/
def isAttributeName (name : Text) : Bool := name ≠ [] && name.all isPlainChar

/-- The name of an element that does not hold raw text. -/
def isTagName (name : Text) : Bool :=
  name.head?.any Char.isAlpha && name.all isPlainChar && !rawNames.contains name

/-- The name of an element that holds something other than raw text. -/
def isElementName (name : Text) : Bool := isTagName name && !isVoid name

/-- Names of attributes that are read back and differ. -/
def areAttributeNames (names : List Text) : Bool := names.all isAttributeName && decide names.Nodup

/-- Attributes whose names are read back and differ. -/
def areAttributes (attributes : List (Text × Option Text)) : Bool :=
  areAttributeNames (attributes.map Prod.fst)

mutual

/-- Whether all names at or below a markup are read back. -/
def isPlain : Markup → Bool
  | .text _ => true
  | .element name attributes children =>
    isElementName name && areAttributes attributes && arePlain children

/-- Whether all names at or below several markups are read back. -/
def arePlain : List Markup → Bool
  | [] => true
  | markup :: rest => isPlain markup && arePlain rest

end

theorem isPlainChar_cases {c : Char} (h : isPlainChar c = true) :
    (97 ≤ c.toNat ∧ c.toNat ≤ 122) ∨ (48 ≤ c.toNat ∧ c.toNat ≤ 57) ∨ c.toNat = 45 := by
  simp only [isPlainChar, Bool.or_eq_true, Bool.and_eq_true, decide_eq_true_eq, beq_iff_eq] at h
  rcases h with (h | h) | rfl
  · exact .inl h
  · exact .inr (.inl h)
  · exact .inr (.inr rfl)

/-- A character of a name is none of those that end it. -/
theorem isPlainChar_ne {c d : Char} (h : isPlainChar c = true) (hd : isPlainChar d = false) :
    c ≠ d := by
  rintro rfl
  rw [h] at hd
  cases hd

theorem isBlank_of_isPlainChar {c : Char} (h : isPlainChar c = true) : isBlank c = false := by
  have hcases := isPlainChar_cases h
  simp only [isBlank, Bool.or_eq_false_iff, Bool.and_eq_false_iff, decide_eq_false_iff_not,
    beq_eq_false_iff_ne]
  omega

theorem isAlphanum_or_hyphen {c : Char} (h : isPlainChar c = true) :
    (c.isAlphanum || c == '-') = true := by
  rcases isPlainChar_cases h with hcase | hcase | hcase
  · have hlower : c.isLower = true := by
      simp only [Char.isLower, Bool.and_eq_true, decide_eq_true_eq]
      exact hcase
    simp [Char.isAlphanum, Char.isAlpha, hlower]
  · have hdigit : c.isDigit = true := by
      simp only [Char.isDigit, Bool.and_eq_true, decide_eq_true_eq]
      exact hcase
    simp [Char.isAlphanum, hdigit]
  · have hyphen : c = '-' := Char.toNat_inj.mp hcase
    simp [hyphen]

theorem isTagNameChar_of_isPlainChar {c : Char} (h : isPlainChar c = true) :
    isTagNameChar c = true := by
  unfold isTagNameChar
  rw [Bool.not_eq_true', decide_eq_false_iff_not]
  intro hmem
  simp only [List.mem_cons, List.not_mem_nil, or_false] at hmem
  rcases hmem with rfl | rfl | rfl | rfl | rfl | rfl | rfl | rfl <;> exact absurd h (by decide)

theorem lowerFrom_of_isPlainChar {name : Text} (h : ∀ c ∈ name, isPlainChar c = true)
    (before : Text) : lowerFrom before name = name := by
  refine lowerFrom_of_ascii (fun c hc => ?_) before
  have hcases := isPlainChar_cases (h c hc)
  omega

/-! ## Start tags -/

/-- A text taken as far as it goes, up to what ends it. -/
private theorem span_append {p : Char → Bool} {s : Text} (hs : ∀ c ∈ s, p c = true)
    {d : Char} (hd : p d = false) (t : Text) : (s ++ d :: t).span p = (s, d :: t) := by
  rw [List.span_eq_takeWhile_dropWhile, List.takeWhile_append_of_pos hs,
    List.dropWhile_append_of_pos hs]
  simp [hd]

/-- What stands behind the name of a tag: its attributes and the closing bracket. -/
def remainder (attributes : List (Text × Option Text)) (t : Text) : Text :=
  attributes.flatMap attributeSource ++ '>' :: t

theorem remainder_nil (t : Text) : remainder [] t = '>' :: t := rfl

theorem remainder_cons (given : Text × Option Text) (attributes : List (Text × Option Text))
    (t : Text) :
    remainder (given :: attributes) t =
      ' ' :: (given.1 ++ (valueSource given.2 ++ remainder attributes t)) := by
  simp [remainder, attributeSource]

private theorem length_lt_remainder (attributes : List (Text × Option Text)) (t : Text) :
    attributes.length < (remainder attributes t).length := by
  induction attributes with
  | nil => simp [remainder_nil]
  | cons given attributes ih =>
      rw [remainder_cons]
      simp only [List.length_cons, List.length_append]
      omega

theorem isAttributeName_iff {name : Text} :
    isAttributeName name = true ↔ name ≠ [] ∧ ∀ c ∈ name, isPlainChar c = true := by
  simp [isAttributeName]

private theorem dropSeparators_space (t : Text) :
    dropSeparators (' ' :: t) = dropSeparators t := rfl

private theorem dropSeparators_of_plain {c : Char} (h : isPlainChar c = true) (t : Text) :
    dropSeparators (c :: t) = c :: t := by
  have hblank := isBlank_of_isPlainChar h
  have hslash : (c == '/') = false := beq_false_of_ne (isPlainChar_ne h (by decide))
  unfold dropSeparators
  split
  · rename_i heq
    rw [heq]
  · rename_i heq
    obtain ⟨rfl, rfl⟩ := List.cons.inj heq
    rw [hblank, hslash]
    rfl
  · rename_i heq
    cases heq

private theorem dropSeparators_remainder_cons {name : Text} (hname : isAttributeName name = true)
    (value : Option Text) (attributes : List (Text × Option Text)) (t : Text) :
    dropSeparators (remainder ((name, value) :: attributes) t) =
      name ++ (valueSource value ++ remainder attributes t) := by
  obtain ⟨hne, hplain⟩ := isAttributeName_iff.mp hname
  obtain ⟨c, rest, rfl⟩ := List.exists_cons_of_ne_nil hne
  rw [remainder_cons, dropSeparators_space, List.cons_append,
    dropSeparators_of_plain (hplain c (List.mem_cons_self ..))]

/-- A character before a closing bracket or a space is the last of an attribute or its name. -/
private theorem attributeValue?_remainder_none (attributes : List (Text × Option Text))
    (h : ∀ given ∈ attributes, isAttributeName given.1 = true) (t : Text) :
    attributeValue? (remainder attributes t) = none := by
  cases attributes with
  | nil => rfl
  | cons given attributes =>
      obtain ⟨hne, hplain⟩ := isAttributeName_iff.mp (h given (List.mem_cons_self ..))
      obtain ⟨c, rest, hcons⟩ := List.exists_cons_of_ne_nil hne
      have hc : isPlainChar c = true := hplain c (by rw [hcons]; exact List.mem_cons_self ..)
      have hblank := isBlank_of_isPlainChar hc
      have hequals : c ≠ '=' := isPlainChar_ne hc (by decide)
      rw [remainder_cons, hcons, attributeValue?]
      simp [trimStart, hblank, hequals, show isBlank ' ' = true from by decide]

private theorem attributeValue?_some (value t : Text) :
    attributeValue? (valueSource (some value) ++ t) = some (escape value, t) := by
  have hcut := cutChar?_append (quote_not_mem_escape value) t
  have hquote : isBlank '"' = false := by decide
  have hequals : isBlank '=' = false := by decide
  rw [attributeValue?]
  simp [valueSource, trimStart, hquote, hequals, quotedValue?, hcut]

theorem attribute?_written {name : Text} (hname : isAttributeName name = true)
    (value : Option Text) {attributes : List (Text × Option Text)}
    (h : ∀ given ∈ attributes, isAttributeName given.1 = true) (t : Text) :
    attribute? (name ++ (valueSource value ++ remainder attributes t)) =
      some (name, value.map escape, remainder attributes t) := by
  obtain ⟨hne, hplain⟩ := isAttributeName_iff.mp hname
  obtain ⟨c, name, rfl⟩ := List.exists_cons_of_ne_nil hne
  have hc := hplain c (List.mem_cons_self ..)
  have hin : ∀ d ∈ name,
      (!isBlank d && d != '/' && d != '=' && d != '>') = true := by
    intro d hd
    have hd := hplain d (List.mem_cons_of_mem _ hd)
    have hslash : d ≠ '/' := isPlainChar_ne hd (by decide)
    have hequals : d ≠ '=' := isPlainChar_ne hd (by decide)
    have hbracket : d ≠ '>' := isPlainChar_ne hd (by decide)
    simp [isBlank_of_isPlainChar hd, hslash, hequals, hbracket]
  have hmore : (name ++ (valueSource value ++ remainder attributes t)).takeWhile
      (fun d => !isBlank d && d != '/' && d != '=' && d != '>') = name := by
    rw [List.takeWhile_append_of_pos hin]
    cases value with
    | some value => simp [valueSource]
    | none =>
        cases attributes with
        | nil => simp [valueSource, remainder_nil]
        | cons given attributes =>
            simp [valueSource, remainder_cons, show isBlank ' ' = true from by decide]
  have hstart : (isBlank c || c == '/' || c == '>') = false := by
    have hslash : c ≠ '/' := isPlainChar_ne hc (by decide)
    have hbracket : c ≠ '>' := isPlainChar_ne hc (by decide)
    simp [isBlank_of_isPlainChar hc, hslash, hbracket]
  rw [List.cons_append, attribute?, if_neg (by simp [hstart])]
  simp only [hmore, List.drop_left]
  cases value with
  | none =>
      simp only [valueSource, List.nil_append, attributeValue?_remainder_none attributes h t]
      rfl
  | some value =>
      simp only [attributeValue?_some]
      rfl

/-- The character before the place that a space leads to. -/
private theorem getLastD_take_space (before ahead : Text) :
    ((before ++ ' ' :: ahead).take ((before ++ ' ' :: ahead).length - ahead.length)).getLastD ' ' =
      ' ' := by
  have hsplit : before ++ ' ' :: ahead = (before ++ [' ']) ++ ahead := by simp
  have hlength : ((before ++ [' ']) ++ ahead).length - ahead.length = (before ++ [' ']).length := by
    rw [List.length_append, Nat.add_sub_cancel]
  rw [hsplit, hlength, List.take_left]
  simp

/-- An attribute can follow whatever stands before other attributes. -/
private theorem canPrecedeAttribute_before (before : Text)
    {attributes : List (Text × Option Text)} (hne : attributes ≠ [])
    (h : ∀ given ∈ attributes, isAttributeName given.1 = true) (t : Text) :
    canPrecedeAttribute
      (((before ++ remainder attributes t).take ((before ++ remainder attributes t).length -
        (dropSeparators (remainder attributes t)).length)).getLastD ' ') = true := by
  obtain ⟨⟨name, value⟩, others, rfl⟩ := List.exists_cons_of_ne_nil hne
  have hname := h _ (List.mem_cons_self ..)
  rw [dropSeparators_remainder_cons hname, remainder_cons, getLastD_take_space]
  decide

/-- Attributes with their values as they are written. -/
def writtenAttributes (attributes : List (Text × Option Text)) : List (Text × Text) :=
  attributes.map fun given => (given.1, (given.2.map escape).getD [])

/-- The attributes that are read from their source. -/
def readAttributes (attributes : List (Text × Option Text)) : Assoc Text :=
  attributes.map fun given => (given.1, given.2.getD [])

/-- Escaped values are accepted, and decoded to what they were. -/
theorem decodeValues_written (attributes : List (Text × Option Text)) :
    decodeValues (writtenAttributes attributes) = .ok (readAttributes attributes) := by
  induction attributes with
  | nil => rfl
  | cons given rest ih =>
      obtain ⟨name, value⟩ := given
      have hvalue : decodeValue ((value.map escape).getD []) = .ok (value.getD []) := by
        cases value with
        | none => rfl
        | some value => exact decodeValue_escape value
      show decodeValues ((name, (value.map escape).getD []) :: writtenAttributes rest) = _
      rw [decodeValues, hvalue, ih]
      rfl

theorem attributesFrom_written {attributes : List (Text × Option Text)}
    (h : ∀ given ∈ attributes, isAttributeName given.1 = true) (t : Text) {fuel : Nat}
    (hfuel : attributes.length ≤ fuel) {previous : Char}
    (hprevious : attributes ≠ [] → canPrecedeAttribute previous = true) :
    attributesFrom fuel previous (dropSeparators (remainder attributes t)) =
      (writtenAttributes attributes, '>' :: t) := by
  induction attributes generalizing fuel previous with
  | nil =>
      have hdrop : dropSeparators (remainder [] t) = '>' :: t := rfl
      rw [hdrop]
      cases fuel with
      | zero => rfl
      | succ fuel =>
          rw [attributesFrom]
          split <;> rfl
  | cons given attributes ih =>
      obtain ⟨name, value⟩ := given
      have hname := h _ (List.mem_cons_self ..)
      have hrest : ∀ given ∈ attributes, isAttributeName given.1 = true :=
        fun given hmem => h given (List.mem_cons_of_mem _ hmem)
      obtain ⟨fuel, rfl⟩ : ∃ n, fuel = n + 1 := Nat.exists_eq_succ_of_ne_zero (by
        simp only [List.length_cons] at hfuel
        omega)
      have hread := attribute?_written hname value hrest t
      have hlast := fun hne =>
        canPrecedeAttribute_before (name ++ valueSource value) hne hrest t
      have hlower : lower name = name :=
        lowerFrom_of_isPlainChar (isAttributeName_iff.mp hname).2 []
      rw [dropSeparators_remainder_cons hname, attributesFrom, if_pos (hprevious (by simp)), hread]
      simp only [List.append_assoc] at hlast
      simp only [ih hrest (Nat.le_of_succ_le_succ hfuel) hlast, hlower]
      rfl

theorem isTagName_iff {name : Text} :
    isTagName name = true ↔ (∃ c ∈ name.head?, c.isAlpha = true) ∧
      (∀ c ∈ name, isPlainChar c = true) ∧ name ∉ rawNames := by
  simp [isTagName, Option.any_eq_true, and_assoc]

theorem isElementName_iff {name : Text} :
    isElementName name = true ↔ isTagName name = true ∧ isVoid name = false := by
  simp [isElementName]

theorem areAttributes_iff {attributes : List (Text × Option Text)} :
    areAttributes attributes = true ↔
      (∀ given ∈ attributes, isAttributeName given.1 = true) ∧
        (attributes.map Prod.fst).Nodup := by
  simp [areAttributes, areAttributeNames]

/-- A start tag is read with its attributes, up to its closing bracket. -/
theorem readStartTag_written {name : Text} (hname : isTagName name = true)
    {attributes : List (Text × Option Text)} (h : areAttributes attributes = true) (t : Text) :
    readStartTag (name ++ remainder attributes t) =
      .tag ⟨name, readAttributes attributes, false⟩ t := by
  obtain ⟨-, hplain, -⟩ := isTagName_iff.mp hname
  obtain ⟨hattributes, hnodup⟩ := areAttributes_iff.mp h
  have hspan : (name ++ remainder attributes t).span isTagNameChar =
      (name, remainder attributes t) := by
    have hin : ∀ c ∈ name, isTagNameChar c = true :=
      fun c hc => isTagNameChar_of_isPlainChar (hplain c hc)
    cases attributes with
    | nil =>
        rw [remainder_nil]
        exact span_append hin (by decide) t
    | cons given attributes =>
        rw [remainder_cons]
        exact span_append hin (by decide) _
  have hfuel : attributes.length ≤ (dropSeparators (remainder attributes t)).length := by
    cases attributes with
    | nil => exact Nat.zero_le _
    | cons given attributes =>
        have hlength := length_lt_remainder attributes t
        obtain ⟨given, value⟩ := given
        rw [dropSeparators_remainder_cons (hattributes _ (List.mem_cons_self ..))]
        simp only [List.length_append, List.length_cons]
        omega
  have hread := attributesFrom_written hattributes t hfuel
    (fun hne => canPrecedeAttribute_before name hne hattributes t)
  have hlower : lower name = name := lowerFrom_of_isPlainChar hplain []
  have hnames : (Assoc.names (readAttributes attributes)).Nodup := by
    simpa [Assoc.names, readAttributes, Function.comp_def] using hnodup
  rw [readStartTag, hspan]
  simp only [hread, decodeValues_written, hlower, Assoc.ofList_of_nodup hnames]

theorem startSource_append (name : Text) (attributes : List (Text × Option Text)) (t : Text) :
    startSource name attributes ++ t = '<' :: (name ++ remainder attributes t) := by
  simp [startSource, remainder]

theorem read_startSource {name : Text} (hname : isTagName name = true)
    {attributes : List (Text × Option Text)} (h : areAttributes attributes = true) (t : Text)
    (b : Builder) :
    b.read (startSource name attributes ++ t) =
      (b.take (.startTag ⟨name, readAttributes attributes, false⟩)).read t := by
  obtain ⟨⟨c, hc, halpha⟩, hplain, hraw⟩ := isTagName_iff.mp hname
  obtain ⟨rest, hcons⟩ : ∃ rest, name = c :: rest := by
    cases name with
    | nil => cases hc
    | cons d rest => exact ⟨rest, by rw [Option.mem_some.mp hc]⟩
  have hstart : startTagStep (name ++ remainder attributes t) =
      .go [.startTag ⟨name, readAttributes attributes, false⟩] t := by
    have hcontains : rawNames.contains name = false := by simpa using hraw
    rw [startTagStep, readStartTag_written hname h]
    simp only [hcontains, Bool.false_and, Bool.false_eq_true, if_false]
  have hbracket : bracketStep (name ++ remainder attributes t) =
      startTagStep (name ++ remainder attributes t) := by
    rw [hcons, List.cons_append, bracketStep, if_pos halpha]
  have hstep : step false ('<' :: (name ++ remainder attributes t)) =
      .go [.startTag ⟨name, readAttributes attributes, false⟩] t := by
    rw [step, hbracket, hstart]
  have hsplit : name ++ remainder attributes t =
      (name ++ attributes.flatMap attributeSource ++ ['>']) ++ t := by
    simp [remainder]
  rw [startSource_append]
  exact Builder.read_of_go hsplit hstep b

/-! ## End tags -/

theorem read_endSource {name : Text} (hname : isTagName name = true) (t : Text)
    (b : Builder) : b.read (endSource name ++ t) = (b.take (.endTag name)).read t := by
  obtain ⟨⟨c, hc, halpha⟩, hplain, -⟩ := isTagName_iff.mp hname
  have hbracket : '>' ∉ name := fun hmem => absurd (hplain _ hmem) (by decide)
  have hlower : lower name = name := lowerFrom_of_isPlainChar hplain []
  have hcut := cutChar?_append hbracket t
  have hend : endTagStep (name ++ '>' :: t) = .go [.endTag name] t := by
    obtain ⟨rest, rfl⟩ : ∃ rest, name = c :: rest := by
      cases name with
      | nil => cases hc
      | cons d rest => exact ⟨rest, by rw [Option.mem_some.mp hc]⟩
    have htrim : trimStart (c :: rest) = c :: rest :=
      trimStart_eq_self fun d r h => by
        obtain ⟨rfl, -⟩ := List.cons.inj h
        exact isBlank_of_isPlainChar (hplain c (List.mem_cons_self ..))
    have hpart : ∀ d ∈ rest,
        (d.isAlphanum || d == '-' || d == '.' || d == ':' || d == '_') = true := by
      intro d hd
      have hd := isAlphanum_or_hyphen (hplain d (List.mem_cons_of_mem _ hd))
      simp only [Bool.or_eq_true] at hd ⊢
      tauto
    have hmore : rest.takeWhile
        (fun d => d.isAlphanum || d == '-' || d == '.' || d == ':' || d == '_') = rest :=
      List.takeWhile_eq_self_iff.mpr hpart
    rw [endTagStep, toBracket?, hcut]
    simp only [htrim, hmore, halpha, List.drop_length, hlower]
    rfl
  have hstep : step false ('<' :: '/' :: (name ++ '>' :: t)) = .go [.endTag name] t := by
    have hslash : bracketStep ('/' :: (name ++ '>' :: t)) = endTagStep (name ++ '>' :: t) := rfl
    rw [step, hslash, hend]
  have hsplit : '/' :: (name ++ '>' :: t) = ('/' :: name ++ ['>']) ++ t := by simp
  have hsource : endSource name ++ t = '<' :: '/' :: (name ++ '>' :: t) := by simp [endSource]
  rw [hsource]
  exact Builder.read_of_go hsplit hstep b

/-! ## Reading a tree -/

mutual

/-- The tokens of a text or an element. -/
def tokens : Markup → List Token
  | .text content => [.text content]
  | .element name attributes children =>
    .startTag ⟨name, readAttributes attributes, false⟩ :: (tokensAmong children ++ [.endTag name])

/-- The tokens of several texts and elements. -/
def tokensAmong : List Markup → List Token
  | [] => []
  | markup :: rest => tokens markup ++ tokensAmong rest

end

mutual

/-- The source of a text or an element is read as its tokens, whatever follows it. -/
theorem read_source (markup : Markup) (h : isPlain markup = true) (t : Text) (b : Builder) :
    b.read (source markup ++ t) = ((tokens markup).foldl Builder.take b).read t := by
  cases markup with
  | text content => exact Builder.read_escape content t b
  | element name attributes children =>
      simp only [isPlain, Bool.and_eq_true] at h
      obtain ⟨⟨hname, hattributes⟩, hchildren⟩ := h
      obtain ⟨hname, -⟩ := isElementName_iff.mp hname
      rw [source, List.append_assoc, List.append_assoc, read_startSource hname hattributes,
        read_sources children hchildren, read_endSource hname]
      simp [tokens]

/-- The source of several texts and elements is read as their tokens, whatever follows it. -/
theorem read_sources (markups : List Markup) (h : arePlain markups = true) (t : Text)
    (b : Builder) :
    b.read (sources markups ++ t) = ((tokensAmong markups).foldl Builder.take b).read t := by
  cases markups with
  | nil => rfl
  | cons markup rest =>
      simp only [arePlain, Bool.and_eq_true] at h
      rw [sources, List.append_assoc, read_source markup h.1, read_sources rest h.2]
      simp [tokensAmong]

end

end Markup

end PaperHtml.Html

import Mathlib
import PaperHtml.Proofs.Bibliography.BracedValue
import PaperHtml.Proofs.Bibliography.Citable

/-!
# The place of a field

A field is read where the scan over the body comes to it.  What the scan does in
front of it depends on what follows, since a value that is begun there may find its
end further on.  It depends on the marks alone, though: the scan comes to the same
place with the same fields if two texts have the same marks in the same order
(`Reaches.alike`).

## Strategy

Of a reader at a place in front there are three outcomes, and each proof goes
through them (`TakesAlike`): it recognises nothing, or something that ends in front
of the place, or something that ends beyond it.  In the first two cases both texts
give the same, and in the third the scan never comes to the place.
-/

namespace PaperHtml

namespace Assoc

variable {α : Type}

/-- Of the values put in under a name the last one counts. -/
theorem get?_ofList_append (name : Text) (earlier later : List (Text × α)) :
    get? name (ofList (earlier ++ later)) =
      (get? name (ofList later)).or (get? name (ofList earlier)) := by
  induction later using List.reverseRecOn with
  | nil => simp [ofList, get?]
  | append_singleton later pair ih =>
      have hlast (pairs : List (Text × α)) :
          ofList (pairs ++ [pair]) = insert pair.1 pair.2 (ofList pairs) := by
        rw [ofList, List.foldl_append]
        rfl
      rw [← List.append_assoc, hlast, hlast, get?_insert, get?_insert, ih]
      split <;> rfl

end Assoc

namespace Scanner

variable {α : Type} {scan : Scanner α}

/-- A scan over a text that `t` follows comes to `t`, and what it has found by then. -/
inductive Reaches (scan : Scanner α) (t : Text) : Text → List α → Prop
  | here : Reaches scan t [] []
  | pass {c : Char} {before : Text} {found : List α} : scan (c :: (before ++ t)) = none →
      Reaches scan t before found → Reaches scan t (c :: before) found
  | hit {c : Char} {front before : Text} {a : α} {found : List α} :
      scan (c :: front ++ (before ++ t)) = some (a, before ++ t) →
      Reaches scan t before found → Reaches scan t (c :: front ++ before) (a :: found)

theorem findAll_of_reaches {t before : Text} {found : List α} (h : Reaches scan t before found) :
    findAll scan (before ++ t) = found ++ findAll scan t := by
  induction h with
  | here => rfl
  | pass hnone _ ih => rw [List.cons_append, findAll_of_none hnone, ih]
  | hit hsome _ ih => rw [List.append_assoc, findAll_of_some hsome, ih, List.cons_append]

/-- A value that a scan finds is recognised where the scan comes to, if the scan consumes what it
recognises. -/
theorem exists_reaches_of_mem_findAll
    (hconsumes : ∀ {t a after}, scan t = some (a, after) → ∃ front, front ≠ [] ∧ t = front ++ after)
    {a : α} (t : Text) (h : a ∈ findAll scan t) :
    ∃ before rest after found, t = before ++ rest ∧ Reaches scan rest before found ∧
      scan rest = some (a, after) := by
  induction hlength : t.length using Nat.strong_induction_on generalizing t with
  | h n ih =>
      subst hlength
      cases t with
      | nil => cases h
      | cons c t =>
          cases hscan : scan (c :: t) with
          | none =>
              rw [findAll_of_none hscan] at h
              obtain ⟨before, rest, after, found, rfl, hreached, hrest⟩ :=
                ih t.length (by simp) t h rfl
              exact ⟨c :: before, rest, after, found, rfl, .pass hscan hreached, hrest⟩
          | some result =>
              obtain ⟨b, behind⟩ := result
              obtain ⟨front, hne, ht⟩ := hconsumes hscan
              obtain ⟨d, front, rfl⟩ := List.exists_cons_of_ne_nil hne
              rw [ht] at hscan
              rw [ht, findAll_of_some hscan] at h
              rcases List.mem_cons.mp h with rfl | h
              · exact ⟨[], d :: front ++ behind, behind, [], ht, .here, hscan⟩
              · have hshorter : behind.length < (c :: t).length := by
                  rw [ht, List.length_append, List.length_cons]
                  omega
                obtain ⟨before, rest, after, found, rfl, hreached, hrest⟩ :=
                  ih behind.length hshorter behind h rfl
                have hsplit : c :: t = d :: front ++ before ++ rest := by rw [ht, List.append_assoc]
                exact ⟨d :: front ++ before, rest, after, b :: found, hsplit, .hit hscan hreached, hrest⟩

/-- How a reader takes two texts with the same text in front of them. -/
inductive TakesAlike (scan : Scanner α) (before t t' : Text) : Prop
  | nothing : scan (before ++ t) = none → scan (before ++ t') = none → TakesAlike scan before t t'
  | inside (a : α) (rest : Text) : scan (before ++ t) = some (a, rest ++ t) →
      scan (before ++ t') = some (a, rest ++ t') → TakesAlike scan before t t'
  | beyond (a : α) (rest : Text) : scan (before ++ t) = some (a, rest) →
      rest.length < t.length → TakesAlike scan before t t'

/-- Where something is recognised in front of the texts, it is the same. -/
theorem TakesAlike.of_map {before t t' : Text} {found : Option (α × Text)}
    (h : scan (before ++ t) = found.map fun found => (found.1, found.2 ++ t))
    (h' : scan (before ++ t') = found.map fun found => (found.1, found.2 ++ t')) :
    TakesAlike scan before t t' := by
  cases found with
  | none => exact .nothing h h'
  | some found => exact .inside found.1 found.2 h h'

/-- One reader and another one where it finds nothing. -/
theorem TakesAlike.or {other : Scanner α} {before t t' : Text} (h : TakesAlike scan before t t')
    (hother : TakesAlike other before t t') :
    TakesAlike (fun t => (scan t).or (other t)) before t t' := by
  cases h with
  | nothing hnone hnone' =>
      cases hother with
      | nothing h h' =>
          apply TakesAlike.nothing
          · simp [hnone, h]
          · simp [hnone', h']
      | inside a rest h h' =>
          apply TakesAlike.inside a rest
          · simp [hnone, h]
          · simp [hnone', h']
      | beyond a rest h hshort =>
          refine .beyond a rest ?_ hshort
          simp [hnone, h]
  | inside a rest h h' =>
      apply TakesAlike.inside a rest
      · simp [h]
      · simp [h']
  | beyond a rest h hshort =>
      refine .beyond a rest ?_ hshort
      simp [h]

/-- A scan that comes to one text comes to another one with the same findings, if it takes the two
alike at every place in front of them. -/
theorem Reaches.alike {t t' before : Text} {found : List α} (h : Reaches scan t before found)
    (halike : ∀ front, front <:+ before → front ≠ [] → TakesAlike scan front t t') :
    Reaches scan t' before found := by
  induction h with
  | here => exact .here
  | @pass c before found hnone _ ih =>
      have hrest := ih fun front hfront => halike front (hfront.trans (List.suffix_cons c before))
      cases halike (c :: before) (List.suffix_refl _) (List.cons_ne_nil _ _) with
      | nothing _ hnone' => exact .pass hnone' hrest
      | inside a rest h => exact absurd (hnone.symm.trans h) (by simp)
      | beyond a rest h => exact absurd (hnone.symm.trans h) (by simp)
  | @hit c front before a found hsome _ ih =>
      have hrest := ih fun back hback => halike back (hback.trans (List.suffix_append _ before))
      have hfront := halike (c :: front ++ before) (List.suffix_refl _) (by simp)
      cases hfront with
      | nothing hnone =>
          rw [List.append_assoc, hsome] at hnone
          cases hnone
      | inside b rest h h' =>
          rw [List.append_assoc, hsome, Option.some.injEq, Prod.mk.injEq] at h
          obtain ⟨rfl, hsame⟩ := h
          rw [← List.append_cancel_right hsame, List.append_assoc] at h'
          exact .hit h' hrest
      | beyond b rest h hshort =>
          rw [List.append_assoc, hsome, Option.some.injEq, Prod.mk.injEq] at h
          rw [← h.2, List.length_append] at hshort
          omega

end Scanner

namespace Bibliography

open Text Scanner

/-- Whether a character is a brace. -/
def isBrace (c : Char) : Bool := c = '{' ∨ c = '}'

/-- A text with a word character at its front. -/
def BeginsWord (t : Text) : Prop := ∃ c rest, t = c :: rest ∧ isWordChar c = true

/-- Two texts that begin with a word and have the same marks. -/
structure Alike (t t' : Text) : Prop where
  word : BeginsWord t
  word' : BeginsWord t'
  braces : t.filter isBrace = t'.filter isBrace
  quotation : '"' ∈ t ↔ '"' ∈ t'

variable {before t t' : Text}

private theorem isBlank_eq_false_of_isWordChar {c : Char} (hc : isWordChar c = true) :
    isBlank c = false := by
  cases hblank : isBlank c with
  | false => rfl
  | true => exact absurd hc (by simp [isWordChar_eq_false_of_isBlank hblank])

private theorem ne_of_isWordChar_eq {c d : Char} (hc : isWordChar c = true)
    (hd : isWordChar d = false) : c ≠ d := by
  rintro rfl
  rw [hc] at hd
  cases hd

/-- A text is parted by its first character of a kind. -/
private theorem parted {p : Char → Bool} (t : Text) :
    (∀ c ∈ t, p c = false) ∨
      ∃ front c back, t = front ++ c :: back ∧ (∀ d ∈ front, p d = false) ∧ p c = true := by
  cases hfilter : t.filter p with
  | nil =>
      left
      intro c hc
      simpa using List.filter_eq_nil_iff.mp hfilter c hc
  | cons c rest =>
      obtain ⟨front, back, rfl, hfront, hc, -⟩ := List.filter_eq_cons_iff.mp hfilter
      exact .inr ⟨front, c, back, rfl, fun d hd => by simpa using hfront d hd, hc⟩

/-! ## Values in front of a place -/

/-- For a reader of what begins with a mark only the places with that mark are to be looked at. -/
theorem Alike.of_opening {α : Type} {scan : Scanner α} {mark : Char} (h : Alike t t')
    (hmark : isWordChar mark = false)
    (hnone : ∀ {c : Char}, c ≠ mark → ∀ t, scan (c :: t) = none)
    (hopened : ∀ before, TakesAlike scan (mark :: before) t t') (before : Text) :
    TakesAlike scan before t t' := by
  cases before with
  | nil =>
      have hword {t : Text} (ht : BeginsWord t) : scan t = none := by
        obtain ⟨c, rest, rfl, hc⟩ := ht
        exact hnone (ne_of_isWordChar_eq hc hmark) rest
      exact .nothing (hword h.word) (hword h.word')
  | cons c before =>
      by_cases hc : c = mark
      · exact hc ▸ hopened before
      · exact .nothing (hnone hc _) (hnone hc _)

theorem flatGroup?_of_ne {c : Char} (hc : c ≠ '{') (t : Text) : flatGroup? (c :: t) = none := by
  unfold flatGroup?
  split
  · rename_i heq
    cases heq
    exact absurd rfl hc
  · rfl

theorem quotation?_of_ne {c : Char} (hc : c ≠ '"') (t : Text) : quotation? (c :: t) = none := by
  unfold quotation?
  split
  · rename_i heq
    cases heq
    exact absurd rfl hc
  · rfl

private theorem flat_of_isBrace (h : ∀ c ∈ t, isBrace c = false) : '{' ∉ t ∧ '}' ∉ t :=
  ⟨fun hmem => absurd (h _ hmem) (by decide), fun hmem => absurd (h _ hmem) (by decide)⟩

/-- A group is over at the first brace behind its opening one. -/
theorem flatGroup?_of_parted {front : Text} {brace : Char}
    (hfront : ∀ c ∈ front, isBrace c = false) (hbrace : isBrace brace = true) (back : Text) :
    flatGroup? ('{' :: (front ++ brace :: back)) =
      if brace = '}' then some (braced front, back) else none := by
  obtain ⟨hopen, hclose⟩ := flat_of_isBrace hfront
  rcases of_decide_eq_true hbrace with rfl | rfl
  · exact flatGroup?_nested hopen hclose back
  · simpa [braced] using flatGroup?_braced hopen hclose back

/-- It is none if that brace does not close it. -/
theorem flatGroup?_of_not_closed (h : (t.filter isBrace).head? ≠ some '}') :
    flatGroup? ('{' :: t) = none := by
  rcases parted (p := isBrace) t with hflat | ⟨front, brace, back, rfl, hfront, hbrace⟩
  · obtain ⟨hopen, hclose⟩ := flat_of_isBrace hflat
    have hinner : t.takeWhile (fun c => decide (c ≠ '{' ∧ c ≠ '}')) = t :=
      List.takeWhile_eq_self_iff.mpr fun c hc =>
        decide_eq_true ⟨ne_of_mem_of_not_mem hc hopen, ne_of_mem_of_not_mem hc hclose⟩
    simp only [flatGroup?, hinner, List.drop_length]
  · rw [List.filter_append, List.filter_eq_nil_iff.mpr (by simpa using hfront), List.nil_append,
      List.filter_cons_of_pos hbrace, List.head?_cons, Ne, Option.some.injEq] at h
    rw [flatGroup?_of_parted hfront hbrace, if_neg h]

theorem Alike.flatGroup? (h : Alike t t') (before : Text) :
    TakesAlike Bibliography.flatGroup? before t t' := by
  refine h.of_opening (by decide) flatGroup?_of_ne (fun before => ?_) before
  rcases parted (p := isBrace) before with hflat | ⟨front, brace, back, rfl, hfront, hbrace⟩
  · -- the first brace of the group stands in the two texts
    have hfirst (t : Text) : (before ++ t).filter isBrace = t.filter isBrace := by
      rw [List.filter_append, List.filter_eq_nil_iff.mpr (by simpa using hflat), List.nil_append]
    by_cases hclosed : (t.filter isBrace).head? = some '}'
    · obtain ⟨later, hlater⟩ := List.head?_eq_some_iff.mp hclosed
      obtain ⟨front, back, rfl, hfront, hbrace, -⟩ := List.filter_eq_cons_iff.mp hlater
      have hinside : ∀ c ∈ before ++ front, isBrace c = false :=
        List.forall_mem_append.mpr ⟨hflat, by simpa using hfront⟩
      refine .beyond (braced (before ++ front)) back ?_ ?_
      · rw [List.cons_append, ← List.append_assoc, flatGroup?_of_parted hinside hbrace, if_pos rfl]
      · rw [List.length_append, List.length_cons]
        omega
    · have hclosed' : (t'.filter isBrace).head? ≠ some '}' := h.braces ▸ hclosed
      exact .nothing (flatGroup?_of_not_closed ((hfirst t).symm ▸ hclosed))
        (flatGroup?_of_not_closed ((hfirst t').symm ▸ hclosed'))
  · have hscan (t : Text) : Bibliography.flatGroup? ('{' :: (front ++ brace :: back) ++ t) =
        (if brace = '}' then some (braced front, back) else none).map
          fun found => (found.1, found.2 ++ t) := by
      rw [List.cons_append, List.append_assoc, List.cons_append, flatGroup?_of_parted hfront hbrace]
      split <;> rfl
    exact .of_map (hscan _) (hscan _)

theorem Alike.quotation? (h : Alike t t') (before : Text) :
    TakesAlike Bibliography.quotation? before t t' := by
  refine h.of_opening (by decide) quotation?_of_ne (fun before => ?_) before
  by_cases hinside : '"' ∈ before
  · have hscan (t : Text) : Bibliography.quotation? ('"' :: before ++ t) =
        ((cutChar? '"' before).map fun found => ('"' :: found.1 ++ ['"'], found.2)).map
          fun found => (found.1, found.2 ++ t) := by
      rw [List.cons_append, Bibliography.quotation?, cutChar?_append_of_mem hinside,
        Option.map_map, Option.map_map]
      rfl
    exact .of_map (hscan _) (hscan _)
  by_cases hmark : '"' ∈ t
  · obtain ⟨front, back, rfl, hfront⟩ := List.eq_append_cons_of_mem hmark
    have hcut := cutChar?_append (List.not_mem_append hinside hfront) back
    refine .beyond ('"' :: (before ++ front) ++ ['"']) back ?_ ?_
    · rw [List.cons_append, Bibliography.quotation?, ← List.append_assoc, hcut]
      rfl
    · rw [List.length_append, List.length_cons]
      omega
  · have hnone {t : Text} (ht : '"' ∉ t) : Bibliography.quotation? ('"' :: before ++ t) = none := by
      have hcut : cutChar? '"' (before ++ t) = none := by
        rw [Option.eq_none_iff_forall_ne_some]
        intro found hfound
        refine absurd ?_ (List.not_mem_append hinside ht)
        rw [(cutChar?_eq_some hfound).1]
        simp
      rw [List.cons_append, Bibliography.quotation?, hcut]
      rfl
    exact .nothing (hnone hmark) (hnone (mt h.quotation.mpr hmark))

/-- Whether a value without marks ends at a character. -/
def isStop (c : Char) : Bool := c = ',' ∨ c = '\n'

theorem Alike.bareValue? (h : Alike t t') (before : Text) :
    TakesAlike Bibliography.bareValue? before t t' := by
  have hinner {front : Text} (hfront : ∀ c ∈ front, isStop c = false) :
      ∀ c ∈ front, decide (c ≠ ',' ∧ c ≠ '\n') = true := fun c hc => by
    simpa [isStop] using hfront c hc
  rcases parted (p := isStop) before with hbare | ⟨front, stop, back, rfl, hfront, hstop⟩
  · obtain ⟨c, rest, rfl, hc⟩ := h.word
    have hcomma : c ≠ ',' := ne_of_isWordChar_eq hc (by decide)
    have hfeed : c ≠ '\n' := ne_of_isWordChar_eq hc (by decide)
    refine .beyond (before ++ c :: rest.takeWhile fun c => decide (c ≠ ',' ∧ c ≠ '\n'))
      (rest.drop (rest.takeWhile fun c => decide (c ≠ ',' ∧ c ≠ '\n')).length) ?_ ?_
    · unfold Bibliography.bareValue?
      rw [List.takeWhile_append_of_pos (hinner hbare),
        List.takeWhile_cons_of_pos (by simp [hcomma, hfeed])]
      split
      · rename_i hempty
        exact absurd hempty (by simp)
      · rw [← List.singleton_append, ← List.append_assoc, ← List.singleton_append (l := rest),
          ← List.append_assoc, List.length_append, List.drop_length_add_append]
    · rw [List.length_drop, List.length_cons]
      omega
  · have hscan (t : Text) : Bibliography.bareValue? (front ++ stop :: back ++ t) =
        (if front = [] then none else some (front, stop :: back)).map
          fun found => (found.1, found.2 ++ t) := by
      have hends : (stop :: (back ++ t)).takeWhile (fun c => decide (c ≠ ',' ∧ c ≠ '\n')) = [] :=
        List.takeWhile_cons_of_neg (by rcases of_decide_eq_true hstop with rfl | rfl <;> decide)
      have htake : (front ++ stop :: back ++ t).takeWhile
          (fun c => decide (c ≠ ',' ∧ c ≠ '\n')) = front := by
        rw [List.append_assoc, List.takeWhile_append_of_pos (hinner hfront), List.cons_append, hends,
          List.append_nil]
      unfold Bibliography.bareValue?
      rw [htake]
      cases front with
      | nil => rfl
      | cons c front => simp
    exact .of_map (hscan _) (hscan _)

/-- Blanks in front of a word are trimmed together with those in front of them. -/
private theorem trimStart_append_word (ht : BeginsWord t)
    (before : Text) : trimStart (before ++ t) = trimStart before ++ t := by
  obtain ⟨c, rest, rfl, hc⟩ := ht
  exact trimStart_append_cons (isBlank_eq_false_of_isWordChar hc) before rest

private theorem takeWhile_append_word (ht : BeginsWord t)
    (before : Text) : (before ++ t).takeWhile isBlank = before.takeWhile isBlank := by
  obtain ⟨c, rest, rfl, hc⟩ := ht
  rw [List.takeWhile_append, List.takeWhile_cons_of_neg
    (by simp [isBlank_eq_false_of_isWordChar hc]), List.append_nil]
  split
  · rename_i hall
    exact ((List.takeWhile_prefix isBlank).eq_of_length hall).symm
  · rfl

theorem Alike.value? (h : Alike t t') (before : Text) :
    TakesAlike Bibliography.value? before t t' := by
  have hstart := trimStart_append_word h.word before
  have hstart' := trimStart_append_word h.word' before
  have hmarked := (h.flatGroup? (trimStart before)).or
    ((h.quotation? (trimStart before)).or (h.bareValue? (trimStart before)))
  cases hmarked with
  | nothing hnone hnone' =>
      have hscan {t : Text} (hstart : trimStart (before ++ t) = trimStart before ++ t)
          (hgap : (before ++ t).takeWhile isBlank = before.takeWhile isBlank)
          (hnone : (Bibliography.flatGroup? (trimStart before ++ t)).or
            ((Bibliography.quotation? (trimStart before ++ t)).or
              (Bibliography.bareValue? (trimStart before ++ t))) = none) :
          Bibliography.value? (before ++ t) =
            (if (before.takeWhile isBlank).any (· ≠ '\n') then some ([' '], trimStart before)
              else none).map fun found => (found.1, found.2 ++ t) := by
        simp only [Bibliography.value?, hstart, hgap, hnone]
        split <;> rfl
      exact .of_map (hscan hstart (takeWhile_append_word h.word before) hnone)
        (hscan hstart' (takeWhile_append_word h.word' before) hnone')
  | inside raw rest hsome hsome' =>
      apply TakesAlike.inside raw rest
      · simp only [Bibliography.value?, hstart, hsome]
      · simp only [Bibliography.value?, hstart', hsome']
  | beyond raw rest hsome hshort =>
      refine .beyond raw rest ?_ hshort
      simp only [Bibliography.value?, hstart, hsome]

/-! ## Fields in front of a place -/

/-- A text at which a field is read, also where its name goes on to the left. -/
def BeginsField (t : Text) : Prop :=
  ∀ word : Text, (∀ c ∈ word, isWordChar c = true) →
    ∃ field rest, rawField? (word ++ t) = some (field, rest) ∧ rest.length < t.length

theorem Alike.rawField? (h : Alike t t') (hfield : BeginsField t) (before : Text) :
    TakesAlike Bibliography.rawField? before t t' := by
  rcases parted (p := fun c => !isWordChar c) before with hword | ⟨name, c, back, rfl, hname, hc⟩
  · obtain ⟨field, rest, hread, hshort⟩ := hfield before fun c hc => by simpa using hword c hc
    exact .beyond field rest hread hshort
  have hspan (t : Text) : spanWord (name ++ c :: back ++ t) = (name, c :: back ++ t) := by
    rw [List.append_assoc]
    exact spanWord_append (fun d hd => by simpa using hname d hd) hc
  cases name with
  | nil =>
      have hnone (t : Text) : Bibliography.rawField? ([] ++ c :: back ++ t) = none := by
        simp only [Bibliography.rawField?, hspan]
      exact .nothing (hnone _) (hnone _)
  | cons d name =>
      have hbehind {t : Text} (ht : BeginsWord t) :
          trimStart (c :: back ++ t) = trimStart (c :: back) ++ t :=
        trimStart_append_word ht (c :: back)
      by_cases hsign : (trimStart (c :: back)).head? = some '='
      · obtain ⟨value, hvalue⟩ := List.head?_eq_some_iff.mp hsign
        have hread {t : Text} (ht : BeginsWord t) :
            Bibliography.rawField? (d :: name ++ c :: back ++ t) =
              (Bibliography.value? (value ++ t)).map fun found =>
                ((d :: name, found.1), dropOptional ',' (trimStart found.2)) :=
          rawField?_of_sign (List.cons_ne_nil _ _) (hspan t) (by rw [hbehind ht, hvalue]; rfl)
        have hcomma {t : Text} (ht : BeginsWord t) (rest : Text) :
            dropOptional ',' (trimStart (rest ++ t)) = dropOptional ',' (trimStart rest) ++ t := by
          rw [trimStart_append_word ht]
          cases trimStart rest with
          | nil =>
              obtain ⟨e, rest, rfl, he⟩ := ht
              exact if_neg (ne_of_isWordChar_eq he (by decide))
          | cons e rest =>
              rw [List.cons_append, dropOptional, dropOptional]
              split <;> rfl
        cases h.value? value with
        | nothing hnone hnone' =>
            apply TakesAlike.nothing
            · rw [hread h.word, hnone, Option.map_none]
            · rw [hread h.word', hnone', Option.map_none]
        | inside raw rest hsome hsome' =>
            apply TakesAlike.inside (d :: name, raw) (dropOptional ',' (trimStart rest))
            · rw [hread h.word, hsome, Option.map_some, hcomma h.word]
            · rw [hread h.word', hsome', Option.map_some, hcomma h.word']
        | beyond raw rest hsome hshort =>
            refine .beyond (d :: name, raw) (dropOptional ',' (trimStart rest)) ?_ ?_
            · rw [hread h.word, hsome, Option.map_some]
            · have hdropped := length_dropOptional_le ',' (trimStart rest)
              have htrimmed : (trimStart rest).length ≤ rest.length :=
                (List.dropWhile_suffix isBlank).length_le
              omega
      · have hnone {t : Text} (ht : BeginsWord t) :
            Bibliography.rawField? (d :: name ++ c :: back ++ t) = none := by
          apply rawField?_of_no_sign (hspan t)
          rw [hbehind ht]
          cases hback : trimStart (c :: back) with
          | nil =>
              -- a name is no equals sign
              obtain ⟨e, rest, rfl, he⟩ := ht
              simpa using ne_of_isWordChar_eq he (by decide)
          | cons e behind => simpa [hback] using hsign
        exact .nothing (hnone h.word) (hnone h.word')

/-! ## Enclosed values -/

/-- What can stand between marks: a text without them. -/
def Quoting.Encloses : Quoting → Text → Prop
  | .braces, content => '{' ∉ content ∧ '}' ∉ content
  | .marks, content => '"' ∉ content
  | .bare, _ => False

instance (quoting : Quoting) (content : Text) : Decidable (quoting.Encloses content) := by
  cases quoting <;> unfold Quoting.Encloses <;> infer_instance

/-- A field in the body of an entry, its value apart. -/
structure FieldPlace where
  before : Text
  name : Text
  gap : Text
  gap' : Text
  quoting : Quoting
  rest : Text

namespace FieldPlace

/-- The body from the field on, with a value between its marks. -/
def field (place : FieldPlace) (content : Text) : Text :=
  place.name ++ (place.gap ++ '=' :: (place.gap' ++ (place.quoting.write content ++ place.rest)))

def body (place : FieldPlace) (content : Text) : Text := place.before ++ place.field content

/-- The body behind the field. -/
def behind (place : FieldPlace) : Text := dropOptional ',' (trimStart place.rest)

/-- The field is written as one and the scan comes to it. -/
structure Holds (place : FieldPlace) (content : Text) : Prop where
  name_ne_nil : place.name ≠ []
  word : ∀ c ∈ place.name, isWordChar c = true
  gap : isBlankText place.gap = true
  gap' : isBlankText place.gap' = true
  encloses : place.quoting.Encloses content
  reached : ∃ found, Reaches rawField? (place.field content) place.before found

variable {place : FieldPlace} {content : Text}

theorem value?_enclosed (h : place.Holds content) :
    value? (place.gap' ++ (place.quoting.write content ++ place.rest)) =
      some (place.quoting.write content, place.rest) := by
  have hblank := List.all_eq_true.mp h.gap'
  have hencloses := h.encloses
  cases hquoting : place.quoting with
  | braces =>
      rw [hquoting] at hencloses
      exact value?_flat hblank hencloses.1 hencloses.2 place.rest
  | marks =>
      rw [hquoting] at hencloses
      exact value?_marked hblank hencloses place.rest
  | bare =>
      rw [hquoting] at hencloses
      exact hencloses.elim

/-- At its place the field is read, and its name may go on to the left. -/
theorem rawField?_field (h : place.Holds content) {word : Text}
    (hword : ∀ c ∈ word, isWordChar c = true) :
    rawField? (word ++ place.field content) =
      some ((word ++ place.name, place.quoting.write content), place.behind) := by
  have hname : spanWord (word ++ place.field content) = (word ++ place.name, place.gap ++
      '=' :: (place.gap' ++ (place.quoting.write content ++ place.rest))) := by
    rw [field, ← List.append_assoc word]
    apply spanWord_append (List.forall_mem_append.mpr ⟨hword, h.word⟩)
    cases hgap : place.gap with
    | nil => rfl
    | cons c gap =>
        have hc : isBlank c = true :=
          List.all_eq_true.mp h.gap c (hgap ▸ List.mem_cons_self ..)
        simp [atWordEnd, isWordChar_eq_false_of_isBlank hc]
  have hsign : trimStart (place.gap ++
      '=' :: (place.gap' ++ (place.quoting.write content ++ place.rest))) =
        '=' :: (place.gap' ++ (place.quoting.write content ++ place.rest)) := by
    rw [trimStart_append (List.all_eq_true.mp h.gap)]
    exact trimStart_cons (by decide) _
  rw [rawField?_of_sign (List.append_ne_nil_of_right_ne_nil word h.name_ne_nil) hname hsign,
    value?_enclosed h, Option.map_some]
  rfl

/-- Behind the field there is a part of what stands behind its value. -/
theorem behind_suffix (place : FieldPlace) : place.behind <:+ place.rest :=
  (dropOptional_suffix ',' _).trans (List.dropWhile_suffix isBlank)

theorem exists_field (h : place.Holds content) :
    ∃ front, front ≠ [] ∧ place.field content = front ++ place.behind := by
  obtain ⟨front, hfront⟩ := place.behind_suffix
  refine ⟨place.name ++ (place.gap ++
    '=' :: (place.gap' ++ (place.quoting.write content ++ front))),
    List.append_ne_nil_of_left_ne_nil h.name_ne_nil _, ?_⟩
  rw [field, ← hfront]
  simp

theorem beginsField (h : place.Holds content) : BeginsField (place.field content) := by
  intro word hword
  refine ⟨_, _, rawField?_field h hword, ?_⟩
  obtain ⟨front, hne, hfield⟩ := exists_field h
  have hlength := List.length_pos_of_ne_nil hne
  rw [hfield, List.length_append]
  omega

/-- The fields of a body are those in front of the place, the one at the place and those behind. -/
theorem findAll_body (h : place.Holds content) {found : List (Text × Text)}
    (hreached : Reaches rawField? (place.field content) place.before found) :
    findAll rawField? (place.body content) =
      found ++ (place.name, place.quoting.write content) :: findAll rawField? place.behind := by
  obtain ⟨front, hne, hfield⟩ := exists_field h
  have hread := rawField?_field h (List.forall_mem_nil _)
  rw [List.nil_append, List.nil_append] at hread
  rw [body, findAll_of_reaches hreached, hfield, findAll_append_of_some hne (hfield ▸ hread)]

/-- The field is read with another value as well, if that has the same marks. -/
theorem alike (h : place.Holds content) {other : Text}
    (hbraces : content.filter isBrace = other.filter isBrace)
    (hquotation : '"' ∈ content ↔ '"' ∈ other) :
    Alike (place.field content) (place.field other) := by
  obtain ⟨c, name, hname⟩ := List.exists_cons_of_ne_nil h.name_ne_nil
  have hc := h.word c (hname ▸ List.mem_cons_self ..)
  refine ⟨⟨c, _, by rw [field, hname]; rfl, hc⟩, ⟨c, _, by rw [field, hname]; rfl, hc⟩, ?_, ?_⟩
  · unfold field
    cases place.quoting <;>
      simp only [Quoting.write, braced, List.filter_append, List.filter_cons, hbraces]
  · unfold field
    cases place.quoting <;>
      simp [Quoting.write, braced, hquotation]

/-! ## Every field has a place -/

/-- Every field of a body whose value is enclosed has a place. -/
theorem exists_holds {body : Text} {found : Text × Text} {quoting : Quoting}
    (h : found ∈ findAll rawField? body) (hraw : found.2 = quoting.write content)
    (hencloses : quoting.Encloses content) :
    ∃ place : FieldPlace, place.Holds content ∧ place.body content = body ∧
      place.name = found.1 ∧ place.quoting = quoting := by
  have hconsumes {t after : Text} {field : Text × Text} (h : rawField? t = some (field, after)) :
      ∃ front, front ≠ [] ∧ t = front ++ after := by
    obtain ⟨gap, behind, rest, rfl, hne, -, -, hvalue, rfl⟩ := rawField?_eq_some h
    have hsuffix : dropOptional ',' (trimStart rest) <:+ behind :=
      ((dropOptional_suffix ',' _).trans (List.dropWhile_suffix isBlank)).trans
        (suffix_of_value? hvalue)
    obtain ⟨front, hfront⟩ := hsuffix
    refine ⟨field.1 ++ (gap ++ '=' :: front), List.append_ne_nil_of_left_ne_nil hne _, ?_⟩
    rw [← hfront]
    simp
  obtain ⟨before, t, after, earlier, rfl, hreached, hread⟩ :=
    exists_reaches_of_mem_findAll hconsumes body h
  obtain ⟨name, raw⟩ := found
  obtain ⟨gap, behind, rest, rfl, hne, hword, hgap, hvalue, -⟩ := rawField?_eq_some hread
  have hmarked : raw ≠ [' '] := by
    rintro rfl
    cases quoting with
    | braces => cases hraw
    | marks => cases hraw
    | bare => exact hencloses
  obtain ⟨gap', hgap', hbehind⟩ := exists_trimStart behind
  rcases value?_eq_some hvalue with hsplit | ⟨hblank, -⟩
  · rw [hsplit, show raw = quoting.write content from hraw] at hbehind
    have hfield : (⟨before, name, gap, gap', quoting, rest⟩ : FieldPlace).field content =
        name ++ (gap ++ '=' :: behind) := by rw [field, hbehind]
    refine ⟨⟨before, name, gap, gap', quoting, rest⟩,
      ⟨hne, hword, hgap, List.all_eq_true.mpr hgap', hencloses, earlier, ?_⟩, ?_, rfl, rfl⟩
    · rw [hfield]
      exact hreached
    · rw [body, hfield]
  · exact absurd hblank hmarked

/-- Blanks inside the marks do not matter for what is read in front of the field. -/
theorem reaches_padded (h : place.Holds content) {front back : Text}
    (hfront : isBlankText front = true) (hback : isBlankText back = true) {found : List (Text × Text)}
    (hreached : Reaches rawField? (place.field content) place.before found) :
    Reaches rawField? (place.field (front ++ (content ++ back))) place.before found := by
  have hflat {gap : Text} (hgap : isBlankText gap = true) : gap.filter isBrace = [] :=
    List.filter_eq_nil_iff.mpr fun c hc hbrace => by
      rcases of_decide_eq_true hbrace with rfl | rfl
      · exact not_mem_of_isBlankText hgap (by decide) hc
      · exact not_mem_of_isBlankText hgap (by decide) hc
  have halike : Alike (place.field content) (place.field (front ++ (content ++ back))) := by
    apply alike h
    · rw [List.filter_append, List.filter_append, hflat hfront, hflat hback, List.nil_append,
        List.append_nil]
    · have hnone : '"' ∉ front := not_mem_of_isBlankText hfront (by decide)
      have hnone' : '"' ∉ back := not_mem_of_isBlankText hback (by decide)
      simp [hnone, hnone']
  exact hreached.alike fun before _ _ => halike.rawField? (beginsField h) before

theorem Holds.padded (h : place.Holds content) {front back : Text}
    (hfront : isBlankText front = true) (hback : isBlankText back = true) : place.Holds (front ++ (content ++ back)) where
  name_ne_nil := h.name_ne_nil
  word := h.word
  gap := h.gap
  gap' := h.gap'
  encloses := by
    have hencloses := h.encloses
    have hsame {c : Char} (hc : isBlank c = false) (hmem : c ∉ content) :
        c ∉ front ++ (content ++ back) := by
      rw [List.mem_append, List.mem_append, not_or, not_or]
      exact ⟨not_mem_of_isBlankText hfront hc, hmem, not_mem_of_isBlankText hback hc⟩
    cases hquoting : place.quoting with
    | braces =>
        rw [hquoting] at hencloses
        exact ⟨hsame (by decide) hencloses.1, hsame (by decide) hencloses.2⟩
    | marks =>
        rw [hquoting] at hencloses
        exact hsame (by decide) hencloses
    | bare =>
        rw [hquoting] at hencloses
        exact hencloses
  reached := h.reached.imp fun _ => reaches_padded h hfront hback

/-- A field has the value at its place, unless its name comes again behind it. -/
theorem get?_readFields_body (h : place.Holds content) {found : List (Text × Text)}
    (hreached : Reaches rawField? (place.field content) place.before found) (other : Text) :
    (readFields (place.body content)).get? other =
      ((readFields place.behind).get? other).or
        (if other = lower place.name then some (cleanValue (place.quoting.write content))
          else (Assoc.ofList (found.map fun field =>
            (lower field.1, cleanValue field.2))).get? other) := by
  rw [readFields, findAll_body h hreached, List.map_append, List.map_cons, List.append_cons,
    Assoc.get?_ofList_append, Assoc.get?_ofList_append]
  by_cases hname : lower place.name = other
  · simp [Assoc.ofList, Assoc.insert, Assoc.get?, hname, readFields]
  · simp [Assoc.ofList, Assoc.insert, Assoc.get?, hname, Ne.symm hname, readFields]

end FieldPlace

end Bibliography

end PaperHtml

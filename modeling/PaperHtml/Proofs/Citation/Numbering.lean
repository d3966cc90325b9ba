import Mathlib
import PaperHtml.Citation.Resolve
import PaperHtml.Conversion.Pass

/-!
# One numbering everywhere

The cited keys of a body are listed, numbered, looked up and linked by four
functions that know nothing of each other.  This file shows that they agree:
`numbering_agrees` says what the order, the numbers and the references are for
any body and bibliography, and that the links of the text show exactly these
numbers, each for the first time when it is its turn.

## Strategy

Everything is read off `firstPlaces`.  The order has no repetitions, so that
`numbering` keeps its pairs as they are and `resolveFrom` goes along them.  For
the links, `links` is the text that the link pass goes through, with the numbers
it finds; the number of a key is its place in the order, and the keys seen so
far are always a beginning of the order (`number_le_of_split`).
-/

namespace PaperHtml.Citation

open Text

/-! ## The order -/

theorem mem_firstPlaces {seen keys : List Text} {key : Text} :
    key ∈ firstPlaces seen keys ↔ key ∈ keys ∧ key ∉ seen := by
  induction keys generalizing seen with
  | nil => simp [firstPlaces]
  | cons first rest ih =>
      unfold firstPlaces
      split
      · rename_i hfirst
        rw [ih, List.mem_cons]
        constructor
        · exact fun h => ⟨.inr h.1, h.2⟩
        · rintro ⟨rfl | h, hseen⟩
          · exact absurd hfirst hseen
          · exact ⟨h, hseen⟩
      · rename_i hfirst
        rw [List.mem_cons, ih, List.mem_cons, List.mem_cons]
        by_cases heq : key = first
        · subst heq
          simp [hfirst]
        · simp [heq]

theorem nodup_firstPlaces (seen keys : List Text) : (firstPlaces seen keys).Nodup := by
  induction keys generalizing seen with
  | nil => exact List.nodup_nil
  | cons first rest ih =>
      unfold firstPlaces
      split
      · exact ih seen
      · refine List.nodup_cons.mpr ⟨fun h => ?_, ih _⟩
        exact (mem_firstPlaces.mp h).2 (List.mem_cons_self ..)

theorem nodup_order (body : Text) : (order body).Nodup := nodup_firstPlaces [] _

/-- The keys of the citations in a text, in order, as often as they are cited. -/
def cited (t : Text) : List Text := (Scanner.findAll command? t).flatten

theorem mem_order {body key : Text} :
    key ∈ order body ↔ key ∈ cited (Latex.eraseComments body) := by
  rw [order, mem_firstPlaces]
  simp [cited]

theorem of_mem_splitKeys {list key : Text} (h : key ∈ splitKeys list) :
    key ≠ [] ∧ trim key = key ∧ ',' ∉ key := by
  simp only [splitKeys, List.mem_filter, List.mem_map, decide_eq_true_eq] at h
  obtain ⟨⟨part, hpart, rfl⟩, hne⟩ := h
  exact ⟨hne, trim_trim part, fun hcomma =>
    not_mem_of_mem_splitOn hpart (trim_subset part hcomma)⟩

/-- What a citation command is read as is a list of keys split at commas. -/
theorem exists_splitKeys_of_command? {t after : Text} {keys : List Text}
    (h : command? t = some (keys, after)) : ∃ list, keys = splitKeys list := by
  simp only [command?, Option.bind_eq_some_iff, Option.map_eq_some_iff, Prod.mk.injEq] at h
  obtain ⟨rest, -, found, -, rfl, -⟩ := h
  exact ⟨found.1, rfl⟩

theorem of_mem_cited {t key : Text} (h : key ∈ cited t) :
    key ≠ [] ∧ trim key = key ∧ ',' ∉ key := by
  obtain ⟨keys, hkeys, hkey⟩ := List.mem_flatten.mp h
  obtain ⟨front, after, -, hcommand⟩ := Scanner.exists_of_mem_findAll hkeys
  obtain ⟨list, rfl⟩ := exists_splitKeys_of_command? hcommand
  exact of_mem_splitKeys hkey

/-! ## The numbers -/

theorem names_numberFrom (last : Nat) (keys : List Text) :
    Assoc.names (numberFrom last keys) = keys := by
  induction keys generalizing last with
  | nil => rfl
  | cons key rest ih => simpa [Assoc.names, numberFrom] using ih (last + 1)

theorem numbering_eq_of_nodup {keys : List Text} (h : keys.Nodup) :
    numbering keys = numberFrom 0 keys :=
  Assoc.ofList_of_nodup (by rwa [names_numberFrom])

theorem get?_numberFrom {last : Nat} {keys : List Text} {key : Text} (h : key ∈ keys) :
    Assoc.get? key (numberFrom last keys) = some ((last + keys.idxOf key + 1 : Nat) : Int) := by
  induction keys generalizing last with
  | nil => simp at h
  | cons first rest ih =>
      by_cases heq : first = key
      · simp [numberFrom, Assoc.get?, heq]
      · have hrest : key ∈ rest := by
          rcases List.mem_cons.mp h with rfl | h
          · exact absurd rfl heq
          · exact h
        rw [numberFrom, Assoc.get?, if_neg heq, ih hrest, List.idxOf_cons_ne _ heq]
        congr 2
        omega

/-- The number of a cited key is its place in the order. -/
theorem get?_numbering {keys : List Text} (hnodup : keys.Nodup) {key : Text} (h : key ∈ keys) :
    (numbering keys).get? key = some ((keys.idxOf key + 1 : Nat) : Int) := by
  rw [numbering_eq_of_nodup hnodup, get?_numberFrom h, Nat.zero_add]

/-! ## The references -/

/-- What a reference says of a key: it has the key and its number, it is missing exactly if no
entry has the key, and otherwise it is the first entry with the key. -/
structure Refers (entries : List Bibliography.Entry) (key : Text) (number : Int)
    (reference : Reference) : Prop where
  key_eq : reference.key = key
  number_eq : reference.number = number
  missing_iff : reference.missing = true ↔ ∀ entry ∈ entries, entry.key ≠ key
  of_missing : reference.missing = true →
    reference.fields = [("title".toList, key)] ∧ reference.kind = none
  of_first : ∀ before entry after, entries = before ++ entry :: after → entry.key = key →
    (∀ other ∈ before, other.key ≠ key) →
      reference.kind = some entry.kind ∧ reference.fields = entry.fields

theorem find?_eq_some_of_first {before after : List Bibliography.Entry}
    {entry : Bibliography.Entry} {key : Text} (hkey : entry.key = key)
    (hbefore : ∀ other ∈ before, other.key ≠ key) :
    Bibliography.find? key (before ++ entry :: after) = some entry := by
  rw [Bibliography.find?, List.find?_append, List.find?_cons_of_pos (by simpa using hkey),
    List.find?_eq_none.mpr (by simpa using hbefore), Option.none_or]

theorem refers_resolve (entries : List Bibliography.Entry) (number : Int) (key : Text) :
    Refers entries key number (resolve entries number key) := by
  cases hfind : Bibliography.find? key entries with
  | none =>
      have hnone : ∀ entry ∈ entries, entry.key ≠ key := by
        simpa [Bibliography.find?] using hfind
      refine ⟨?_, ?_, ?_, ?_, ?_⟩
      · simp [resolve, hfind]
      · simp [resolve, hfind]
      · simpa [resolve, hfind] using hnone
      · simp [resolve, hfind]
      · rintro before entry after rfl hkey -
        exact absurd hkey (hnone entry (by simp))
  | some found =>
      refine ⟨?_, ?_, ?_, ?_, ?_⟩
      · simp [resolve, hfind]
      · simp [resolve, hfind]
      · have hfound := List.find?_some hfind
        have hmem := List.mem_of_find?_eq_some hfind
        simp only [resolve, hfind, Bool.false_eq_true, false_iff, not_forall, not_not]
        exact ⟨found, hmem, by simpa using hfound⟩
      · simp [resolve, hfind]
      · rintro before entry after rfl hkey hbefore
        rw [find?_eq_some_of_first hkey hbefore] at hfind
        cases hfind
        simp [resolve, find?_eq_some_of_first hkey hbefore]

theorem map_key_resolveFrom (entries : List Bibliography.Entry) (last : Nat) (keys : List Text) :
    (resolveFrom entries last keys).map Reference.key = keys := by
  induction keys generalizing last with
  | nil => rfl
  | cons key rest ih => rw [resolveFrom, List.map_cons, ih, (refers_resolve entries _ key).key_eq]

theorem length_resolveFrom (entries : List Bibliography.Entry) (last : Nat) (keys : List Text) :
    (resolveFrom entries last keys).length = keys.length := by
  induction keys generalizing last with
  | nil => rfl
  | cons key rest ih => simp [resolveFrom, ih]

theorem getElem?_resolveFrom (entries : List Bibliography.Entry) (last : Nat) (keys : List Text)
    (place : Nat) :
    (resolveFrom entries last keys)[place]? =
      keys[place]?.map (resolve entries (last + place + 1 : Nat)) := by
  induction keys generalizing last place with
  | nil => simp [resolveFrom]
  | cons key rest ih =>
      cases place with
      | zero => rfl
      | succ place =>
          rw [resolveFrom, List.getElem?_cons_succ, List.getElem?_cons_succ, ih]
          congr 3
          omega

/-- Every reference is that of a cited key. -/
theorem exists_of_mem_resolveAll {entries : List Bibliography.Entry} {keys : List Text}
    {reference : Reference} (h : reference ∈ resolveAll entries keys) :
    ∃ number, ∃ key ∈ keys, reference = resolve entries number key := by
  obtain ⟨place, hplace⟩ := List.mem_iff_getElem?.mp h
  rw [resolveAll, getElem?_resolveFrom, Option.map_eq_some_iff] at hplace
  obtain ⟨key, hkey, hresolve⟩ := hplace
  exact ⟨_, key, List.mem_of_getElem? hkey, hresolve.symm⟩

/-! ## The links -/

/-- The pieces of a text that the link pass goes through: characters, and the citations of a
command, each with the number that is found for it. -/
def links (numbers : Numbering) (t : Text) : List (Piece (List (Text × Option Int))) :=
  (Scanner.pieces command? t).map fun
    | .plain c => .plain c
    | .hit keys => .hit (keys.map fun key => (key, numbers.get? key))

/-- A piece as the link pass writes it. -/
def writeLinks (style : LinkStyle) : Piece (List (Text × Option Int)) → Text
  | .plain c => [c]
  | .hit citations =>
    join [';', ' '] (citations.map fun found => link style found.1 (slug found.1) found.2)

/-- The citations that the link pass formats, in the order of the text. -/
def formatted (numbers : Numbering) (t : Text) : List (Text × Option Int) :=
  (links numbers t).flatMap fun
    | .plain _ => []
    | .hit citations => citations

/-- The link pass writes the pieces it goes through. -/
theorem linkAll_eq_flatMap (style : LinkStyle) (numbers : Numbering) (t : Text) :
    linkAll style numbers t = (links numbers t).flatMap (writeLinks style) := by
  rw [linkAll, Scanner.substitute, Scanner.pieces_map, links, List.flatMap_map, List.flatMap_map]
  refine List.flatMap_congr fun piece _ => ?_
  cases piece with
  | plain c => rfl
  | hit keys =>
      simp only [writeLinks, linkKeys, List.map_map]
      rfl

theorem formatted_eq_map (numbers : Numbering) (t : Text) :
    formatted numbers t = (cited t).map fun key => (key, numbers.get? key) := by
  rw [formatted, links, cited, Scanner.findAll]
  induction Scanner.pieces command? t with
  | nil => rfl
  | cons piece rest ih => cases piece <;> simp_all

/-- Going through keys, the place of each is at most the number of those found before it. -/
theorem number_le_of_split (seen keys before after : List Text) (key : Text)
    (hkeys : keys = before ++ key :: after) :
    (seen.reverse ++ firstPlaces seen keys).idxOf key + 1 ≤
      (before.map fun k => (seen.reverse ++ firstPlaces seen keys).idxOf k + 1).foldl max
        seen.length + 1 := by
  induction keys generalizing seen before with
  | nil => simp at hkeys
  | cons first rest ih =>
      -- a key that has been seen has a place among those; a new one comes right after them
      have hseen : ∀ k ∈ seen, ∀ others, (seen.reverse ++ others).idxOf k < seen.length := by
        intro k hk others
        rw [List.idxOf_append_of_mem (List.mem_reverse.mpr hk)]
        simpa using List.idxOf_lt_length_of_mem (List.mem_reverse.mpr hk)
      have hnew : first ∉ seen → ∀ others,
          (seen.reverse ++ first :: others).idxOf first = seen.length := by
        intro hfirst others
        rw [List.idxOf_append_of_notMem (by simpa using hfirst)]
        simp
      by_cases hfirst : first ∈ seen
      · have hsame : firstPlaces seen (first :: rest) = firstPlaces seen rest := by
          simp [firstPlaces, hfirst]
        rw [hsame]
        cases before with
        | nil =>
            obtain ⟨rfl, rfl⟩ : first = key ∧ rest = after := by simpa using hkeys
            have := hseen first hfirst (firstPlaces seen rest)
            simp only [List.map_nil, List.foldl_nil]
            omega
        | cons b before =>
            obtain ⟨rfl, hrest⟩ : first = b ∧ rest = before ++ key :: after := by
              simpa using hkeys
            have hmax := hseen first hfirst (firstPlaces seen rest)
            rw [List.map_cons, List.foldl_cons, Nat.max_eq_left (by omega)]
            exact ih seen before hrest
      · have hgrow : seen.reverse ++ firstPlaces seen (first :: rest) =
            (first :: seen).reverse ++ firstPlaces (first :: seen) rest := by
          simp [firstPlaces, hfirst]
        have hplace : ((first :: seen).reverse ++ firstPlaces (first :: seen) rest).idxOf first =
            seen.length := by
          simpa using hnew hfirst (firstPlaces (first :: seen) rest)
        rw [hgrow]
        cases before with
        | nil =>
            obtain ⟨rfl, rfl⟩ : first = key ∧ rest = after := by simpa using hkeys
            rw [hplace]
            simp
        | cons b before =>
            obtain ⟨rfl, hrest⟩ : first = b ∧ rest = before ++ key :: after := by
              simpa using hkeys
            rw [List.map_cons, List.foldl_cons, hplace, Nat.max_eq_right (Nat.le_succ _)]
            exact ih (first :: seen) before hrest

private theorem cast_foldl_max (numbers : List Nat) (largest : Nat) :
    ((numbers.foldl max largest : Nat) : Int) = (numbers.map (↑)).foldl max (largest : Int) := by
  induction numbers generalizing largest with
  | nil => rfl
  | cons n rest ih => rw [List.foldl_cons, ih, List.map_cons, List.foldl_cons, Nat.cast_max]

/-- The numbers that the links of a text show, in its order. -/
def shownNumbers (numbers : Numbering) (t : Text) : List Int :=
  (formatted numbers t).filterMap Prod.snd

theorem shownNumbers_order (body : Text) :
    shownNumbers (numbering (order body)) (Latex.eraseComments body) =
      (cited (Latex.eraseComments body)).map fun key => (((order body).idxOf key + 1 : Nat) : Int) := by
  rw [shownNumbers, formatted_eq_map, List.filterMap_map]
  refine List.filterMap_eq_map_iff_forall_eq_some.mpr fun key hkey => ?_
  exact get?_numbering (nodup_order body) (mem_order.mpr hkey)

/-! ## Agreement -/

/-- The order of a body lists its cited keys without repetition; the numbers are the places in
it; the references go along it, each with the first entry for its key; and the links of the
text, read from left to right, show these numbers only, none before the one below it, and all
of them. -/
theorem numbering_agrees (body : Text) (entries : List Bibliography.Entry) (style : LinkStyle) :
    let keys := order body
    let numbers := numbering keys
    let references := resolveAll entries keys
    let stripped := Latex.eraseComments body
    (keys.Nodup ∧ ∀ key ∈ keys, key ≠ [] ∧ trim key = key ∧ ',' ∉ key) ∧
    (Assoc.names numbers = keys ∧
      ∀ place (h : place < keys.length), numbers.get? keys[place] = some (place + 1)) ∧
    (references.length = keys.length ∧
      ∀ place (h : place < keys.length), ∃ reference, references[place]? = some reference ∧
        Refers entries keys[place] (place + 1) reference) ∧
    Conversion.runPasses ((Conversion.markdownPasses numbers).take 2) body =
      linkAll .markdown numbers stripped ∧
    linkAll style numbers stripped = (links numbers stripped).flatMap (writeLinks style) ∧
    (∀ found ∈ formatted numbers stripped, found.2 ≠ none) ∧
    (∀ before number after, shownNumbers numbers stripped = before ++ number :: after →
      number ≤ before.foldl max 0 + 1) ∧
    ∀ number, number ∈ shownNumbers numbers stripped ↔ 1 ≤ number ∧ number ≤ keys.length := by
  intro keys numbers references stripped
  have hnodup : keys.Nodup := nodup_order body
  have hshown : shownNumbers numbers stripped = _ := shownNumbers_order body
  refine ⟨⟨hnodup, fun key hkey => of_mem_cited (mem_order.mp hkey)⟩, ⟨?_, ?_⟩, ⟨?_, ?_⟩, rfl,
    linkAll_eq_flatMap style numbers stripped, ?_, ?_, ?_⟩
  · exact (congrArg Assoc.names (numbering_eq_of_nodup hnodup)).trans (names_numberFrom 0 keys)
  · intro place h
    rw [get?_numbering hnodup (List.getElem_mem h), hnodup.idxOf_getElem place h]
    simp
  · exact length_resolveFrom entries 0 keys
  · intro place h
    refine ⟨resolve entries (place + 1) keys[place], ?_, refers_resolve _ _ _⟩
    simp [references, resolveAll, getElem?_resolveFrom, h]
  · intro found hfound
    rw [formatted_eq_map] at hfound
    obtain ⟨key, hkey, rfl⟩ := List.mem_map.mp hfound
    simp [numbers, get?_numbering hnodup (mem_order.mpr hkey)]
  · intro before number after hsplit
    rw [hshown] at hsplit
    obtain ⟨first, rest, hcited, rfl, hrest⟩ := List.map_eq_append_iff.mp hsplit
    obtain ⟨key, second, rfl, rfl, -⟩ := List.map_eq_cons_iff.mp hrest
    have hle := number_le_of_split [] _ first second key hcited
    have hmax := cast_foldl_max (first.map fun k => (order body).idxOf k + 1) 0
    rw [List.map_map] at hmax
    calc (((order body).idxOf key + 1 : Nat) : Int)
        ≤ (((first.map fun k => (order body).idxOf k + 1).foldl max 0 + 1 : Nat) : Int) := by
          exact_mod_cast hle
      _ = _ := by
          rw [Nat.cast_add, hmax]
          rfl
  · intro number
    rw [hshown, List.mem_map]
    constructor
    · rintro ⟨key, hkey, rfl⟩
      have := List.idxOf_lt_length_of_mem (mem_order.mpr hkey)
      exact ⟨by omega, by exact_mod_cast this⟩
    · rintro ⟨hlow, hhigh⟩
      obtain ⟨place, rfl⟩ : ∃ place : Nat, number = place + 1 :=
        ⟨(number - 1).toNat, by omega⟩
      have hplace : place < keys.length := by omega
      refine ⟨keys[place], mem_order.mp (List.getElem_mem hplace), ?_⟩
      rw [hnodup.idxOf_getElem place hplace]
      simp

end PaperHtml.Citation

import Mathlib
import PaperHtml.Proofs.Latex.Groups
import PaperHtml.Proofs.Reference.Anchors

/-!
# Slugs name the places of references

A slug is written in three places: in the link of a citation, be it HTML or
LaTeX, and in the identifier of an item of the list of references.  None of them
escapes it.  They need not, since a slug holds none of the characters that mean
something there, and so what is read back is in all three the same slug.

## Strategy

All facts about a slug come from its alphabet.  Lower case does not change a text
over it and no run of other characters is left to be replaced, so the texts over
the alphabet are exactly those that are their own slugs (`slug_eq_self_iff`); that
a slug is its own slug is a case of it.  What lower case makes of characters
outside of ASCII never matters, because whatever is not of the alphabet
afterwards is replaced.
-/

namespace PaperHtml

namespace Citation

open Text

/-! ## The alphabet of slugs -/

/-- The characters that a slug may hold. -/
def slugAlphabet : Text := "abcdefghijklmnopqrstuvwxyz0123456789_-".toList

theorem isSlugChar_cases {c : Char} (h : isSlugChar c = true) :
    (97 ≤ c.toNat ∧ c.toNat ≤ 122) ∨ (48 ≤ c.toNat ∧ c.toNat ≤ 57) ∨ c.toNat = 95 ∨
      c.toNat = 45 := by
  simp only [isSlugChar, Bool.or_eq_true, Bool.and_eq_true, decide_eq_true_eq, beq_iff_eq] at h
  rcases h with ((hletter | hdigit) | rfl) | rfl
  · exact .inl hletter
  · exact .inr (.inl hdigit)
  · exact .inr (.inr (.inl rfl))
  · exact .inr (.inr (.inr rfl))

theorem isSlugChar_iff_mem_alphabet {c : Char} : isSlugChar c = true ↔ c ∈ slugAlphabet := by
  constructor
  · intro h
    have hletters : ∀ place < 26, Char.ofNat (97 + place) ∈ slugAlphabet := by decide +kernel
    have hdigits : ∀ place < 10, Char.ofNat (48 + place) ∈ slugAlphabet := by decide +kernel
    have hothers : Char.ofNat 95 ∈ slugAlphabet ∧ Char.ofNat 45 ∈ slugAlphabet := by
      decide +kernel
    -- a character is found in the alphabet by how far its code is behind that of `a` or `0`
    rw [← Char.ofNat_toNat c]
    rcases isSlugChar_cases h with ⟨hfirst, hlast⟩ | ⟨hfirst, hlast⟩ | hline | hyphen
    · rw [← Nat.add_sub_cancel' hfirst]
      exact hletters _ (by omega)
    · rw [← Nat.add_sub_cancel' hfirst]
      exact hdigits _ (by omega)
    · rw [hline]
      exact hothers.1
    · rw [hyphen]
      exact hothers.2
  · have hall : slugAlphabet.all isSlugChar = true := by decide
    exact List.all_eq_true.mp hall c

theorem mem_alphabet_of_mem_slug {c : Char} {key : Text} (hc : c ∈ slug key) : c ∈ slugAlphabet :=
  isSlugChar_iff_mem_alphabet.mp (isSlugChar_of_mem_slug hc)

/-! ## Texts that are their own slugs -/

/-- Where there is nothing to replace, it does not matter whether a run has begun. -/
theorem slugFrom_of_isSlugChar {t : Text} (h : ∀ c ∈ t, isSlugChar c = true) (inRun : Bool) :
    slugFrom inRun t = t := by
  induction t generalizing inRun with
  | nil => rfl
  | cons c rest ih =>
      obtain ⟨hc, hrest⟩ := List.forall_mem_cons.mp h
      rw [slugFrom, if_pos hc, ih hrest]

/-- The texts over the alphabet, and no others, are their own slugs. -/
theorem slug_eq_self_iff {key : Text} : slug key = key ↔ ∀ c ∈ key, c ∈ slugAlphabet := by
  constructor
  · intro hself c hc
    rw [← hself] at hc
    exact mem_alphabet_of_mem_slug hc
  · intro hkey
    have hslug : ∀ c ∈ key, isSlugChar c = true := fun c hc =>
      isSlugChar_iff_mem_alphabet.mpr (hkey c hc)
    have hlower : lower key = key := by
      refine lowerFrom_of_ascii (fun c hc => ?_) []
      have hcases := isSlugChar_cases (hslug c hc)
      omega
    calc slug key
      _ = slugFrom false key := by rw [slug, hlower]
      _ = key := slugFrom_of_isSlugChar hslug false

theorem slug_slug (key : Text) : slug (slug key) = slug key :=
  slug_eq_self_iff.mpr fun _ hc => mem_alphabet_of_mem_slug hc

/-! ## Slugs in an argument -/

/-- No character of a slug opens or closes an argument or takes another along. -/
theorem balanced_slug (key : Text) : Latex.Balanced (slug key) := by
  refine Latex.balanced_of_plain fun c hc => ?_
  have hslug := isSlugChar_of_mem_slug hc
  refine ⟨?_, ?_, ?_⟩ <;> rintro rfl <;> exact absurd hslug (by decide)

/-- The address in a link for LaTeX is the first argument of its command. -/
theorem commandArgument?_link (key : Text) (number : Int) :
    Latex.commandArgument? "href".toList (link .latex key (slug key) (some number)) =
      some ("#ref-".toList ++ slug key) := by
  have hmark : "#ref-".toList.all (fun c => c ≠ '\\' ∧ c ≠ '{' ∧ c ≠ '}') = true := by decide
  have hfront : Latex.Balanced "#ref-".toList :=
    Latex.balanced_of_plain fun c hc => of_decide_eq_true (List.all_eq_true.mp hmark c hc)
  have hlink : link .latex key (slug key) (some number) =
      '\\' :: "href".toList ++ (braced ("#ref-".toList ++ slug key) ++ braced (mark number)) :=
    List.append_assoc ..
  rw [hlink]
  exact Latex.commandArgument?_braced _ (hfront.append (balanced_slug key)) _

end Citation

namespace Reference

open Text Citation Html

/-! ## The same slug in every place -/

/-- The addresses of the anchors among some nodes, in order. -/
def anchorAddresses (nodes : List Node) : List (Option Text) :=
  ((Node.tagsAmong nodes).filter (Tag.isNamed "a")).map (Tag.attribute? "href")

/-- The HTML of a citation has one anchor, which leads to the place of its reference. -/
theorem anchorAddresses_link (key : Text) (number : Int) :
    anchorAddresses (parsed (link .markdown key (slug key) (some number))) =
      [some ("#ref-".toList ++ slug key)] := by
  have hnamed : Tag.isNamed "a" (linkTag .markdown key) = true := beq_self_eq_true _
  have hlink : parsed (link .markdown key (slug key) (some number)) =
      [linkNode .markdown key number] :=
    parsed_of_parse (parse_linkHtml .markdown key number)
  have htags : Node.tagsAmong [linkNode .markdown key number] = [linkTag .markdown key] := by
    simp [linkNode, Node.tagsAmong_element]
  rw [anchorAddresses, hlink, htags, List.filter_cons_of_pos hnamed, List.filter_nil,
    List.map_singleton, attribute?_href_linkTag]
  rfl

/-- A slug is a text over `a-z`, `0-9`, `_` and `-`.  So it stands for itself in an attribute and
in an argument, and it is its own slug, as all such texts are.  Hence the address that is read from
the link to a reference, in HTML and in LaTeX, and the identifier that is read from its item in the
list are the same slug. -/
theorem slugs_name_places :
    (∀ key : Text,
      (∀ c ∈ slug key, c ∈ slugAlphabet) ∧
      escape (slug key) = slug key ∧
      (∀ rest, Latex.group? (braced (slug key) ++ rest) = some (slug key, rest)) ∧
      slug (slug key) = slug key ∧
      (slug key = key ↔ ∀ c ∈ key, c ∈ slugAlphabet)) ∧
    ∀ references : List Citation.Reference,
      (itemIds (parsed (listing references))).length = references.length ∧
      ∀ (place : Nat) (reference : Citation.Reference), references[place]? = some reference →
        ∀ number : Int,
          anchorAddresses
              (parsed (link .markdown reference.key (slug reference.key) (some number))) =
            [some ("#ref-".toList ++ slug reference.key)] ∧
          Latex.commandArgument? "href".toList
              (link .latex reference.key (slug reference.key) (some number)) =
            some ("#ref-".toList ++ slug reference.key) ∧
          (itemIds (parsed (listing references)))[place]? =
            some (some ("ref-".toList ++ slug reference.key)) := by
  constructor
  · intro key
    exact ⟨fun _ hc => mem_alphabet_of_mem_slug hc, escape_slug key,
      fun _ => Latex.group?_eq_some_iff.mpr ⟨rfl, balanced_slug key⟩, slug_slug key,
      slug_eq_self_iff⟩
  · intro references
    have hitems := itemIds_listing references
    refine ⟨by rw [hitems, List.length_map], fun place reference hplace number => ?_⟩
    have hitem : (itemIds (parsed (listing references)))[place]? =
        some (some ("ref-".toList ++ slug reference.key)) := by
      rw [hitems, List.getElem?_map, hplace, Option.map_some]
    exact ⟨anchorAddresses_link reference.key number, commandArgument?_link reference.key number,
      hitem⟩

/-- A reference whose key has a Kelvin sign, which becomes a letter of ASCII in lower case, and a
capital I with a dot, which becomes two characters. -/
def kelvin : Citation.Reference :=
  { key := "\u212Aelvin, \u0130".toList, number := 2,
    fields := [("title".toList, "<li id=\"ref-x\">".toList)] }

/-- References one of which has a title that looks like an item. -/
def folded : List Citation.Reference :=
  [{ key := "Smith:2020 et al".toList, number := 1, fields := [] }, kelvin]

theorem slugs_name_places_of_folded :
    'k' ∈ slug kelvin.key ∧ 'k' ∈ slugAlphabet ∧ folded[1]? = some kelvin ∧
    anchorAddresses (parsed (link .markdown kelvin.key (slug kelvin.key) (some 2))) =
      [some "#ref-kelvin-i-".toList] ∧
    Latex.commandArgument? "href".toList (link .latex kelvin.key (slug kelvin.key) (some 2)) =
      some "#ref-kelvin-i-".toList ∧
    (itemIds (parsed (listing folded)))[1]? = some (some "ref-kelvin-i-".toList) := by
  have hslug : slug kelvin.key = "kelvin-i-".toList := by decide +kernel
  have hmem : 'k' ∈ slug kelvin.key := by
    rw [hslug]
    decide
  have hkelvin : folded[1]? = some kelvin := rfl
  obtain ⟨halphabet, -⟩ := slugs_name_places.1 kelvin.key
  obtain ⟨hmarkdown, hlatex, hitem⟩ := (slugs_name_places.2 folded).2 1 kelvin hkelvin 2
  have haddress : "#ref-".toList ++ slug kelvin.key = "#ref-kelvin-i-".toList := by
    rw [hslug]
    rfl
  have hid : "ref-".toList ++ slug kelvin.key = "ref-kelvin-i-".toList := by
    rw [hslug]
    rfl
  rw [haddress] at hmarkdown hlatex
  rw [hid] at hitem
  exact ⟨hmem, halphabet _ hmem, hkelvin, hmarkdown, hlatex, hitem⟩

end Reference

end PaperHtml

import Mathlib
import PaperHtml.Proofs.Conversion.Crossing

/-!
# Algorithms as they stand in a paper

The source of an algorithm is what is between two marks.  It is found as a
whole, with what is between its marks, and its statements are the same whether
its labels were taken away before or not.

## Strategy

What is between the marks holds no closing mark, and a closing mark cannot begin
in it and end in the mark behind it, since there a backslash would be in its
middle.  A label that the text in front of it does not reach into is passed over
by every scan of a listing but the one that takes labels away, so labels go one
by one, from the first on (`Labelled`).
-/

namespace PaperHtml.Conversion

open Text Latex

/-! ## Marks -/

/-- The marks of an algorithm: either may carry a star, and the first a note. -/
structure AlgorithmMarks where
  starred : Bool
  note : Option Text
  endStarred : Bool
  note_closed : ∀ text ∈ note, ']' ∉ text

theorem dropEnvironmentName?_mark (command env rest : Text) (starred : Bool) :
    ((dropCommand? command (environmentMark command env starred ++ rest)).bind
      (dropEnvironmentName? env)) = some rest := by
  have hcommand : dropCommand? command (environmentMark command env starred ++ rest) =
      some (braced (if starred then env ++ ['*'] else env) ++ rest) := by
    rw [environmentMark, List.append_assoc, dropCommand?, dropPrefix?_append]
  rw [hcommand, Option.bind_some]
  cases starred
  · have hname : braced env ++ rest = ('{' :: env) ++ ('}' :: rest) := by simp [braced]
    simp only [Bool.false_eq_true, if_false]
    rw [hname, dropEnvironmentName?, dropPrefix?_append]
    rfl
  · have hname : braced (env ++ ['*']) ++ rest = ('{' :: env) ++ ('*' :: '}' :: rest) := by
      simp [braced]
    simp only [if_true]
    rw [hname, dropEnvironmentName?, dropPrefix?_append]
    rfl

/-- What is between the marks of an environment ends at the first closing mark. -/
theorem inside?_mark {env inner : Text} (henv : '\\' ∉ env)
    (h : ∀ starred, ¬ environmentMark "end".toList env starred <:+: inner) (endStarred : Bool)
    (rest : Text) :
    inside? env (inner ++ (environmentMark "end".toList env endStarred ++ rest)) =
      some (inner, rest) := by
  rw [inside?]
  refine breakAt_append ?_ (dropEnvironmentName?_mark ..)
  intro back hback hne
  by_contra hsome
  obtain ⟨after, hafter⟩ := Option.ne_none_iff_exists'.mp hsome
  obtain ⟨mark, hmem, hbegins⟩ := needs_environmentName "end".toList env _ _ hafter
  obtain ⟨starred, rfl⟩ : ∃ starred, mark = environmentMark "end".toList env starred := by
    simp only [environmentMarks, List.mem_cons, List.not_mem_nil, or_false] at hmem
    rcases hmem with rfl | rfl
    · exact ⟨false, rfl⟩
    · exact ⟨true, rfl⟩
  have htail : '\\' ∉ (environmentMark "end".toList env starred).tail := by
    cases starred <;> simp [environmentMark, braced, henv]
  have hinside := prefix_of_prefix_append_cons htail hne hbegins
  exact h starred (hinside.isInfix.trans hback.isInfix)

namespace AlgorithmMarks

variable (marks : AlgorithmMarks)

/-- The note in its brackets, if there is one. -/
def noteSource : Text :=
  match marks.note with
  | none => []
  | some text => '[' :: text ++ [']']

/-- The opening mark with its note. -/
def opening : Text :=
  environmentMark "begin".toList "algorithm".toList marks.starred ++ marks.noteSource

/-- The closing mark. -/
def closing : Text := environmentMark "end".toList "algorithm".toList marks.endStarred

/-- The source of an algorithm. -/
def source (inner : Text) : Text := marks.opening ++ (inner ++ marks.closing)

/-- Whether the marks enclose a text: no mark in it closes the environment, and nothing at its
front is the note of an opening mark that carries none. -/
def Enclose (inner : Text) : Prop :=
  (marks.note = none → inner.head? ≠ some '[') ∧
    ∀ starred, ¬ environmentMark "end".toList "algorithm".toList starred <:+: inner

variable {marks}

private theorem dropNote_noteSource {inner : Text} (h : marks.Enclose inner) (rest : Text) :
    dropNote (marks.noteSource ++ (inner ++ marks.closing ++ rest)) =
      inner ++ marks.closing ++ rest := by
  cases hnote : marks.note with
  | some text =>
      have hsource : marks.noteSource ++ (inner ++ marks.closing ++ rest) =
          '[' :: (text ++ ']' :: (inner ++ marks.closing ++ rest)) := by
        simp [noteSource, hnote]
      have hclosed : ']' ∉ text := marks.note_closed text (by rw [hnote]; rfl)
      rw [hsource, dropNote, note?, cutChar?_append hclosed]
  | none =>
      have hhead := h.1 hnote
      rw [noteSource, hnote, List.nil_append]
      cases inner with
      | nil => rfl
      | cons c inner =>
          have hc : c ≠ '[' := by simpa using hhead
          have hnone : note? (c :: (inner ++ marks.closing ++ rest)) = none := by
            unfold note?
            split
            · rename_i heq
              exact absurd (List.cons.inj heq).1 hc
            · rfl
          rw [List.cons_append, List.cons_append, dropNote, hnone]

private theorem inside?_closing {inner : Text} (h : marks.Enclose inner) (rest : Text) :
    inside? "algorithm".toList (inner ++ marks.closing ++ rest) = some (inner, rest) := by
  rw [List.append_assoc]
  exact inside?_mark (by decide) h.2 _ _

/-- An algorithm is found with what is between its marks. -/
theorem notedEnvironment_source {inner : Text} (h : marks.Enclose inner) (rest : Text) :
    notedEnvironment "algorithm".toList (marks.source inner ++ rest) = some (inner, rest) := by
  have hbegin : dropBegin? "algorithm".toList (marks.source inner ++ rest) =
      some (marks.noteSource ++ (inner ++ marks.closing ++ rest)) := by
    rw [source, opening, List.append_assoc, List.append_assoc]
    exact dropEnvironmentName?_mark ..
  rw [notedEnvironment, hbegin, Option.bind_some, dropNote_noteSource h, inside?_closing h]
  rfl

end AlgorithmMarks

/-! ## Listings -/

/-- The opening mark of a listing, with its line number note. -/
def listingOpening : Reader where
  scan t := (dropListingBegin? t).map fun after => ([], after)
  commands := ["\\begin{algorithmic}".toList]
  needs := ((needs_dropPrefix? "\\begin{algorithmic}".toList).map _).map _

/-- The closing mark of a listing. -/
def listingClosing : Reader := .literal ("\\end".toList ++ braced "algorithmic".toList) []

/-- The caption of a listing. -/
def listingCaption : Reader := .argument "caption".toList fun _ => []

theorem stripListing_eq (t : Text) :
    stripListing t = stripLabels (Scanner.substitute listingCaption.scan
      (Scanner.substitute listingClosing.scan (Scanner.substitute listingOpening.scan t))) := rfl

/-- A listing reads nothing from the text into what follows it. -/
def ListingEnds (t : Text) : Prop :=
  ∀ rest, stripListing (t ++ rest) = stripListing t ++ stripListing rest

theorem ListingEnds.append {t u : Text} (ht : ListingEnds t) (hu : ListingEnds u) :
    ListingEnds (t ++ u) := by
  intro rest
  rw [List.append_assoc, ht, hu, ht, List.append_assoc]

theorem listingEnds_of_prose {t : Text} (ht : '\\' ∉ t) : ListingEnds t := by
  have hpassed (reader : Reader) (hcommands : ∀ command ∈ reader.commands, IsCommand command)
      (u : Text) : Scanner.substitute reader.scan (t ++ u) =
        t ++ Scanner.substitute reader.scan u :=
    Scanner.substitute_append_of_passed fun back hback hne =>
      Reader.scan_eq_none_of_prose hcommands ht hback hne u
  have hkept (u : Text) : stripListing (t ++ u) = t ++ stripListing u := by
    rw [stripListing_eq, hpassed listingOpening (by decide), hpassed listingClosing (by decide),
      hpassed listingCaption (by decide)]
    exact hpassed (.argument "label".toList fun _ => []) (by decide) _
  have hself : stripListing t = t := by
    have hnil : stripListing [] = [] := rfl
    simpa [hnil] using hkept []
  intro rest
  rw [hkept, hself]

/-! ## Captions and labels -/

/-- A command with a plain argument goes where it is looked for. -/
theorem eraseArgument_applied (name : Text) {argument : Text} (hargument : '}' ∉ argument)
    (rest : Text) :
    eraseArgument name (Plain.applied name argument ++ rest) = eraseArgument name rest := by
  have hfound : withArgument name (fun _ => []) (Plain.applied name argument ++ rest) =
      some ([], rest) := by
    have hcommand : dropCommand? name (Plain.applied name argument ++ rest) =
        some (braced argument ++ rest) := by
      rw [Plain.applied, List.append_assoc, dropCommand?, dropPrefix?_append]
    have hclosed : argument? (braced argument ++ rest) = some (argument, rest) := by
      simpa [braced, argument?] using cutChar?_append hargument rest
    rw [withArgument, hcommand, Option.bind_some, hclosed]
    rfl
  exact Scanner.substitute_append_of_some (List.cons_ne_nil _ _) hfound

/-- A scan for a command with another first letter passes it over. -/
theorem substitute_applied {reader : Reader} {c d : Char} {name other : Text}
    (hcommands : reader.commands = ['\\' :: c :: other]) (hc : c ≠ d)
    (hname : '\\' ∉ d :: name) {argument : Text} (hargument : '\\' ∉ argument) (rest : Text) :
    Scanner.substitute reader.scan (Plain.applied (d :: name) argument ++ rest) =
      Plain.applied (d :: name) argument ++ Scanner.substitute reader.scan rest := by
  refine Scanner.substitute_append_of_passed ?_
  intro back hback hne
  by_contra hsome
  obtain ⟨found, hfound⟩ := Option.ne_none_iff_exists'.mp hsome
  obtain ⟨command, hmem, hbegins⟩ := reader.needs _ found hfound
  rw [hcommands] at hmem
  obtain rfl := List.mem_singleton.mp hmem
  rcases List.suffix_cons_iff.mp hback with rfl | hbehind
  · obtain ⟨-, hnext⟩ := List.cons_prefix_cons.mp hbegins
    exact hc (List.cons_prefix_cons.mp hnext).1
  · -- behind the first character there is no backslash
    obtain ⟨first, back, rfl⟩ := List.exists_cons_of_ne_nil hne
    obtain ⟨rfl, -⟩ := List.cons_prefix_cons.mp hbegins
    have hin : '\\' ∈ (d :: name) ++ braced argument := hbehind.subset (List.mem_cons_self ..)
    rcases List.mem_append.mp hin with hin | hin
    · exact hname hin
    · simp [braced, hargument] at hin

theorem listingOpening_commands :
    listingOpening.commands = ['\\' :: 'b' :: "egin{algorithmic}".toList] := rfl

theorem listingClosing_commands :
    listingClosing.commands = ['\\' :: 'e' :: "nd{algorithmic}".toList] := rfl

theorem listingCaption_commands :
    listingCaption.commands = ['\\' :: 'c' :: "aption".toList] := rfl

/-- A listing does without a caption at its front. -/
theorem stripListing_caption {text : Text} (htext : '\\' ∉ text ∧ '}' ∉ text) (rest : Text) :
    stripListing (Plain.applied "caption".toList text ++ rest) = stripListing rest := by
  have hfirst : "caption".toList = 'c' :: "aption".toList := rfl
  have hname : '\\' ∉ 'c' :: "aption".toList := by decide
  rw [hfirst, stripListing_eq,
    substitute_applied listingOpening_commands (by decide) hname htext.1,
    substitute_applied listingClosing_commands (by decide) hname htext.1]
  exact congrArg stripLabels (eraseArgument_applied "caption".toList htext.2 _)

theorem listingEnds_caption {text : Text} (htext : '\\' ∉ text ∧ '}' ∉ text) :
    ListingEnds (Plain.applied "caption".toList text) := by
  have hself : stripListing (Plain.applied "caption".toList text) = stripListing [] := by
    rw [← stripListing_caption htext [], List.append_nil]
  intro rest
  rw [stripListing_caption htext, hself]
  rfl

/-- The source of a label. -/
def labelSource (key : Text) : Text := Plain.applied "label".toList key

/-- A listing does without a label at its front. -/
theorem stripListing_labelSource {key : Text} (hkey : '\\' ∉ key ∧ '}' ∉ key) (rest : Text) :
    stripListing (labelSource key ++ rest) = stripListing rest := by
  have hfirst : "label".toList = 'l' :: "abel".toList := rfl
  have hname : '\\' ∉ 'l' :: "abel".toList := by decide
  rw [labelSource, hfirst, stripListing_eq,
    substitute_applied listingOpening_commands (by decide) hname hkey.1,
    substitute_applied listingClosing_commands (by decide) hname hkey.1,
    substitute_applied listingCaption_commands (by decide) hname hkey.1]
  exact eraseArgument_applied "label".toList hkey.2 _

/-- `Labelled t u`: `u` is `t` without its labels, each of which stands behind a text from which
a listing reads nothing into what follows, and has a key without a command. -/
inductive Labelled : Text → Text → Prop
  | plain {t : Text} (h : ¬ "\\label".toList <:+: t) : Labelled t t
  | label {t key u v : Text} (h : ¬ "\\label".toList <:+: t) (hends : ListingEnds t)
      (hkey : '\\' ∉ key ∧ '}' ∉ key) (hrest : Labelled u v) :
      Labelled (t ++ (labelSource key ++ u)) (t ++ v)

theorem stripLabels_append_of_absent {t : Text} (h : ¬ "\\label".toList <:+: t) (rest : Text) :
    stripLabels (t ++ '\\' :: rest) = t ++ stripLabels ('\\' :: rest) := by
  refine Scanner.substitute_append_of_passed ?_
  intro back hback hne
  by_contra hsome
  obtain ⟨found, hfound⟩ := Option.ne_none_iff_exists'.mp hsome
  obtain ⟨command, hmem, hbegins⟩ :=
    (Reader.argument "label".toList fun _ => []).needs _ found hfound
  obtain rfl := List.mem_singleton.mp hmem
  have htail : '\\' ∉ ('\\' :: "label".toList).tail := by decide
  have hinside := prefix_of_prefix_append_cons htail hne hbegins
  exact h (hinside.isInfix.trans hback.isInfix)

/-- The labels of a text go when the next command stands behind it. -/
theorem Labelled.stripLabels_append {t u : Text} (h : Labelled t u) (rest : Text) :
    stripLabels (t ++ '\\' :: rest) = u ++ stripLabels ('\\' :: rest) := by
  induction h with
  | plain h => exact stripLabels_append_of_absent h rest
  | @label t key u v h _ hkey _ ih =>
      have hlabel : labelSource key ++ (u ++ '\\' :: rest) =
          '\\' :: ("label".toList ++ braced key ++ (u ++ '\\' :: rest)) := rfl
      have hgone : stripLabels (labelSource key ++ (u ++ '\\' :: rest)) =
          stripLabels (u ++ '\\' :: rest) := eraseArgument_applied "label".toList hkey.2 _
      rw [List.append_assoc, List.append_assoc, hlabel, stripLabels_append_of_absent h, ← hlabel,
        hgone, ih, List.append_assoc]

theorem Labelled.stripListing_eq {t u : Text} (h : Labelled t u) :
    stripListing u = stripListing t := by
  induction h with
  | plain => rfl
  | label _ hends hkey _ ih => rw [hends, hends, stripListing_labelSource hkey, ih]

/-- The statements of an algorithm are the same without its labels. -/
theorem Labelled.algorithmLines_eq {t u : Text} (h : Labelled t u) :
    algorithmLines u = algorithmLines t := by
  rw [algorithmLines, algorithmLines, h.stripListing_eq]

/-! ## Statements -/

theorem stripListing_subset (t : Text) : stripListing t ⊆ t := by
  have hargument (name u : Text) : eraseArgument name u ⊆ u := by
    refine Scanner.substitute_subset ?_ u
    intro v out after h
    obtain ⟨rest, -, hout⟩ := Option.bind_eq_some_iff.mp h
    obtain ⟨found, -, hfound⟩ := Option.map_eq_some_iff.mp hout
    exact (Prod.mk.inj hfound).1.symm
  have herase {drop : Text → Option Text} (u : Text) : Scanner.erase drop u ⊆ u := by
    refine Scanner.substitute_subset ?_ u
    intro v out after h
    obtain ⟨rest, -, hout⟩ := Option.map_eq_some_iff.mp h
    exact (Prod.mk.inj hout).1.symm
  calc stripListing t
      ⊆ eraseArgument "caption".toList _ := hargument _ _
    _ ⊆ replaceAll ("\\end".toList ++ braced "algorithmic".toList) [] _ := hargument _ _
    _ ⊆ Scanner.erase dropListingBegin? t := herase _
    _ ⊆ t := herase _

/-- A statement is a line, is not empty, and holds nothing that was not there before. -/
theorem of_mem_algorithmLines {t line : Text} (h : line ∈ algorithmLines t) :
    line ≠ [] ∧ '\n' ∉ line ∧ line ⊆ t := by
  obtain ⟨hline, hne⟩ := List.mem_filter.mp h
  obtain ⟨whole, hwhole, rfl⟩ := List.mem_map.mp hline
  have hdrop : dropOptional '\\' whole ⊆ whole := by
    cases whole with
    | nil => exact List.Subset.refl _
    | cons c whole =>
        rw [dropOptional]
        split
        · exact List.subset_cons_self ..
        · exact List.Subset.refl _
  have hsubset : trim (dropOptional '\\' whole) ⊆ whole :=
    List.Subset.trans (trim_subset _) hdrop
  refine ⟨by simpa using hne, fun hfeed => not_mem_of_mem_splitOn hwhole (hsubset hfeed), ?_⟩
  intro c hc
  exact stripListing_subset t (trim_subset _ (subset_of_mem_splitOn hwhole (hsubset hc)))

end PaperHtml.Conversion

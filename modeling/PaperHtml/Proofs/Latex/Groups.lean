import Mathlib
import PaperHtml.Latex.Group
import PaperHtml.Proofs.Text.Seams

/-!
# What is read as a group

The reader of groups counts the braces that are open and takes the character
behind each backslash along.  What it accepts are exactly the texts of a grammar
that knows nothing of depths or places (`Balanced`): a group is read at a position
if and only if such a text stands there in braces, and it is read as that text.

## Strategy

A text of the grammar is passed over at every depth (`closeGroup?_balanced_append`),
so a closing brace behind it ends the group that is open.  For the converse, the
invariant of the reader is what it still has to read inside `depth + 1` open
groups: texts of the grammar with `depth` closing braces between them (`Closes`).
Every step puts a text of the grammar in front of the first of them
(`Closes.append`) or goes on to the next.
-/

namespace PaperHtml.Latex

open Text

/-! ## Reading on inside open groups -/

theorem closeGroup?_cons {c : Char} (hc : c ≠ '\\' ∧ c ≠ '{' ∧ c ≠ '}') (depth : Nat) (t : Text) :
    closeGroup? depth (c :: t) =
      (closeGroup? depth t).map fun found => (c :: found.1, found.2) := by
  obtain ⟨hbackslash, hopen, hclose⟩ := hc
  rw [closeGroup?] <;> simp_all

/-- A character at which the reader does nothing but go on is none of those that it looks for. -/
private theorem plain_of_cases {depth : Nat} {c : Char} {t : Text} (hlast : c = '\\' → t ≠ [])
    (hpair : ∀ d rest, c = '\\' → t ≠ d :: rest) (hopen : c ≠ '{') (hclose : depth = 0 → c ≠ '}')
    (hinner : ∀ inner, depth = inner + 1 → c ≠ '}') : c ≠ '\\' ∧ c ≠ '{' ∧ c ≠ '}' := by
  refine ⟨fun heq => ?_, hopen, fun heq => ?_⟩
  · cases t with
    | nil => exact hlast heq rfl
    | cons d t => exact hpair d t heq rfl
  · cases depth with
    | zero => exact hclose rfl heq
    | succ depth => exact hinner depth rfl heq

/-- What follows a group does not change what is read as its content. -/
theorem closeGroup?_append {depth : Nat} {t : Text} (h : (closeGroup? depth t).isSome = true)
    (rest : Text) :
    closeGroup? depth (t ++ rest) =
      (closeGroup? depth t).map fun found => (found.1, found.2 ++ rest) := by
  fun_induction closeGroup? depth t with
  | case1 => simp at h
  | case2 => simp at h
  | case5 t => rfl
  | case3 depth c t ih =>
      rw [Option.isSome_map] at h
      simp [closeGroup?, ih h, Function.comp_def]
  | case4 depth t ih =>
      rw [Option.isSome_map] at h
      simp [closeGroup?, ih h, Function.comp_def]
  | case6 depth t ih =>
      rw [Option.isSome_map] at h
      simp [closeGroup?, ih h, Function.comp_def]
  | case7 depth c t hlast hpair hopen hclose hinner ih =>
      rw [Option.isSome_map] at h
      have hc := plain_of_cases hlast hpair hopen hclose hinner
      rw [List.cons_append, closeGroup?_cons hc, ih h, Option.map_map, Option.map_map]
      rfl

/-- A balanced text is read as a whole. -/
theorem group?_braced_append {s : Text} (h : group? (braced s) = some (s, [])) (rest : Text) :
    group? (braced s ++ rest) = some (s, rest) := by
  have hclosed : closeGroup? 0 (s ++ ['}']) = some (s, []) := h
  have hmore := closeGroup?_append (Option.isSome_of_eq_some hclosed) rest
  rw [hclosed] at hmore
  exact hmore

/-- How a content is read inside `depth + 1` open groups, one rule for each step of the reader. -/
inductive Reads (after : Text) : (depth : Nat) → Text → Text → Prop where
  | close : Reads after 0 ('}' :: after) []
  | escaped {depth : Nat} {t content : Text} (c : Char) (hrest : Reads after depth t content) :
      Reads after depth ('\\' :: c :: t) ('\\' :: c :: content)
  | opening {depth : Nat} {t content : Text} (hrest : Reads after (depth + 1) t content) :
      Reads after depth ('{' :: t) ('{' :: content)
  | closing {depth : Nat} {t content : Text} (hrest : Reads after depth t content) :
      Reads after (depth + 1) ('}' :: t) ('}' :: content)
  | plain {depth : Nat} {t content : Text} {c : Char} (hc : c ≠ '\\' ∧ c ≠ '{' ∧ c ≠ '}')
      (hrest : Reads after depth t content) : Reads after depth (c :: t) (c :: content)

theorem reads_of_closeGroup? {depth : Nat} {t content after : Text}
    (h : closeGroup? depth t = some (content, after)) : Reads after depth t content := by
  -- every step but the last puts its characters in front of what is read behind them
  have hstep (step : Text → Text) {found : Option (Text × Text)} {content : Text}
      (h : (found.map fun found => (step found.1, found.2)) = some (content, after)) :
      ∃ rest, found = some (rest, after) ∧ content = step rest := by
    obtain ⟨⟨rest, behind⟩, hfound, heq⟩ := Option.map_eq_some_iff.mp h
    obtain ⟨rfl, rfl⟩ := Prod.mk.inj heq
    exact ⟨rest, hfound, rfl⟩
  fun_induction closeGroup? depth t generalizing content with
  | case1 => cases h
  | case2 => cases h
  | case3 depth c rest ih =>
      obtain ⟨content, hfound, rfl⟩ := hstep ('\\' :: c :: ·) h
      exact .escaped c (ih hfound)
  | case4 depth rest ih =>
      obtain ⟨content, hfound, rfl⟩ := hstep ('{' :: ·) h
      exact .opening (ih hfound)
  | case5 rest =>
      obtain ⟨rfl, rfl⟩ := Prod.mk.inj (Option.some.inj h)
      exact .close
  | case6 depth rest ih =>
      obtain ⟨content, hfound, rfl⟩ := hstep ('}' :: ·) h
      exact .closing (ih hfound)
  | case7 depth c rest hlast hpair hopen hclose hinner ih =>
      obtain ⟨content, hfound, rfl⟩ := hstep (c :: ·) h
      exact .plain (plain_of_cases hlast hpair hopen hclose hinner) (ih hfound)

namespace Reads

variable {depth : Nat} {t content after : Text}

/-- A group is read up to a closing brace. -/
theorem eq_append (h : Reads after depth t content) : t = content ++ '}' :: after := by
  induction h with
  | close => rfl
  | escaped c _ ih => simp [ih]
  | opening _ ih => simp [ih]
  | closing _ ih => simp [ih]
  | plain _ _ ih => simp [ih]

/-- What is read up to the end of an outer group holds the end of the inner one. -/
theorem brace_mem (h : Reads after depth t content) (hdepth : 0 < depth) : '}' ∈ content := by
  induction h with
  | close => exact absurd hdepth (lt_irrefl 0)
  | escaped c _ ih => simp [ih hdepth]
  | opening _ ih => simp [ih (Nat.succ_pos _)]
  | closing => exact List.mem_cons_self ..
  | plain _ _ ih => simp [ih hdepth]

/-- A content that begins with an opening brace goes on with the inner group. -/
theorem brace_mem_of_opening {y : Text} (h : Reads after depth t ('{' :: y)) : '}' ∈ y := by
  cases h with
  | opening hrest => exact hrest.brace_mem (Nat.succ_pos _)
  | plain hc => exact absurd rfl hc.2.1

end Reads

/-- In a group every opening brace that no backslash stands in front of is closed. -/
theorem brace_mem_of_closeGroup? {depth : Nat} {t front y z : Text} {c : Char} (hc : c ≠ '\\')
    (h : closeGroup? depth t = some (front ++ c :: '{' :: y, z)) : '}' ∈ y := by
  have hreads := reads_of_closeGroup? h
  generalize hx : front ++ c :: '{' :: y = content at hreads
  -- behind its first character a content is the content of a shorter text
  have hstep {e : Char} {u x front : Text} {depth : Nat} (hx : front ++ c :: '{' :: y = e :: x)
      (hrest : Reads z depth u x) (ih : ∀ front, front ++ c :: '{' :: y = x → '}' ∈ y) : '}' ∈ y := by
    cases front with
    | nil =>
        obtain rfl := (List.cons.inj hx).2
        exact hrest.brace_mem_of_opening
    | cons b front => exact ih front (List.cons.inj hx).2
  clear h
  induction hreads generalizing front with
  | close => simp at hx
  | escaped d hrest ih =>
      cases front with
      | nil => exact absurd (List.cons.inj hx).1 hc
      | cons b front => exact hstep (List.cons.inj hx).2 hrest fun front hfront => ih hfront
  | opening hrest ih => exact hstep hx hrest fun front hfront => ih hfront
  | closing hrest ih => exact hstep hx hrest fun front hfront => ih hfront
  | plain _ hrest ih => exact hstep hx hrest fun front hfront => ih hfront

/-! ## The grammar of contents -/

/-- A text in which braces are balanced, but for those that a backslash takes along. -/
inductive Balanced : Text → Prop where
  | nil : Balanced []
  | plain {c : Char} {rest : Text} (hc : c ≠ '\\' ∧ c ≠ '{' ∧ c ≠ '}') (hrest : Balanced rest) :
      Balanced (c :: rest)
  | escaped (c : Char) {rest : Text} (hrest : Balanced rest) : Balanced ('\\' :: c :: rest)
  | group {inner rest : Text} (hinner : Balanced inner) (hrest : Balanced rest) :
      Balanced (braced inner ++ rest)

theorem Balanced.append {s t : Text} (hs : Balanced s) (ht : Balanced t) : Balanced (s ++ t) := by
  induction hs with
  | nil => exact ht
  | plain hc _ ih => exact .plain hc ih
  | escaped c _ ih => exact .escaped c ih
  | group hinner _ _ ih =>
      rw [List.append_assoc]
      exact .group hinner ih

/-- A text with neither braces nor backslashes is balanced. -/
theorem balanced_of_plain {s : Text} (h : ∀ c ∈ s, c ≠ '\\' ∧ c ≠ '{' ∧ c ≠ '}') : Balanced s := by
  induction s with
  | nil => exact .nil
  | cons c s ih =>
      obtain ⟨hc, hs⟩ := List.forall_mem_cons.mp h
      exact .plain hc (ih hs)

/-- A balanced text is passed over, however many groups are open. -/
theorem closeGroup?_balanced_append {s : Text} (hs : Balanced s) (depth : Nat) (t : Text) :
    closeGroup? depth (s ++ t) =
      (closeGroup? depth t).map fun found => (s ++ found.1, found.2) := by
  induction hs generalizing depth t with
  | nil => simp
  | plain hc _ ih =>
      rw [List.cons_append, closeGroup?_cons hc, ih, Option.map_map]
      rfl
  | escaped c _ ih =>
      rw [List.cons_append, List.cons_append, closeGroup?, ih, Option.map_map]
      rfl
  | @group inner rest _ _ ihinner ihrest =>
      have hsplit : braced inner ++ rest ++ t = '{' :: (inner ++ '}' :: (rest ++ t)) := by
        simp [braced]
      -- the opening brace makes the depth a successor, which the closing one takes back
      rw [hsplit, closeGroup?, ihinner, closeGroup?, ihrest]
      simp [braced, Function.comp_def]

/-! ## What is read is of the grammar -/

/-- What stands inside `depth + 1` open groups up to the end of the outermost: balanced texts with
`depth` closing braces between them. -/
def Closes : (depth : Nat) → Text → Prop
  | 0, s => Balanced s
  | depth + 1, s => ∃ inner rest, Balanced inner ∧ s = inner ++ '}' :: rest ∧ Closes depth rest

theorem Closes.append {depth : Nat} {s t : Text} (hs : Balanced s) (ht : Closes depth t) :
    Closes depth (s ++ t) := by
  cases depth with
  | zero => exact Balanced.append hs ht
  | succ depth =>
      obtain ⟨inner, rest, hinner, rfl, hrest⟩ := ht
      exact ⟨s ++ inner, rest, hs.append hinner, (List.append_assoc ..).symm, hrest⟩

theorem Reads.closes {depth : Nat} {t content after : Text} (h : Reads after depth t content) :
    Closes depth content := by
  induction h with
  | close => exact Balanced.nil
  | escaped c _ ih => exact Closes.append (.escaped c .nil) ih
  | @opening depth t content _ ih =>
      -- the group that the brace opens ends at the first of the closing braces
      obtain ⟨inner, behind, hinner, hsplit, hbehind⟩ := ih
      have hgroup : '{' :: content = (braced inner ++ []) ++ behind := by simp [braced, hsplit]
      rw [hgroup]
      exact Closes.append (.group hinner .nil) hbehind
  | @closing depth t content _ ih => exact ⟨[], content, .nil, rfl, ih⟩
  | plain hc _ ih => exact Closes.append (.plain hc .nil) ih

/-! ## Groups -/

theorem group?_eq_some_iff {t content after : Text} :
    group? t = some (content, after) ↔ t = braced content ++ after ∧ Balanced content := by
  constructor
  · intro h
    unfold group? at h
    split at h
    · rename_i rest
      have hreads := reads_of_closeGroup? h
      refine ⟨?_, hreads.closes⟩
      rw [hreads.eq_append]
      simp [braced]
    · cases h
  · rintro ⟨rfl, hcontent⟩
    have hsplit : braced content ++ after = '{' :: (content ++ '}' :: after) := by simp [braced]
    rw [hsplit, group?, closeGroup?_balanced_append hcontent, closeGroup?]
    simp

/-- The balanced argument of a command at the front of a text is read as it is. -/
theorem commandArgument?_braced (name : Text) {content : Text} (hcontent : Balanced content)
    (rest : Text) :
    commandArgument? name ('\\' :: name ++ (braced content ++ rest)) = some content := by
  have hopening : argumentOpening? name ('\\' :: name ++ (braced content ++ rest)) =
      some (braced content ++ rest) := by
    rw [argumentOpening?, dropCommand?, dropPrefix?_append]
    rfl
  have hfind : Scanner.find? (fun t => (argumentOpening? name t).map fun found => (found, found))
      ('\\' :: name ++ (braced content ++ rest)) = some (braced content ++ rest) :=
    Scanner.find?_of_some (List.cons_ne_nil _ _)
      (congrArg (Option.map fun found => (found, found)) hopening)
  have hgroup : group? (braced content ++ rest) = some (content, rest) :=
    group?_eq_some_iff.mpr ⟨rfl, hcontent⟩
  rw [commandArgument?, hfind, Option.bind_some, hgroup, Option.map_some]

/-- A balanced text in braces stands in a text, from one position up to another. -/
structure GroupAt (t : Text) (start : Nat) (content : Text) (stop : Int) : Prop where
  balanced : Balanced content
  stands : ∃ front after, t = front ++ (braced content ++ after) ∧ front.length = start ∧
    stop = ((front ++ braced content).length : Int)

/-- From a position in the text on, the group is read that stands at the front of the rest. -/
theorem groupAt?_natCast (t : Text) (start : Nat) :
    groupAt? t start =
      .ok ((group? (t.drop start)).map fun found =>
        (found.1, (start : Int) + 1 + found.1.length + 1)) := by
  have hinside : ¬ (start : Int) + t.length < 0 := by omega
  have hfront : ¬ (start : Int) < 0 := by omega
  unfold groupAt?
  rw [if_neg hinside]
  simp only [if_neg hfront, Int.toNat_natCast]

theorem groupAt?_eq_some_iff {t content : Text} {start : Nat} {stop : Int} :
    groupAt? t start = .ok (some (content, stop)) ↔ GroupAt t start content stop := by
  rw [groupAt?_natCast, Except.ok.injEq, Option.map_eq_some_iff]
  constructor
  · rintro ⟨⟨content, after⟩, hgroup, heq⟩
    obtain ⟨rfl, rfl⟩ := Prod.mk.inj heq
    obtain ⟨hdrop, hcontent⟩ := group?_eq_some_iff.mp hgroup
    have hlength : start ≤ t.length := by
      by_contra hbehind
      rw [List.drop_eq_nil_of_le (by omega)] at hdrop
      cases hdrop
    refine ⟨hcontent, t.take start, after, ?_, ?_, ?_⟩
    · rw [← hdrop, List.take_append_drop]
    · rw [List.length_take, Nat.min_eq_left hlength]
    · simp only [List.length_append, List.length_take, braced, List.length_cons, List.length_nil,
        Nat.min_eq_left hlength]
      omega
  · rintro ⟨hcontent, front, after, rfl, rfl, rfl⟩
    refine ⟨(content, after), ?_, ?_⟩
    · rw [List.drop_left, group?_eq_some_iff]
      exact ⟨rfl, hcontent⟩
    · simp only [List.length_append, braced, List.length_cons, List.length_nil, Prod.mk.injEq,
        true_and]
      omega

/-- At a position a group is read exactly if a balanced text stands there in braces; there is one
such text at most, and where there is none nothing is read. -/
theorem groupAt?_reads_balanced (t : Text) (start : Nat) :
    (∀ content stop,
      groupAt? t start = .ok (some (content, stop)) ↔ GroupAt t start content stop) ∧
    (∀ content stop content' stop', GroupAt t start content stop → GroupAt t start content' stop' →
      content = content' ∧ stop = stop') ∧
    (groupAt? t start = .ok none ↔ ¬ ∃ content stop, GroupAt t start content stop) := by
  refine ⟨fun content stop => groupAt?_eq_some_iff, ?_, ?_⟩
  · intro content stop content' stop' h h'
    rw [← groupAt?_eq_some_iff] at h h'
    rw [h] at h'
    simpa using h'
  · constructor
    · rintro hnone ⟨content, stop, h⟩
      rw [← groupAt?_eq_some_iff, hnone] at h
      simp at h
    · intro hnone
      rw [groupAt?_natCast]
      cases hgroup : group? (t.drop start) with
      | none => rfl
      | some found =>
          have hread := groupAt?_natCast t start
          rw [hgroup] at hread
          exact absurd ⟨_, _, groupAt?_eq_some_iff.mp hread⟩ hnone

end PaperHtml.Latex

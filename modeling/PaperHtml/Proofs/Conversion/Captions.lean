import PaperHtml.Proofs.Citation.Document
import PaperHtml.Proofs.Conversion.BlockDocuments

/-!
# Figures by their captions

In a document of figures (`FigureDocument`) each figure is shown by the whole
caption with which it is written and, in Markdown, by the path of its first
picture; the texts around the figures stay as they are.

## Strategy

Three readers have to agree.  The environment ends at the first closing mark,
and the body holds none (`CaptionedFigure.scan_source`).  The caption is found at
the first place of its command, where its argument opens behind a star and a
short form, and a balanced text is read as a whole whatever stands behind it
(`caption?_append`).  The picture is looked for in the same source, so it is the
first one of the body with the closing mark behind it (`picture?_eq_some_iff`);
it is the first one of the body alone unless a picture is left open there, since
the closing mark holds no character in which the opening of a picture ends
(`PicturesClosed.exists_rest`).
-/

namespace PaperHtml.Conversion

open Text Latex Conversion.Markdown

/-! ## Notes -/

/-- A note in its brackets, if there is one. -/
def optionalNote : Option Text → Text
  | none => []
  | some note => Citation.bracketed note

theorem dropNote_optionalNote {note : Option Text} (h : ∀ text ∈ note, ']' ∉ text) (rest : Text) :
    dropNote (optionalNote note ++ '{' :: rest) = '{' :: rest := by
  cases note with
  | none => rfl
  | some text => exact Citation.dropNote_bracketed (h text rfl) _

/-- A text begins with the note that is dropped from it. -/
theorem exists_note (t : Text) : ∃ note : Option Text, (∀ text ∈ note, ']' ∉ text) ∧
    t = optionalNote note ++ dropNote t := by
  cases hnote : note? t with
  | none => exact ⟨none, by simp, by rw [dropNote, hnote]; rfl⟩
  | some found =>
      obtain ⟨text, rest⟩ := found
      have hdrop : dropNote t = rest := by rw [dropNote, hnote]
      unfold note? at hnote
      split at hnote
      · obtain ⟨rfl, hclosed⟩ := cutChar?_eq_some hnote
        refine ⟨some text, fun other hother => Option.mem_some.mp hother ▸ hclosed, ?_⟩
        rw [hdrop]
        simp [optionalNote, Citation.bracketed]
      · exact absurd hnote.symm (Option.some_ne_none _)

theorem withNotedArgument_eq_some_iff {name t out rest : Text} {render : Text → Text} :
    withNotedArgument name render t = some (out, rest) ↔
      ∃ note argument, (∀ text ∈ note, ']' ∉ text) ∧ '}' ∉ argument ∧
        t = '\\' :: name ++ (optionalNote note ++ '{' :: (argument ++ '}' :: rest)) ∧
        out = render argument := by
  simp only [withNotedArgument, dropCommand?, Option.bind_eq_some_iff, Option.map_eq_some_iff,
    dropPrefix?_eq_some_iff]
  constructor
  · rintro ⟨behind, rfl, ⟨argument, after⟩, hargument, heq⟩
    obtain ⟨rfl, rfl⟩ := Prod.mk.inj heq
    obtain ⟨hclosed, hbehind⟩ := argument?_eq_some_iff.mp hargument
    obtain ⟨note, hnote, hsplit⟩ := exists_note behind
    exact ⟨note, argument, hnote, hclosed, by rw [← hbehind, ← hsplit], rfl⟩
  · rintro ⟨note, argument, hnote, hclosed, rfl, rfl⟩
    refine ⟨_, rfl, (argument, rest), ?_, rfl⟩
    rw [dropNote_optionalNote hnote]
    exact argument?_eq_some_iff.mpr ⟨hclosed, rfl⟩

/-! ## Pictures -/

/-- The command of a picture as it is written: it may carry a note. -/
structure PictureCommand where
  note : Option Text
  path : Text
  note_closed : ∀ text ∈ note, ']' ∉ text
  path_closed : '}' ∉ path

/-- The command of a picture up to its path. -/
def pictureOpening (note : Option Text) : Text :=
  '\\' :: "includegraphics".toList ++ (optionalNote note ++ ['{'])

def PictureCommand.source (command : PictureCommand) : Text :=
  pictureOpening command.note ++ (command.path ++ ['}'])

/-- The path of the first picture of a text: no command of a picture begins further in front. -/
def FirstPicture (t path : Text) : Prop :=
  ∃ front rest, ∃ command : PictureCommand,
    t = front ++ (command.source ++ rest) ∧ command.path = path ∧
      ∀ front' rest', ∀ other : PictureCommand, t = front' ++ (other.source ++ rest') →
        front.length ≤ front'.length

/-- The scan for pictures. -/
def pictureScan : Scanner Text := withNotedArgument "includegraphics".toList id

theorem pictureScan_eq_some_iff {t path rest : Text} :
    pictureScan t = some (path, rest) ↔
      ∃ command : PictureCommand, t = command.source ++ rest ∧ command.path = path := by
  rw [pictureScan, withNotedArgument_eq_some_iff]
  constructor
  · rintro ⟨note, argument, hnote, hclosed, rfl, hpath⟩
    refine ⟨⟨note, argument, hnote, hclosed⟩, ?_, hpath.symm⟩
    simp only [PictureCommand.source, pictureOpening, List.append_assoc, List.cons_append,
      List.nil_append]
  · rintro ⟨command, rfl, rfl⟩
    refine ⟨command.note, command.path, command.note_closed, command.path_closed, ?_, rfl⟩
    simp only [PictureCommand.source, pictureOpening, List.append_assoc, List.cons_append,
      List.nil_append]

/-- The picture that is looked for is the first one. -/
theorem picture?_eq_some_iff {t path : Text} : picture? t = some path ↔ FirstPicture t path := by
  have hpicture : picture? t = Scanner.find? pictureScan t := rfl
  rw [hpicture]
  constructor
  · intro h
    obtain ⟨front, place, rest, rfl, hpassed, hfound⟩ := Scanner.exists_of_find? h
    obtain ⟨command, rfl, hpath⟩ := pictureScan_eq_some_iff.mp hfound
    refine ⟨front, rest, command, rfl, hpath, fun front' rest' other hother => ?_⟩
    by_contra hlt
    rw [Nat.not_le] at hlt
    -- the other command would have been found first
    obtain ⟨back, rfl, hback⟩ : ∃ back, front = front' ++ back ∧
        back ++ (command.source ++ rest) = other.source ++ rest' := by
      rcases List.append_eq_append_iff.mp hother with ⟨back, rfl, -⟩ | ⟨back, rfl, hback⟩
      · simp at hlt
      · exact ⟨back, rfl, hback.symm⟩
    have hne : back ≠ [] := by
      rintro rfl
      simp at hlt
    have hnone := hpassed back (List.suffix_append _ _) hne
    rw [hback, pictureScan_eq_some_iff.mpr ⟨other, rfl, rfl⟩] at hnone
    exact Option.some_ne_none _ hnone
  · rintro ⟨front, rest, command, rfl, rfl, hfirst⟩
    have hpassed : pictureScan.GoesBy front (command.source ++ rest) := by
      intro back hback hne
      rw [Option.eq_none_iff_forall_ne_some]
      rintro ⟨path, rest'⟩ hfound
      obtain ⟨other, hother, -⟩ := pictureScan_eq_some_iff.mp hfound
      obtain ⟨front', rfl⟩ := hback
      have hle := hfirst front' rest' other (by rw [← hother, List.append_assoc])
      have hpos := List.length_pos_of_ne_nil hne
      rw [List.length_append] at hle
      omega
    have hfound : pictureScan (command.source ++ rest) = some (command.path, rest) :=
      pictureScan_eq_some_iff.mpr ⟨command, rfl, rfl⟩
    have hne : command.source ++ rest ≠ [] := List.cons_ne_nil _ _
    rw [Scanner.find?_append_of_passed hpassed, Scanner.find?_of_some hne hfound]

/-- No command of a picture is left open at the end of a text. -/
def PicturesClosed (t : Text) : Prop :=
  ∀ front note rest, (∀ text ∈ note, ']' ∉ text) → t = front ++ (pictureOpening note ++ rest) →
    '}' ∈ rest

/-- The mark that closes a figure. -/
def figureEnd (starred : Bool) : Text := environmentMark "end".toList "figure".toList starred

/-- The opening of a picture ends, but for the brace, in a character that the closing mark of a
figure does not hold. -/
theorem exists_pictureOpening_eq (note : Option Text) (starred : Bool) :
    ∃ front c, pictureOpening note = (front ++ [c]) ++ ['{'] ∧ c ∉ figureEnd starred := by
  have hend : ∀ starred, 's' ∉ figureEnd starred ∧ ']' ∉ figureEnd starred := by decide
  cases note with
  | none => exact ⟨"\\includegraphic".toList, 's', rfl, (hend starred).1⟩
  | some text =>
      refine ⟨"\\includegraphics[".toList ++ text, ']', ?_, (hend starred).2⟩
      have hname : "\\includegraphics[".toList = '\\' :: "includegraphics".toList ++ ['['] := rfl
      rw [hname]
      simp only [pictureOpening, optionalNote, Citation.bracketed, List.append_assoc,
        List.cons_append, List.nil_append]

theorem figureEnd_ne_append (starred : Bool) (front : Text) (command : PictureCommand)
    (rest : Text) : figureEnd starred ≠ front ++ (command.source ++ rest) := by
  obtain ⟨letters, hletters, hbackslash⟩ :
      ∃ letters, figureEnd starred = '\\' :: 'e' :: letters ∧ '\\' ∉ 'e' :: letters := by
    cases starred
    · exact ⟨"nd{figure}".toList, by decide⟩
    · exact ⟨"nd{figure*}".toList, by decide⟩
  obtain ⟨behind, hbehind⟩ : ∃ behind, command.source ++ rest = '\\' :: 'i' :: behind :=
    ⟨_, rfl⟩
  rw [hletters, hbehind]
  intro heq
  cases front with
  | nil => simp at heq
  | cons c front =>
      rw [(List.cons.inj heq).2] at hbackslash
      exact hbackslash (by simp)

/-- A picture that begins in front of the closing mark ends there, too, if none is left open. -/
theorem PicturesClosed.exists_rest {body : Text} (h : PicturesClosed body) {starred : Bool}
    {front rest : Text} {command : PictureCommand}
    (heq : body ++ figureEnd starred = front ++ (command.source ++ rest)) :
    ∃ rest', body = front ++ (command.source ++ rest') := by
  -- the command begins in the body, and its opening ends there
  obtain ⟨back, rfl, hback⟩ : ∃ back, body = front ++ back ∧
      command.source ++ rest = back ++ figureEnd starred := by
    rcases List.append_eq_append_iff.mp heq with ⟨back, -, hback⟩ | hbody
    · exact absurd hback (figureEnd_ne_append starred back command rest)
    · exact hbody
  obtain ⟨opening, c, hopening, hc⟩ := exists_pictureOpening_eq command.note starred
  rw [PictureCommand.source, hopening, List.append_assoc, List.append_assoc] at hback
  obtain ⟨inner, rfl⟩ := prefix_of_prefix_append_foreign hc ⟨_, hback⟩
  rw [List.append_assoc (opening ++ [c]), List.append_cancel_left_eq] at hback
  cases inner with
  | nil => exact absurd (List.cons.inj hback).1 (by decide)
  | cons d inner =>
      obtain ⟨rfl, hinner⟩ := List.cons.inj hback
      -- so does its path
      have hclosed : '}' ∈ inner := by
        refine h front command.note inner command.note_closed ?_
        rw [hopening]
        simp
      obtain ⟨path, rest', rfl, hpath⟩ := List.eq_append_cons_of_mem hclosed
      have hcut : cutChar? '}' (command.path ++ '}' :: rest) = some (command.path, rest) :=
        cutChar?_append command.path_closed rest
      have hsame : command.path ++ '}' :: rest = path ++ '}' :: (rest' ++ figureEnd starred) := by
        simpa using hinner
      rw [hsame, cutChar?_append hpath] at hcut
      obtain ⟨rfl, -⟩ := Prod.mk.inj (Option.some.inj hcut)
      refine ⟨rest', ?_⟩
      rw [PictureCommand.source, hopening]
      simp

/-- In a text that leaves none open the first picture is the same with a closing mark behind it. -/
theorem PicturesClosed.firstPicture_append_iff {body : Text} (h : PicturesClosed body)
    {starred : Bool} {path : Text} :
    FirstPicture (body ++ figureEnd starred) path ↔ FirstPicture body path := by
  constructor
  · rintro ⟨front, rest, command, heq, hpath, hfirst⟩
    obtain ⟨rest', rfl⟩ := h.exists_rest heq
    refine ⟨front, rest', command, rfl, hpath, fun front' rest'' other hother => ?_⟩
    exact hfirst front' (rest'' ++ figureEnd starred) other (by simp [hother])
  · rintro ⟨front, rest, command, heq, hpath, hfirst⟩
    refine ⟨front, rest ++ figureEnd starred, command, by simp [heq], hpath,
      fun front' rest' other hother => ?_⟩
    obtain ⟨rest'', hbody⟩ := h.exists_rest hother
    exact hfirst front' rest'' other hbody

/-! ## Captions -/

/-- The command of a caption as it is written: it may carry a star and a short form, and its
argument is a balanced text. -/
structure CaptionCommand where
  starred : Bool
  short : Option Text
  text : Text
  short_closed : ∀ note ∈ short, ']' ∉ note
  text_ne_nil : text ≠ []
  balanced : group? (braced text) = some (text, [])

def CaptionCommand.source (command : CaptionCommand) : Text :=
  '\\' :: "caption".toList ++
    ((if command.starred then ['*'] else []) ++ (optionalNote command.short ++ braced command.text))

theorem argumentOpening?_caption (command : CaptionCommand) (rest : Text) :
    argumentOpening? "caption".toList (command.source ++ rest) =
      some (braced command.text ++ rest) := by
  have hcommand : dropCommand? "caption".toList (command.source ++ rest) =
      some ((if command.starred then ['*'] else []) ++
        (optionalNote command.short ++ (braced command.text ++ rest))) := by
    rw [CaptionCommand.source, List.append_assoc, dropCommand?, dropPrefix?_append,
      List.append_assoc, List.append_assoc]
  have hstar : dropStar ((if command.starred then ['*'] else []) ++
      (optionalNote command.short ++ (braced command.text ++ rest))) =
        optionalNote command.short ++ (braced command.text ++ rest) := by
    cases command.starred <;> cases command.short <;> rfl
  have hnote : dropNote (optionalNote command.short ++ (braced command.text ++ rest)) =
      braced command.text ++ rest := dropNote_optionalNote command.short_closed _
  rw [argumentOpening?, hcommand, Option.bind_some, hstar, hnote]
  rfl

/-- The scan for captions. -/
def captionReader : Reader where
  scan u := (argumentOpening? "caption".toList u).map fun rest => (rest, rest)
  commands := ["\\caption".toList]
  needs := ((needs_dropCommand? "caption".toList).bind _).map _

/-- The first caption is read with all of its argument. -/
theorem caption?_append {front : Text} (hfront : ¬ "\\caption".toList <:+: front)
    (command : CaptionCommand) (rest : Text) :
    caption? (front ++ (command.source ++ rest)) = some command.text := by
  have hfree : FreeOf captionReader.commands front := List.forall_mem_singleton.mpr hfront
  have hpassed : captionReader.scan.GoesBy front (command.source ++ rest) :=
    ArgumentReader.goesBy_cons hfree (by decide) _
  have hfound : captionReader.scan (command.source ++ rest) =
      some (braced command.text ++ rest, braced command.text ++ rest) := by
    exact congrArg (Option.map fun rest => (rest, rest)) (argumentOpening?_caption command rest)
  have hargument : commandArgument? "caption".toList (front ++ (command.source ++ rest)) =
      some command.text := by
    have hfind : Scanner.find? captionReader.scan (front ++ (command.source ++ rest)) =
        some (braced command.text ++ rest) := by
      rw [Scanner.find?_append_of_passed hpassed]
      exact Scanner.find?_of_some (List.cons_ne_nil _ _) hfound
    have hgroup := group?_braced_append command.balanced rest
    rw [commandArgument?]
    exact (congrArg (Option.bind · fun opening => (group? opening).map Prod.fst) hfind).trans
      (by rw [Option.bind_some, hgroup]; rfl)
  rw [caption?, hargument]
  simp [command.text_ne_nil]

/-! ## Documents of figures -/

/-- A figure as it is written, with a caption in front of which no other one begins. -/
structure CaptionedFigure where
  starred : Bool
  endStarred : Bool
  before : Text
  caption : CaptionCommand
  after : Text
  caption_first : ¬ "\\caption".toList <:+: before
  not_closed : ¬ "\\end\x7bfigure".toList <:+: before ++ (caption.source ++ after)

namespace CaptionedFigure

variable (figure : CaptionedFigure)

/-- What stands between the marks. -/
def body : Text := figure.before ++ (figure.caption.source ++ figure.after)

/-- The figure by its marks and its body. -/
def written : WrittenFigure := ⟨figure.starred, figure.body, figure.endStarred⟩

def source : Text := figure.written.source

/-- The quotation for a figure with its path, if it has one. -/
def quotation (path : Option Text) : Text :=
  "> ".toList ++ (figure.caption.text ++
    ((path.elim [] fun path => " — ".toList ++ path) ++ ['\n']))

/-- The quotation for a figure without a path. -/
def quoted : Text :=
  "\\begin{quote}".toList ++ (figure.caption.text ++ "\\end{quote}".toList)

theorem inEnvironment_quote : Plain.inEnvironment "quote".toList figure.caption.text =
    figure.quoted := by
  have hbegin : "\\begin{quote}".toList = "\\begin".toList ++ braced "quote".toList := by decide
  have hend : "\\end{quote}".toList = "\\end".toList ++ braced "quote".toList := by decide
  unfold Plain.inEnvironment quoted
  rw [hbegin, hend]
  simp only [List.append_assoc]

theorem source_eq : figure.source = environmentMark "begin".toList "figure".toList figure.starred ++
    (figure.body ++ figureEnd figure.endStarred) := rfl

theorem caption?_source : caption? figure.source = some figure.caption.text := by
  have hmark : ∀ starred, IsMark (environmentMark "begin".toList "figure".toList starred) ∧
      ∀ mark ∈ captionReader.commands, IsMark mark ∧
        ¬ mark <+: environmentMark "begin".toList "figure".toList starred ∧
        ¬ environmentMark "begin".toList "figure".toList starred <+: mark := by decide
  obtain ⟨hopening, hapart⟩ := hmark figure.starred
  have hfront : FreeOf captionReader.commands
      (environmentMark "begin".toList "figure".toList figure.starred ++ figure.before) :=
    FreeOf.command_append (fun mark hmem => (hapart mark hmem).1) hopening
      (fun mark hmem => (hapart mark hmem).2) (List.forall_mem_singleton.mpr figure.caption_first)
  rw [source_eq, body, List.append_assoc, List.append_assoc, ← List.append_assoc]
  exact caption?_append (hfront _ (List.mem_singleton_self _)) figure.caption _

/-- No picture begins in the opening mark. -/
theorem picture?_source :
    picture? figure.source = picture? (figure.body ++ figureEnd figure.endStarred) := by
  have hapart : ∀ starred, IsMark (environmentMark "begin".toList "figure".toList starred) ∧
      (Reader.notedArgument "includegraphics".toList id).Apart
        (environmentMark "begin".toList "figure".toList starred) := by decide
  obtain ⟨hopening, hreader⟩ := hapart figure.starred
  have hpassed := hreader.goesBy hopening (t := []) List.not_mem_nil
    (figure.body ++ figureEnd figure.endStarred)
  rw [List.append_nil] at hpassed
  rw [source_eq]
  exact Scanner.find?_append_of_passed hpassed

theorem figureQuote_source : figureQuote figure.source =
    figure.quotation (picture? (figure.body ++ figureEnd figure.endStarred)) := by
  rw [figureQuote, figure.caption?_source, figure.picture?_source, quotation]
  cases picture? (figure.body ++ figureEnd figure.endStarred) with
  | none => simp [join]
  | some path => simp [join, List.intercalate_cons_cons]

end CaptionedFigure

/-- A text in which no figure begins or ends. -/
def FigureFree (t : Text) : Prop :=
  ¬ "\\begin\x7bfigure".toList <:+: t ∧ ¬ "\\end\x7bfigure".toList <:+: t

theorem figureFree_nil : FigureFree [] := ⟨by decide, by decide⟩

/-- A document by its figures and the texts around them. -/
structure FigureDocument where
  opening : Text
  parts : List (CaptionedFigure × Text)
  opening_free : FigureFree opening
  parts_free : ∀ part ∈ parts, FigureFree part.2

namespace FigureDocument

/-- The document with its figures shown in some way. -/
def shown (doc : FigureDocument) (render : CaptionedFigure → Text) : Text :=
  doc.opening ++ doc.parts.flatMap fun part => render part.1 ++ part.2

def source (doc : FigureDocument) : Text := doc.shown CaptionedFigure.source

end FigureDocument

/-- No figure begins in a text between figures. -/
theorem FigureFree.goesBy {t : Text} (h : FigureFree t) (render : Text → Text) {rest : Text}
    (hrest : AtMark rest) : (Reader.figure render).scan.GoesBy t rest := by
  have hfree : FreeOf (Reader.figure render).commands t := by
    intro mark hmark hinside
    have hbegins : "\\begin\x7bfigure".toList <+: mark := by
      have hmarks : ∀ mark ∈ environmentMarks "begin".toList "figure".toList,
          "\\begin\x7bfigure".toList <+: mark := by decide
      exact hmarks mark hmark
    exact h.1 (hbegins.isInfix.trans hinside)
  cases rest with
  | nil => exact ArgumentReader.goesBy_of_freeOf hfree
  | cons c rest =>
      have hforeign : ∀ mark ∈ environmentMarks "begin".toList "figure".toList, c ∉ mark.tail := by
        have hc := hrest c rfl
        simp only [markChars, List.mem_cons, List.not_mem_nil, or_false] at hc
        rcases hc with rfl | rfl | rfl | rfl <;> decide
      exact ArgumentReader.goesBy_cons hfree hforeign rest

theorem CaptionedFigure.atMark_source (figure : CaptionedFigure) (behind : Text) :
    AtMark (figure.source ++ behind) := by
  obtain ⟨t, ht⟩ := figure.written.exists_enclose_eq figure.body
  have hsource : figure.source = '\\' :: t ++ ['}'] := ht
  simp [hsource, AtMark, markChars]

/-- The scan for figures finds a captioned figure as a whole. -/
theorem CaptionedFigure.scan_source (figure : CaptionedFigure) (render : Text → Text)
    (rest : Text) :
    (Reader.figure render).scan (figure.source ++ rest) = some (render figure.source, rest) := by
  refine figure.written.scan_enclose (fun starred hinside => figure.not_closed ?_) render rest
  have hends : ∀ starred, "\\end\x7bfigure".toList <+:
      environmentMark "end".toList "figure".toList starred := by decide
  exact (hends starred).isInfix.trans hinside

/-- Figures are rendered one by one, and nothing else is changed. -/
theorem renderFigures_source (render : Text → Text) (doc : FigureDocument) :
    renderFigures render doc.source = doc.shown fun figure => render figure.source := by
  have hturns : ∀ part ∈ doc.parts, (Step.every (.figure render)).Turns
      (part.1.source ++ part.2) (render part.1.source ++ part.2) := by
    intro part hpart rest hrest
    have hfound : Scanner.substitute (Reader.figure render).scan
        (part.1.source ++ (part.2 ++ rest)) = render part.1.source ++
          Scanner.substitute (Reader.figure render).scan (part.2 ++ rest) :=
      Scanner.substitute_append_of_some (part.1.written.enclose_ne_nil _)
        (part.1.scan_source render _)
    have hpassed := (doc.parts_free part hpart).goesBy render hrest
    rw [Step.run, List.append_assoc, hfound, Scanner.substitute_append_of_passed hpassed,
      List.append_assoc]
  have hmark : ∀ part ∈ doc.parts, AtMark (part.1.source ++ part.2) :=
    fun part _ => part.1.atMark_source part.2
  have hpassed := doc.opening_free.goesBy render (atMark_flatMap hmark)
  rw [FigureDocument.source, FigureDocument.shown, FigureDocument.shown,
    ← Step.run_flatMap hturns hmark]
  exact Scanner.substitute_append_of_passed hpassed

/-- Each figure is shown by its whole caption, however braces are nested and escaped in it, and in
Markdown by the path of its first picture, too; the texts around figures stay as they are.  Where a
picture is left open at the end of a body, its path is read on into the closing mark. -/
theorem figures_keep_captions (doc : FigureDocument) :
    ∃ path : CaptionedFigure → Option Text,
      (∀ figure p, path figure = some p ↔
        FirstPicture (figure.body ++ figureEnd figure.endStarred) p) ∧
      (∀ figure, PicturesClosed figure.body →
        ∀ p, path figure = some p ↔ FirstPicture figure.body p) ∧
      Markdown.figures doc.source = doc.shown (fun figure => figure.quotation (path figure)) ∧
      Plain.figures doc.source = doc.shown CaptionedFigure.quoted := by
  refine ⟨fun figure => picture? (figure.body ++ figureEnd figure.endStarred),
    fun figure p => picture?_eq_some_iff,
    fun figure hclosed p => picture?_eq_some_iff.trans hclosed.firstPicture_append_iff, ?_, ?_⟩
  · rw [Markdown.figures, renderFigures_source]
    exact congrArg doc.shown (funext CaptionedFigure.figureQuote_source)
  · rw [Plain.figures, renderFigures_source]
    refine congrArg doc.shown (funext fun figure => ?_)
    rw [figure.caption?_source, Option.getD_some, figure.inEnvironment_quote]

/-- A figure with a picture in front of its caption, and with braces nested and escaped in that. -/
def nestedFigure : CaptionedFigure where
  starred := true
  endStarred := true
  before := "[t]\\includegraphics[width=3]\x7ba.png\x7d\n".toList
  caption :=
    { starred := false
      short := some "Tasks".toList
      text := "On \\textbf{all} tasks \\\x7b".toList
      short_closed := by decide
      text_ne_nil := by decide
      balanced := by decide +kernel }
  after := "\n\\label{f}".toList
  caption_first := by decide +kernel
  not_closed := by decide +kernel

/-- The same figure between two texts. -/
def nestedDocument : FigureDocument where
  opening := "See\n".toList
  parts := [(nestedFigure, "below.".toList)]
  opening_free := ⟨by decide, by decide⟩
  parts_free := List.forall_mem_singleton.mpr ⟨by decide, by decide⟩

example : Markdown.figures nestedDocument.source =
    "See\n> On \\textbf{all} tasks \\\x7b — a.png\nbelow.".toList := by decide +kernel

/-- A figure with a picture behind its caption that is left open. -/
def openFigure (starred : Bool) : CaptionedFigure where
  starred := starred
  endStarred := starred
  before := []
  caption :=
    { starred := false
      short := none
      text := "s".toList
      short_closed := by simp
      text_ne_nil := by decide
      balanced := by decide }
  after := "\\includegraphics\x7ba".toList
  caption_first := by decide
  not_closed := by decide +kernel

/-- The same figure on its own. -/
def openDocument (starred : Bool) : FigureDocument where
  opening := []
  parts := [(openFigure starred, [])]
  opening_free := figureFree_nil
  parts_free := List.forall_mem_singleton.mpr figureFree_nil

/-- A picture that is left open takes the closing mark of its figure for the end of its path: there
is no picture in the body, and the same body has another path in a figure with a star. -/
theorem open_picture_takes_closing_mark :
    (¬ ∃ path, FirstPicture (openFigure false).body path) ∧
      (openFigure true).body = (openFigure false).body ∧
      (openDocument false).source =
        "\\begin{figure}\\caption{s}\\includegraphics\x7ba\\end{figure}".toList ∧
      Markdown.figures (openDocument false).source = "> s — a\\end\x7bfigure\n".toList ∧
      Markdown.figures (openDocument true).source = "> s — a\\end\x7bfigure*\n".toList ∧
      (openDocument false).shown (fun figure => figure.quotation none) = "> s\n".toList := by
  refine ⟨?_, rfl, by decide +kernel, by decide +kernel, by decide +kernel, by decide +kernel⟩
  rintro ⟨path, hpath⟩
  have hnone : picture? (openFigure false).body = none := by decide +kernel
  exact Option.some_ne_none _ ((picture?_eq_some_iff.mpr hpath).symm.trans hnone)

end PaperHtml.Conversion

import Mathlib
import PaperHtml.Proofs.Citation.Numbering
import PaperHtml.Proofs.Text.Seams

/-!
# Documents by their citations

A document is a sequence of texts with a citation command between each two of
them.  This file shows that a document as it is written is read in just that
way: the order of its citations lists the keys of its commands, and the link
pass puts links in the place of the commands and leaves the texts alone.

## Strategy

A scan for commands stands at the front of a command or within a text.  In a
text nothing begins a command, not even together with what follows: what follows
begins with a backslash, and the mark of a command holds one at its front only
(`pieces_chunk_append`).  A command is read up to its end whatever stands behind
it, for each of its notes and its list of keys ends at the first bracket or brace
(`command?_source`).  So the pieces of the scan are the parts of the document
(`pieces_source`), and both statements are about these.
-/

namespace PaperHtml.Citation

open Text Latex

/-! ## Commands as written -/

/-- The mark with which every citation command begins. -/
def citeMark : Text := "\\cite".toList

/-- The citation commands. -/
inductive CommandForm where
  | plain
  | parenthetical
  | textual
  deriving DecidableEq

/-- The letter behind the mark that tells the commands apart. -/
def CommandForm.letter : CommandForm → Text
  | .plain => []
  | .parenthetical => ['p']
  | .textual => ['t']

/-- A note in its brackets. -/
def bracketed (note : Text) : Text := '[' :: (note ++ [']'])

/-- A citation command with its notes and its keys.  A note holds anything but what closes it, and
so may hold citation commands. -/
structure WrittenCommand where
  form : CommandForm
  notes : List Text
  keys : List Text
  notes_length : notes.length ≤ 2
  notes_closed : ∀ note ∈ notes, ']' ∉ note
  keys_closed : ∀ key ∈ keys, ',' ∉ key ∧ '}' ∉ key

namespace WrittenCommand

/-- What stands in the braces of a command. -/
def list (command : WrittenCommand) : Text := join [','] command.keys

/-- What stands behind the name of a command. -/
def arguments (command : WrittenCommand) : Text :=
  command.notes.flatMap bracketed ++ braced command.list

/-- A command as it is written. -/
def source (command : WrittenCommand) : Text :=
  citeMark ++ (command.form.letter ++ command.arguments)

/-- The keys that a command cites: those that are not blank, trimmed. -/
def cited (command : WrittenCommand) : List Text :=
  (command.keys.map trim).filter fun key => key ≠ []

end WrittenCommand

/-! ## Reading a command -/

theorem dropNote_bracketed {note : Text} (h : ']' ∉ note) (rest : Text) :
    dropNote (bracketed note ++ rest) = rest := by
  have hopen : bracketed note ++ rest = '[' :: (note ++ ']' :: rest) := by simp [bracketed]
  rw [hopen, dropNote, note?, cutChar?_append h]

theorem argument?_braced {list : Text} (h : '}' ∉ list) (rest : Text) :
    argument? (braced list ++ rest) = some (list, rest) := by
  have hopen : braced list ++ rest = '{' :: (list ++ '}' :: rest) := by simp [braced]
  rw [hopen, argument?, cutChar?_append h]

namespace WrittenCommand

variable (command : WrittenCommand)

theorem dropNote_dropNote_arguments (rest : Text) :
    dropNote (dropNote (command.arguments ++ rest)) = braced command.list ++ rest := by
  have hlength := command.notes_length
  have hclosed := command.notes_closed
  -- no note begins with a brace
  have hbrace : dropNote (braced command.list ++ rest) = braced command.list ++ rest := rfl
  rw [arguments, List.append_assoc]
  match hnotes : command.notes with
  | [] => rw [List.flatMap_nil, List.nil_append, hbrace, hbrace]
  | [note] =>
      rw [hnotes] at hclosed
      rw [List.flatMap_singleton, dropNote_bracketed (hclosed note (by simp)), hbrace]
  | [first, second] =>
      rw [hnotes] at hclosed
      rw [List.flatMap_cons, List.flatMap_singleton, List.append_assoc,
        dropNote_bracketed (hclosed first (by simp)),
        dropNote_bracketed (hclosed second (by simp))]
  | _ :: _ :: _ :: _ =>
      rw [hnotes] at hlength
      simp at hlength

/-- No letter goes on with the name of a command where its arguments begin. -/
theorem dropLetter_arguments (rest : Text) :
    (dropAny? [['p'], ['t']] (command.form.letter ++ (command.arguments ++ rest))).getD
      (command.form.letter ++ (command.arguments ++ rest)) = command.arguments ++ rest := by
  obtain ⟨c, more, harguments, hc⟩ :
      ∃ c more, command.arguments ++ rest = c :: more ∧ c ∈ ['[', '{'] := by
    rw [arguments]
    cases command.notes with
    | nil => exact ⟨'{', _, rfl, by simp⟩
    | cons note notes => exact ⟨'[', _, rfl, by simp⟩
  rw [harguments]
  cases command.form with
  | plain =>
      have hp : 'p' ≠ c := by rintro rfl; simp at hc
      have ht : 't' ≠ c := by rintro rfl; simp at hc
      simp [CommandForm.letter, dropAny?, dropPrefix?, hp, ht]
  | parenthetical => rfl
  | textual => rfl

theorem brace_not_mem_list : '}' ∉ command.list := by
  intro hmem
  rcases mem_of_mem_join hmem with hcomma | ⟨key, hkey, hbrace⟩
  · exact absurd hcomma (by decide)
  · exact (command.keys_closed key hkey).2 hbrace

/-- The list of keys is split where its keys meet. -/
theorem splitKeys_list : splitKeys command.list = command.cited := by
  have hclosed := command.keys_closed
  rw [splitKeys, list, cited]
  cases hkeys : command.keys with
  | nil => rfl
  | cons key keys =>
      rw [hkeys] at hclosed
      rw [splitOn_join _ (List.cons_ne_nil _ _),
        List.flatMap_congr fun k hk => splitOn_of_not_mem (hclosed k hk).1, List.flatMap_singleton']

/-- A command is read as what it cites, whatever stands behind it. -/
theorem command?_source (rest : Text) :
    command? (command.source ++ rest) = some (command.cited, rest) := by
  have hname : dropCommand? "cite".toList (command.source ++ rest) =
      some (command.form.letter ++ (command.arguments ++ rest)) := by
    rw [source, List.append_assoc, List.append_assoc]
    exact dropPrefix?_append citeMark _
  simp only [command?, hname, Option.bind_some]
  rw [command.dropLetter_arguments, command.dropNote_dropNote_arguments,
    argument?_braced command.brace_not_mem_list, Option.map_some, command.splitKeys_list]

end WrittenCommand

/-! ## Documents as written -/

/-- A text that holds no mark of a citation command. -/
structure Chunk where
  text : Text
  unmarked : ¬ citeMark <:+: text

/-- A document: a text, and commands with a text behind each. -/
structure Document where
  opening : Chunk
  rest : List (WrittenCommand × Chunk)

namespace Document

/-- The texts of a document with something else for its commands. -/
def render (write : WrittenCommand → Text) (document : Document) : Text :=
  document.opening.text ++ document.rest.flatMap fun part => write part.1 ++ part.2.text

/-- A document as it is written. -/
def source (document : Document) : Text := document.render WrittenCommand.source

/-- The keys that a document cites, as often as it does. -/
def cited (document : Document) : List Text := document.rest.flatMap fun part => part.1.cited

/-- The parts of a document as a scan for commands tells them apart. -/
def pieces (document : Document) : List (Piece (List Text)) :=
  document.opening.text.map .plain ++
    document.rest.flatMap fun part => .hit part.1.cited :: part.2.text.map .plain

end Document

/-! ## Reading a document -/

/-- A text without a mark is passed over, as far as the end or the next command. -/
theorem pieces_chunk_append (chunk : Chunk) {rest : Text} (hrest : ∀ c ∈ rest.head?, c = '\\') :
    Scanner.pieces command? (chunk.text ++ rest) =
      chunk.text.map .plain ++ Scanner.pieces command? rest := by
  refine Scanner.pieces_append_of_passed fun back hback hne => ?_
  by_contra hsome
  obtain ⟨⟨keys, after⟩, hfound⟩ := Option.ne_none_iff_exists'.mp hsome
  obtain ⟨behind, hbehind, -⟩ := Option.bind_eq_some_iff.mp hfound
  have hmark : citeMark <+: back ++ rest := ⟨behind, (dropPrefix?_eq_some_iff.mp hbehind).symm⟩
  have hinside : citeMark <+: back := by
    cases rest with
    | nil => rwa [List.append_nil] at hmark
    | cons c rest =>
        obtain rfl : c = '\\' := hrest c rfl
        exact prefix_of_prefix_append_cons (by decide) hne hmark
  exact chunk.unmarked (hinside.isInfix.trans hback.isInfix)

theorem pieces_command_append (command : WrittenCommand) (rest : Text) :
    Scanner.pieces command? (command.source ++ rest) =
      .hit command.cited :: Scanner.pieces command? rest :=
  Scanner.pieces_of_some (command.command?_source rest)

/-- A scan for commands finds the commands of a document and nothing else. -/
theorem pieces_source (document : Document) :
    Scanner.pieces command? document.source = document.pieces := by
  obtain ⟨opening, rest⟩ := document
  rw [Document.source, Document.render, Document.pieces]
  induction rest generalizing opening with
  | nil => simpa using @pieces_chunk_append opening [] (by simp)
  | cons part rest ih =>
      have hhead (t : Text) : ∀ c ∈ (part.1.source ++ t).head?, c = '\\' := by
        rintro c ⟨⟩
        rfl
      rw [List.flatMap_cons, List.append_assoc, pieces_chunk_append opening (hhead _),
        pieces_command_append, ih part.2, List.flatMap_cons, List.cons_append]

theorem cited_source (document : Document) : Citation.cited document.source = document.cited := by
  rw [Citation.cited, Scanner.findAll, pieces_source, Document.pieces, Document.cited]
  induction document.rest with
  | nil => simp [List.filterMap_map]
  | cons part rest ih => simp_all [List.filterMap_map]

/-- First places are what is left when later occurrences go. -/
theorem firstPlaces_eq_eraseDups (seen keys : List Text) :
    firstPlaces seen keys = (keys.filter fun key => key ∉ seen).eraseDups := by
  induction keys generalizing seen with
  | nil => rfl
  | cons key keys ih =>
      by_cases hkey : key ∈ seen
      · rw [firstPlaces, if_pos hkey, ih, List.filter_cons_of_neg (by simpa using hkey)]
      · rw [firstPlaces, if_neg hkey, ih, List.filter_cons_of_pos (by simpa using hkey),
          List.eraseDups_cons, List.filter_filter]
        congr 2
        refine List.filter_congr fun other _ => ?_
        by_cases hother : other = key <;> simp [hother]

theorem eraseComments_eq_self {t : Text} (h : ∀ line ∈ lines t, isCommentLine line = false) :
    Latex.eraseComments t = t :=
  unlines_map_lines_eq_self fun line hline => if_neg (h line hline ▸ Bool.false_ne_true)

/-- A document without comment lines cites the keys of its commands in the order of their first
places. -/
theorem order_source {document : Document}
    (hlines : ∀ line ∈ lines document.source, isCommentLine line = false) :
    order document.source = document.cited.eraseDups := by
  have hseen : (document.cited.filter fun key => key ∉ ([] : List Text)) = document.cited := by
    simp
  have hcited : (Scanner.findAll command? document.source).flatten = document.cited :=
    cited_source document
  rw [order, eraseComments_eq_self hlines, firstPlaces_eq_eraseDups, hcited, hseen]

/-- A document without comment lines cites the keys of its commands in the order of their first
places, and the link pass puts the links of its keys in the place of each command and changes
nothing else. -/
theorem order_and_links_of_document (document : Document)
    (hlines : ∀ line ∈ lines document.source, isCommentLine line = false) :
    order document.source = document.cited.eraseDups ∧
      ∀ (style : LinkStyle) (numbers : Numbering),
        linkAll style numbers document.source = document.render fun command =>
          join [';', ' '] (command.cited.map fun key =>
            link style key (slug key) (numbers.get? key)) := by
  constructor
  · exact order_source hlines
  · intro style numbers
    rw [linkAll_eq_flatMap, links, pieces_source, Document.pieces, Document.render, List.map_append,
      List.flatMap_append, List.map_map, List.flatMap_map]
    congr 1
    · simp [writeLinks]
    · rw [List.map_flatMap, List.flatMap_assoc]
      refine List.flatMap_congr fun part _ => ?_
      simp [writeLinks, List.map_map, List.flatMap_map, Function.comp_def]

/-- A document with the beginning of a mark in front of a command, a citation in a note, and a
command that cites nothing. -/
def nestedDocument : Document where
  opening := ⟨"Text \\ci".toList, by decide⟩
  rest :=
    [(⟨.parenthetical, ["see \\cite{x}".toList, "p. 3".toList], [" b".toList, [], "a\n".toList],
        by decide, by decide, by decide⟩, ⟨['}'], by decide⟩),
      (⟨.plain, [], [[' ']], by decide, by decide, by decide⟩, ⟨[], by decide⟩),
      (⟨.textual, [[]], [['b'], ['c']], by decide, by decide, by decide⟩, ⟨['%'], by decide⟩)]

theorem order_and_links_of_nestedDocument :
    nestedDocument.source =
        "Text \\ci\\citep[see \\cite\x7bx\x7d][p. 3]\x7b b,,a\n\x7d\x7d".toList ++
          "\\cite\x7b \x7d\\citet[]\x7bb,c\x7d%".toList ∧
      (∀ line ∈ lines nestedDocument.source, isCommentLine line = false) ∧
      order nestedDocument.source = [['b'], ['a'], ['c']] ∧
      linkAll .latex [(['b'], 1), (['a'], 2)] nestedDocument.source =
        "Text \\ci\\href\x7b#ref-b\x7d\x7b[1]\x7d; \\href\x7b#ref-a\x7d\x7b[2]\x7d\x7d".toList ++
          "\\href\x7b#ref-b\x7d\x7b[1]\x7d; c%".toList := by
  have hlines : ∀ line ∈ lines nestedDocument.source, isCommentLine line = false := by decide
  obtain ⟨horder, hlinks⟩ := order_and_links_of_document nestedDocument hlines
  exact ⟨by decide, hlines, horder.trans (by decide),
    (hlinks .latex [(['b'], 1), (['a'], 2)]).trans (by decide +kernel)⟩

end PaperHtml.Citation

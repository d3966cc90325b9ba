import PaperHtml.Text.Basic

/-!
# Scanning a text from left to right

A *scanner* looks at the front of a text; if it recognises something there, it
gives a value and the text that follows.  `pieces` runs a scanner over a whole
text: at every place, from the left, either something is recognised and the
scan goes on behind it, or one character is passed over.

## Strategy

`pieces` is structurally recursive.  A recognised occurrence is passed over by
counting its characters down, so no measure is needed and closed instances
evaluate in the kernel.  The two equations `pieces_of_none` and
`pieces_of_some` say all that later files need.
-/

namespace PaperHtml

/-- A part of a scanned text: one character passed over, or a value recognised. -/
inductive Piece (α : Type) where
  | plain (c : Char)
  | hit (value : α)
  deriving DecidableEq, Repr

/-- Recognises something at the front of a text; gives a value and the rest. -/
abbrev Scanner (α : Type) := Text → Option (α × Text)

namespace Scanner

variable {α β : Type}

/-- `pieces` with `skip` characters of a recognised occurrence still to pass over. -/
def piecesFrom (scan : Scanner α) : (skip : Nat) → Text → List (Piece α)
  | _, [] => []
  | skip + 1, _ :: rest => piecesFrom scan skip rest
  | 0, c :: rest =>
    match scan (c :: rest) with
    | none => .plain c :: piecesFrom scan 0 rest
    | some (a, after) => .hit a :: piecesFrom scan (rest.length - after.length) rest

/-- The parts of a text that a scanner tells apart, from left to right. -/
def pieces (scan : Scanner α) (t : Text) : List (Piece α) := piecesFrom scan 0 t

/-- The values recognised, from left to right. -/
def findAll (scan : Scanner α) (t : Text) : List α :=
  (pieces scan t).filterMap fun
    | .plain _ => none
    | .hit a => some a

/-- The first value recognised. -/
def find? (scan : Scanner α) : Text → Option α
  | [] => none
  | c :: rest =>
    match scan (c :: rest) with
    | some (a, _) => some a
    | none => find? scan rest

/-- Every occurrence replaced by the text the scanner gives for it. -/
def substitute (scan : Scanner Text) (t : Text) : Text :=
  (pieces scan t).flatMap fun
    | .plain c => [c]
    | .hit out => out

/-- The first occurrence alone replaced by the text the scanner gives for it. -/
def substituteFirst (scan : Scanner Text) : Text → Text
  | [] => []
  | c :: rest =>
    match scan (c :: rest) with
    | some (out, after) => out ++ after
    | none => c :: substituteFirst scan rest

/-- The stretches of text between the values; `stretch` is the one that has begun, in reverse
order. -/
def stretches : (stretch : Text) → List (Piece α) → List Text
  | stretch, [] => [stretch.reverse]
  | stretch, .plain c :: rest => stretches (c :: stretch) rest
  | stretch, .hit _ :: rest => stretch.reverse :: stretches [] rest

/-- The parts of a text between the occurrences; always at least one part. -/
def split (scan : Scanner α) (t : Text) : List Text := stretches [] (pieces scan t)

/-- Every occurrence taken away. -/
def erase (scan : Text → Option Text) : Text → Text :=
  substitute fun t => (scan t).map fun after => ([], after)

/-- A scanner for a fixed text, giving `new` for it. -/
def literal (old new : Text) : Scanner Text := fun t =>
  (Text.dropPrefix? old t).map fun after => (new, after)

/-- A scanner with its value changed. -/
def map (f : α → β) (scan : Scanner α) : Scanner β := fun t =>
  (scan t).map fun found => (f found.1, found.2)

/-! ## The equations of `pieces` -/

theorem piecesFrom_drop (scan : Scanner α) (skip : Nat) (t : Text) :
    piecesFrom scan skip t = piecesFrom scan 0 (t.drop skip) := by
  induction t generalizing skip with
  | nil => cases skip <;> simp [piecesFrom]
  | cons c rest ih =>
      cases skip with
      | zero => rfl
      | succ skip => simp only [piecesFrom, List.drop_succ_cons]; exact ih skip

@[simp] theorem pieces_nil (scan : Scanner α) : pieces scan [] = [] := rfl

/-- Where nothing is recognised, one character is passed over. -/
theorem pieces_of_none {scan : Scanner α} {c : Char} {rest : Text}
    (h : scan (c :: rest) = none) :
    pieces scan (c :: rest) = .plain c :: pieces scan rest := by
  simp only [pieces, piecesFrom, h]

/-- Behind a recognised occurrence the scan starts anew. -/
theorem pieces_of_some {scan : Scanner α} {a : α} {c : Char} {source after : Text}
    (h : scan (c :: source ++ after) = some (a, after)) :
    pieces scan (c :: source ++ after) = .hit a :: pieces scan after := by
  simp only [List.cons_append] at h
  simp only [pieces, List.cons_append, piecesFrom, h]
  rw [piecesFrom_drop]
  simp

/-- Characters at which nothing is ever recognised are passed over. -/
theorem pieces_append_of_none {scan : Scanner α} {front rest : Text}
    (h : ∀ c ∈ front, ∀ t, scan (c :: t) = none) :
    pieces scan (front ++ rest) = front.map .plain ++ pieces scan rest := by
  induction front with
  | nil => rfl
  | cons c front ih =>
      have hfront : ∀ d ∈ front, ∀ t, scan (d :: t) = none :=
        fun d hd => h d (List.mem_cons_of_mem _ hd)
      rw [List.cons_append, pieces_of_none (h c (List.mem_cons_self ..) _), ih hfront]
      rfl

@[simp] theorem findAll_nil (scan : Scanner α) : findAll scan [] = [] := rfl

theorem findAll_of_none {scan : Scanner α} {c : Char} {rest : Text}
    (h : scan (c :: rest) = none) : findAll scan (c :: rest) = findAll scan rest := by
  simp [findAll, pieces_of_none h]

theorem findAll_of_some {scan : Scanner α} {a : α} {c : Char} {source after : Text}
    (h : scan (c :: source ++ after) = some (a, after)) :
    findAll scan (c :: source ++ after) = a :: findAll scan after := by
  rw [findAll, pieces_of_some h]
  rfl

private theorem exists_of_mem_piecesFrom {scan : Scanner α} {a : α} (t : Text) (skip : Nat)
    (h : .hit a ∈ piecesFrom scan skip t) :
    ∃ front after, front <:+ t ∧ scan front = some (a, after) := by
  induction t generalizing skip with
  | nil => simp [piecesFrom] at h
  | cons c rest ih =>
      have hlater (skip : Nat) (h : .hit a ∈ piecesFrom scan skip rest) :
          ∃ front after, front <:+ c :: rest ∧ scan front = some (a, after) := by
        obtain ⟨front, after, hfront, hscan⟩ := ih skip h
        exact ⟨front, after, hfront.trans (List.suffix_cons c rest), hscan⟩
      cases skip with
      | succ skip => exact hlater skip h
      | zero =>
          unfold piecesFrom at h
          split at h
          · exact hlater 0 (by simpa using h)
          · rename_i b after hb
            rcases List.mem_cons.mp h with heq | hrest
            · cases heq
              exact ⟨_, _, List.suffix_refl _, hb⟩
            · exact hlater _ hrest

/-- A value that a scan finds was recognised at some place of the text. -/
theorem exists_of_mem_findAll {scan : Scanner α} {t : Text} {a : α} (h : a ∈ findAll scan t) :
    ∃ front after, front <:+ t ∧ scan front = some (a, after) := by
  simp only [findAll, List.mem_filterMap] at h
  obtain ⟨piece, hpiece, hvalue⟩ := h
  cases piece with
  | plain c => simp at hvalue
  | hit b =>
      obtain rfl : b = a := by simpa using hvalue
      exact exists_of_mem_piecesFrom t 0 hpiece

private theorem piecesFrom_map (f : α → β) (scan : Scanner α) (t : Text) (skip : Nat) :
    piecesFrom (map f scan) skip t =
      (piecesFrom scan skip t).map fun
        | .plain c => .plain c
        | .hit a => .hit (f a) := by
  induction t generalizing skip with
  | nil => simp [piecesFrom]
  | cons c rest ih =>
      cases skip with
      | succ skip => exact ih skip
      | zero =>
          cases hscan : scan (c :: rest) with
          | none => simp [piecesFrom, map, hscan, ih]
          | some found => simp [piecesFrom, map, hscan, ih]

/-- A scanner with its value changed tells the same pieces apart. -/
theorem pieces_map (f : α → β) (scan : Scanner α) (t : Text) :
    pieces (map f scan) t =
      (pieces scan t).map fun
        | .plain c => .plain c
        | .hit a => .hit (f a) := piecesFrom_map f scan t 0

end Scanner

namespace Text

/-- Every occurrence of `old` replaced by `new`, from left to right. -/
def replaceAll (old new t : Text) : Text := Scanner.substitute (Scanner.literal old new) t

end Text

end PaperHtml

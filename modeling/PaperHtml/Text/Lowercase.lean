import PaperHtml.Text.Basic
import PaperHtml.Text.Casing

/-!
# Lower case

The full lower case mapping: one character may become two (a capital I with a
dot), and a capital sigma at the end of a word takes its final form.
-/

namespace PaperHtml

/-- The lower case form of a character that does not depend on its neighbours. -/
def simpleLower (c : Char) : Char :=
  if c.toNat < 128 then c.toLower
  else
    match lowerRuns.find? fun run =>
        run.first ≤ c.toNat && c.toNat ≤ run.last && (c.toNat - run.first) % run.step == 0 with
    | some run => Char.ofNat (c.toNat + run.shift).toNat
    | none => c

/-- Whether the nearest character that is not passed over has a case. -/
def casedNext : Text → Bool
  | [] => false
  | c :: rest => if caseIgnorableRanges.mem c then casedNext rest else casedRanges.mem c

namespace Text

/-- Lower case, with the characters before the rest given in reverse order. -/
def lowerFrom : (before : Text) → Text → Text
  | _, [] => []
  | before, c :: rest =>
    if c.toNat = 0x130 then 'i' :: Char.ofNat 0x307 :: lowerFrom (c :: before) rest
    else if c.toNat = 0x3A3 then
      Char.ofNat (if casedNext before && !casedNext rest then 0x3C2 else 0x3C3) ::
        lowerFrom (c :: before) rest
    else simpleLower c :: lowerFrom (c :: before) rest

/-- The text in lower case. -/
def lower (t : Text) : Text := lowerFrom [] t

/-- ASCII characters that are no capital letters stay as they are, whatever stands around them. -/
theorem lowerFrom_of_ascii {t : Text}
    (h : ∀ c ∈ t, c.toNat < 128 ∧ ¬ (65 ≤ c.toNat ∧ c.toNat ≤ 90)) (before : Text) :
    lowerFrom before t = t := by
  induction t generalizing before with
  | nil => rfl
  | cons c rest ih =>
      obtain ⟨hlow, hcapital⟩ := h c (List.mem_cons_self ..)
      have hself : c.toLower = c := dif_neg hcapital
      have hdotted : c.toNat ≠ 0x130 := by omega
      have hsigma : c.toNat ≠ 0x3A3 := by omega
      rw [lowerFrom, if_neg hdotted, if_neg hsigma, simpleLower, if_pos hlow, hself,
        ih fun d hd => h d (List.mem_cons_of_mem _ hd)]

end Text

end PaperHtml

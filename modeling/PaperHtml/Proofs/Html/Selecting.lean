import Mathlib
import PaperHtml.Html.Select

/-!
# Finding, changing and counting elements

The elements of a tree are its tags in the order of the source.  Finding an
element, putting nodes behind its children and taking it away are followed on
these tags.

## Strategy

Functions on nodes and on lists of nodes call each other.  `Node.forest` is the
one induction that fits them: a list of nodes is empty or begins with a text or
with an element, whose children are a list again.  Beside it stands an equation
for each function and each beginning, so no proof opens the functions on single
nodes.
-/

namespace PaperHtml.Html.Node

/-- Lists of nodes are empty or begin with a text or an element. -/
@[elab_as_elim]
theorem forest {motive : List Node → Prop} (nil : motive [])
    (text : ∀ kind content rest, motive rest → motive (.text kind content :: rest))
    (element : ∀ tag children rest, motive children → motive rest →
      motive (.element tag children :: rest)) (nodes : List Node) : motive nodes :=
  match nodes with
  | [] => nil
  | .text kind content :: rest => text kind content rest (forest nil text element rest)
  | .element tag children :: rest =>
      element tag children rest (forest nil text element children) (forest nil text element rest)

variable {α : Type} {p q : Tag → Bool} {change : List Text → List Node → α × List Node}

/-! ## Equations for lists of nodes -/

@[simp] theorem tagsAmong_nil : tagsAmong [] = [] := rfl

@[simp] theorem tagsAmong_text (kind : TextKind) (content : Text) (rest : List Node) :
    tagsAmong (.text kind content :: rest) = tagsAmong rest := by
  simp [tagsAmong, tags]

@[simp] theorem tagsAmong_element (tag : Tag) (children rest : List Node) :
    tagsAmong (.element tag children :: rest) =
      tag :: (tagsAmong children ++ tagsAmong rest) := by
  simp [tagsAmong, tags]

@[simp] theorem findAmong?_nil : findAmong? p [] = none := rfl

@[simp] theorem findAmong?_text (kind : TextKind) (content : Text) (rest : List Node) :
    findAmong? p (.text kind content :: rest) = findAmong? p rest := by
  simp [findAmong?, find?]

theorem findAmong?_element (tag : Tag) (children rest : List Node) :
    findAmong? p (.element tag children :: rest) =
      if p tag then some (.element tag children)
      else (findAmong? p children).or (findAmong? p rest) := by
  rw [findAmong?, find?]
  split <;> simp

@[simp] theorem updateAmong?_nil (around : List Text) :
    updateAmong? p change around [] = none := rfl

@[simp] theorem updateAmong?_text (around : List Text) (kind : TextKind) (content : Text)
    (rest : List Node) :
    updateAmong? p change around (.text kind content :: rest) =
      (updateAmong? p change around rest).map fun changed =>
        (changed.1, .text kind content :: changed.2) := by
  simp [updateAmong?, update?]

theorem updateAmong?_element (around : List Text) (tag : Tag) (children rest : List Node) :
    updateAmong? p change around (.element tag children :: rest) =
      if p tag then
        some ((change (tag.name :: around) children).1,
          .element tag (change (tag.name :: around) children).2 :: rest)
      else
        match updateAmong? p change (tag.name :: around) children with
        | some changed => some (changed.1, .element tag changed.2 :: rest)
        | none =>
          (updateAmong? p change around rest).map fun changed =>
            (changed.1, .element tag children :: changed.2) := by
  rw [updateAmong?, update?]
  by_cases h : p tag = true
  · simp [h]
  · cases hchildren : updateAmong? p change (tag.name :: around) children <;> simp [h]

@[simp] theorem removeAmong?_nil : removeAmong? p [] = none := rfl

@[simp] theorem removeAmong?_text (kind : TextKind) (content : Text) (rest : List Node) :
    removeAmong? p (.text kind content :: rest) =
      (removeAmong? p rest).map (.text kind content :: ·) := rfl

theorem removeAmong?_element (tag : Tag) (children rest : List Node) :
    removeAmong? p (.element tag children :: rest) =
      if p tag then some rest
      else
        match removeAmong? p children with
        | some found => some (.element tag found :: rest)
        | none => (removeAmong? p rest).map (.element tag children :: ·) := by
  rw [removeAmong?, removeBelow?]
  cases removeAmong? p children <;> rfl

@[simp] theorem mapTagsAmong_nil (f : Tag → Tag) : mapTagsAmong f [] = [] := rfl

@[simp] theorem mapTagsAmong_text (f : Tag → Tag) (kind : TextKind) (content : Text)
    (rest : List Node) :
    mapTagsAmong f (.text kind content :: rest) =
      .text kind content :: mapTagsAmong f rest := by
  simp [mapTagsAmong, mapTags]

@[simp] theorem mapTagsAmong_element (f : Tag → Tag) (tag : Tag) (children rest : List Node) :
    mapTagsAmong f (.element tag children :: rest) =
      .element (f tag) (mapTagsAmong f children) :: mapTagsAmong f rest := by
  simp [mapTagsAmong, mapTags]

theorem findAmong?_append (before after : List Node) :
    findAmong? p (before ++ after) = (findAmong? p before).or (findAmong? p after) := by
  induction before with
  | nil => rfl
  | cons node rest ih => simp [findAmong?, ih, Option.or_assoc]

theorem updateAmong?_append (around : List Text) (before after : List Node) :
    updateAmong? p change around (before ++ after) =
      match updateAmong? p change around before with
      | some changed => some (changed.1, changed.2 ++ after)
      | none =>
        (updateAmong? p change around after).map fun changed => (changed.1, before ++ changed.2) := by
  induction before with
  | nil => simp
  | cons node rest ih =>
      simp only [List.cons_append, updateAmong?, ih]
      cases update? p change around node with
      | some changed => rfl
      | none =>
          cases updateAmong? p change around rest with
          | some changed => rfl
          | none => cases updateAmong? p change around after <;> rfl

theorem removeAmong?_append (before after : List Node) :
    removeAmong? p (before ++ after) =
      match removeAmong? p before with
      | some found => some (found ++ after)
      | none => (removeAmong? p after).map (before ++ ·) := by
  induction before using forest with
  | nil => simp
  | text kind content rest ih =>
      rw [List.cons_append, removeAmong?_text, removeAmong?_text, ih]
      cases removeAmong? p rest with
      | some found => rfl
      | none => cases removeAmong? p after <;> rfl
  | element tag children rest _ ih =>
      rw [List.cons_append, removeAmong?_element, removeAmong?_element, ih]
      by_cases h : p tag = true
      · simp [h]
      · cases removeAmong? p children with
        | some found => simp [h]
        | none =>
            cases removeAmong? p rest with
            | some found => simp [h]
            | none => cases removeAmong? p after <;> simp [h]

/-! ## Tags -/

@[simp] theorem tagsAmong_append (before after : List Node) :
    tagsAmong (before ++ after) = tagsAmong before ++ tagsAmong after := by
  induction before with
  | nil => rfl
  | cons node rest ih => simp [tagsAmong, ih]

theorem tagsAmong_mapTagsAmong (f : Tag → Tag) (nodes : List Node) :
    tagsAmong (mapTagsAmong f nodes) = (tagsAmong nodes).map f := by
  induction nodes using forest with
  | nil => rfl
  | text kind content rest ih => simp [ih]
  | element tag children rest ihChildren ih => simp [ihChildren, ih]

/-- Nodes do not change where none of their tags does. -/
theorem mapTagsAmong_eq_self {f : Tag → Tag} {nodes : List Node}
    (h : ∀ tag ∈ tagsAmong nodes, f tag = tag) : mapTagsAmong f nodes = nodes := by
  induction nodes using forest with
  | nil => rfl
  | text kind content rest ih => rw [mapTagsAmong_text, ih (by simpa using h)]
  | element tag children rest ihChildren ih =>
      simp only [tagsAmong_element, List.mem_cons, List.mem_append, or_imp, forall_and,
        forall_eq] at h
      obtain ⟨htag, hchildren, hrest⟩ := h
      rw [mapTagsAmong_element, htag, ihChildren hchildren, ih hrest]

/-- The same nodes but for their tags, each of which is related to the one in its place. -/
inductive Retagged (R : Tag → Tag → Prop) : List Node → List Node → Prop where
  | nil : Retagged R [] []
  | text (kind : TextKind) (content : Text) {rest rest' : List Node}
      (hrest : Retagged R rest rest') :
      Retagged R (.text kind content :: rest) (.text kind content :: rest')
  | element {tag tag' : Tag} {children children' rest rest' : List Node} (htag : R tag tag')
      (hchildren : Retagged R children children') (hrest : Retagged R rest rest') :
      Retagged R (.element tag children :: rest) (.element tag' children' :: rest')

theorem retagged_mapTagsAmong {R : Tag → Tag → Prop} {f : Tag → Tag} (h : ∀ tag, R tag (f tag))
    (nodes : List Node) : Retagged R nodes (mapTagsAmong f nodes) := by
  induction nodes using forest with
  | nil => exact .nil
  | text kind content rest ih =>
      rw [mapTagsAmong_text]
      exact .text kind content ih
  | element tag children rest ihChildren ih =>
      rw [mapTagsAmong_element]
      exact .element (h tag) ihChildren ih

/-! ## Elements -/

mutual

/-- The elements at or below a node, in order. -/
def elements : Node → List Node
  | .text _ _ => []
  | .element tag children => .element tag children :: elementsAmong children

/-- The elements at or below several nodes, in order. -/
def elementsAmong : List Node → List Node
  | [] => []
  | node :: rest => elements node ++ elementsAmong rest

end

@[simp] theorem elementsAmong_nil : elementsAmong [] = [] := rfl

@[simp] theorem elementsAmong_text (kind : TextKind) (content : Text) (rest : List Node) :
    elementsAmong (.text kind content :: rest) = elementsAmong rest := rfl

@[simp] theorem elementsAmong_element (tag : Tag) (children rest : List Node) :
    elementsAmong (.element tag children :: rest) =
      .element tag children :: (elementsAmong children ++ elementsAmong rest) := rfl

theorem elementsAmong_cons (node : Node) (rest : List Node) :
    elementsAmong (node :: rest) = elements node ++ elementsAmong rest := rfl

theorem elementsAmong_mapTagsAmong (f : Tag → Tag) (nodes : List Node) :
    elementsAmong (mapTagsAmong f nodes) = (elementsAmong nodes).map (mapTags f) := by
  induction nodes using forest with
  | nil => rfl
  | text kind content rest ih => simp [ih]
  | element tag children rest ihChildren ih => simp [ihChildren, ih, mapTags]

/-! ## Whether there is such an element -/

theorem isSome_findAmong? (nodes : List Node) :
    (findAmong? p nodes).isSome = (tagsAmong nodes).any p := by
  induction nodes using forest with
  | nil => rfl
  | text kind content rest ih => simpa using ih
  | element tag children rest ihChildren ih =>
      rw [findAmong?_element]
      by_cases h : p tag = true <;> simp [h, ihChildren, ih]

theorem isSome_updateAmong? (around : List Text) (nodes : List Node) :
    (updateAmong? p change around nodes).isSome = (tagsAmong nodes).any p := by
  induction nodes using forest generalizing around with
  | nil => rfl
  | text kind content rest ih => simpa using ih around
  | element tag children rest ihChildren ih =>
      have hchildren := ihChildren (tag.name :: around)
      rw [updateAmong?_element]
      by_cases h : p tag = true
      · simp [h]
      · cases hfound : updateAmong? p change (tag.name :: around) children with
        | some changed =>
            rw [hfound] at hchildren
            simp [h, ← hchildren]
        | none =>
            rw [hfound] at hchildren
            simp [h, ← hchildren, ih around]

theorem isSome_removeAmong? (nodes : List Node) :
    (removeAmong? p nodes).isSome = (tagsAmong nodes).any p := by
  induction nodes using forest with
  | nil => rfl
  | text kind content rest ih => simpa using ih
  | element tag children rest ihChildren ih =>
      rw [removeAmong?_element]
      by_cases h : p tag = true
      · simp [h]
      · cases hfound : removeAmong? p children with
        | some found =>
            rw [hfound] at ihChildren
            simp [h, ← ihChildren]
        | none =>
            rw [hfound] at ihChildren
            simp [h, ← ihChildren, ih]

/-- No element at or below the nodes has a tag that `p` holds of. -/
def Without (p : Tag → Bool) (nodes : List Node) : Prop := (tagsAmong nodes).any p = false

theorem without_append {before after : List Node} :
    Without p (before ++ after) ↔ Without p before ∧ Without p after := by
  simp [Without]

theorem without_nil : Without p [] := rfl

theorem without_text {kind : TextKind} {content : Text} {rest : List Node} :
    Without p (.text kind content :: rest) ↔ Without p rest := by
  simp [Without]

theorem without_element {tag : Tag} {children rest : List Node} :
    Without p (.element tag children :: rest) ↔
      p tag = false ∧ Without p children ∧ Without p rest := by
  simp [Without]

theorem Without.mono {nodes : List Node} (h : Without p nodes)
    (hle : ∀ tag, q tag = true → p tag = true) : Without q nodes := by
  rw [Without, List.any_eq_false] at h ⊢
  exact fun tag htag hq => h tag htag (hle tag hq)

theorem Without.findAmong?_eq_none {nodes : List Node} (h : Without p nodes) :
    findAmong? p nodes = none := by
  rw [← Option.not_isSome_iff_eq_none, isSome_findAmong?, h]
  exact Bool.false_ne_true

theorem without_of_findAmong?_eq_none {nodes : List Node} (h : findAmong? p nodes = none) :
    Without p nodes := by
  rw [Without, ← isSome_findAmong?, h]
  rfl

theorem Without.updateAmong?_eq_none {nodes : List Node} (h : Without p nodes)
    (around : List Text) : updateAmong? p change around nodes = none := by
  rw [← Option.not_isSome_iff_eq_none, isSome_updateAmong?, h]
  exact Bool.false_ne_true

theorem without_of_updateAmong?_eq_none {nodes : List Node} {around : List Text}
    (h : updateAmong? p change around nodes = none) : Without p nodes := by
  rw [Without, ← @isSome_updateAmong? _ p change around, h]
  rfl

/-- A change of children that brings no such element brings none among the nodes. -/
theorem Without.of_updateAmong? {nodes changed : List Node} {around : List Text} {a : α}
    (h : Without q nodes)
    (hchange : ∀ around children, Without q children → Without q (change around children).2)
    (hupdate : updateAmong? p change around nodes = some (a, changed)) : Without q changed := by
  induction nodes using forest generalizing around changed a with
  | nil => cases hupdate
  | text kind content rest ih =>
      simp only [updateAmong?_text, Option.map_eq_some_iff, Prod.mk.injEq, Prod.exists] at hupdate
      obtain ⟨_, found, hfound, -, rfl⟩ := hupdate
      exact without_text.mpr (ih (without_text.mp h) hfound)
  | element tag children rest ihChildren ih =>
      obtain ⟨htag, hchildren, hrest⟩ := without_element.mp h
      rw [updateAmong?_element] at hupdate
      split at hupdate
      · cases hupdate
        exact without_element.mpr ⟨htag, hchange _ _ hchildren, hrest⟩
      · split at hupdate
        · rename_i found hfound
          cases hupdate
          exact without_element.mpr ⟨htag, ihChildren hchildren hfound, hrest⟩
        · simp only [Option.map_eq_some_iff, Prod.mk.injEq, Prod.exists] at hupdate
          obtain ⟨_, found, hfound, -, rfl⟩ := hupdate
          exact without_element.mpr ⟨htag, hchildren, ih hrest hfound⟩

theorem Without.removeAmong?_eq_none {nodes : List Node} (h : Without p nodes) :
    removeAmong? p nodes = none := by
  rw [← Option.not_isSome_iff_eq_none, isSome_removeAmong?, h]
  exact Bool.false_ne_true

theorem without_of_removeAmong?_eq_none {nodes : List Node} (h : removeAmong? p nodes = none) :
    Without p nodes := by
  rw [Without, ← isSome_removeAmong?, h]
  rfl

theorem Without.countP_eq_zero {nodes : List Node} (h : Without p nodes) :
    (tagsAmong nodes).countP p = 0 := by
  rw [List.countP_eq_zero]
  rwa [Without, List.any_eq_false] at h

theorem without_of_countP_eq_zero {nodes : List Node} (h : (tagsAmong nodes).countP p = 0) :
    Without p nodes := by
  rw [List.countP_eq_zero] at h
  rwa [Without, List.any_eq_false]

/-! ## Nodes put behind the children of an element -/

/-- Puts nodes behind the children that there are. -/
def adding (nodes : List Node) : List Text → List Node → Unit × List Node :=
  fun _ children => ((), children ++ nodes)

/-- Nodes are put behind the children of an element that `p` holds of. -/
inductive Added (p : Tag → Bool) (added : List Node) : List Node → List Node → Prop where
  | here {tag : Tag} (children rest : List Node) (h : p tag = true) :
      Added p added (.element tag children :: rest) (.element tag (children ++ added) :: rest)
  | inside (tag : Tag) {children found : List Node} (rest : List Node)
      (h : Added p added children found) :
      Added p added (.element tag children :: rest) (.element tag found :: rest)
  | after (node : Node) {rest found : List Node} (h : Added p added rest found) :
      Added p added (node :: rest) (node :: found)

theorem Added.append_right {added nodes changed : List Node} (h : Added p added nodes changed)
    (rest : List Node) : Added p added (nodes ++ rest) (changed ++ rest) := by
  induction h with
  | here children others h => exact .here children (others ++ rest) h
  | inside tag others h ih => exact .inside tag (others ++ rest) h
  | after node h ih => exact .after node ih

theorem Added.append_left {added nodes changed : List Node} (h : Added p added nodes changed)
    (before : List Node) : Added p added (before ++ nodes) (before ++ changed) := by
  induction before with
  | nil => exact h
  | cons node before ih => exact .after node ih

theorem added_of_updateAmong? {added nodes changed : List Node} {around : List Text} {u : Unit}
    (h : updateAmong? p (adding added) around nodes = some (u, changed)) :
    Added p added nodes changed := by
  induction nodes using forest generalizing around changed with
  | nil => simp at h
  | text kind content rest ih =>
      simp only [updateAmong?_text, Option.map_eq_some_iff, Prod.mk.injEq, Prod.exists] at h
      obtain ⟨_, found, hfound, -, rfl⟩ := h
      exact (ih hfound).after _
  | element tag children rest ihChildren ih =>
      rw [updateAmong?_element] at h
      by_cases htag : p tag = true
      · simp only [htag, if_true, adding, Option.some.injEq, Prod.mk.injEq] at h
        obtain ⟨-, rfl⟩ := h
        exact .here children rest htag
      · simp only [htag, Bool.false_eq_true, if_false] at h
        cases hfound : updateAmong? p (adding added) (tag.name :: around) children with
        | some found =>
            simp only [hfound, Option.some.injEq, Prod.mk.injEq] at h
            obtain ⟨-, rfl⟩ := h
            exact .inside tag rest (ihChildren hfound)
        | none =>
            simp only [hfound, Option.map_eq_some_iff, Prod.mk.injEq, Prod.exists] at h
            obtain ⟨_, found, hfound, -, rfl⟩ := h
            exact .after _ (ih hfound)

theorem Added.not_without {added nodes changed : List Node} (h : Added p added nodes changed) :
    ¬ Without p nodes := by
  intro hwithout
  induction h with
  | here children rest h =>
      rw [(without_element.mp hwithout).1] at h
      cases h
  | inside tag rest h ih => exact ih (without_element.mp hwithout).2.1
  | after node h ih => exact ih (without_append.mp (show Without p ([node] ++ _) from hwithout)).2

/-- The tags of the added nodes come to those that there were. -/
theorem Added.perm {added nodes changed : List Node} (h : Added p added nodes changed) :
    (tagsAmong changed).Perm (tagsAmong nodes ++ tagsAmong added) := by
  induction h with
  | here children rest h =>
      simp only [tagsAmong_element, tagsAmong_append, List.cons_append, List.append_assoc]
      exact (List.perm_append_comm.append_left _).cons _
  | inside tag rest h ih =>
      simp only [tagsAmong_element, List.cons_append]
      refine List.Perm.cons tag ((ih.append_right _).trans ?_)
      rw [List.append_assoc, List.append_assoc]
      exact List.perm_append_comm.append_left _
  | after node h ih =>
      simp only [tagsAmong, List.append_assoc]
      exact ih.append_left _

/-- What was not there before is found in the added nodes. -/
theorem Added.findAmong?_of_without {added nodes changed : List Node}
    (h : Added q added nodes changed) (hnone : Without p nodes) :
    findAmong? p changed = findAmong? p added := by
  induction h with
  | here children rest h =>
      obtain ⟨htag, hchildren, hrest⟩ := without_element.mp hnone
      rw [findAmong?_element, htag, findAmong?_append, hchildren.findAmong?_eq_none,
        hrest.findAmong?_eq_none]
      simp
  | inside tag rest h ih =>
      obtain ⟨htag, hchildren, hrest⟩ := without_element.mp hnone
      rw [findAmong?_element, htag, ih hchildren, hrest.findAmong?_eq_none]
      simp
  | after node h ih =>
      obtain ⟨hnode, hrest⟩ := without_append.mp (show Without p ([node] ++ _) from hnone)
      rw [← List.singleton_append, findAmong?_append, hnode.findAmong?_eq_none, ih hrest]
      rfl

/-- What was there before is found again, if nothing is added inside it. -/
theorem Added.findAmong?_of_some {added nodes changed : List Node}
    (h : Added q added nodes changed) (hadded : Without p added) {found : Node}
    (hfound : findAmong? p nodes = some found) (hoff : Without q [found]) :
    findAmong? p changed = some found := by
  induction h with
  | @here tag children rest h =>
      rw [findAmong?_element] at hfound ⊢
      by_cases htag : p tag = true
      · rw [if_pos htag, Option.some.injEq] at hfound
        subst hfound
        rw [(without_element.mp hoff).1] at h
        cases h
      · rw [if_neg htag] at hfound ⊢
        rw [findAmong?_append, hadded.findAmong?_eq_none, Option.or_none, hfound]
  | @inside tag children changed rest h ih =>
      rw [findAmong?_element] at hfound ⊢
      by_cases htag : p tag = true
      · rw [if_pos htag, Option.some.injEq] at hfound
        subst hfound
        exact absurd (without_element.mp hoff).2.1 h.not_without
      · rw [if_neg htag] at hfound ⊢
        cases hchildren : findAmong? p children with
        | some other =>
            rw [hchildren, Option.some_or, Option.some.injEq] at hfound
            subst hfound
            rw [ih hchildren]
            rfl
        | none =>
            rw [hchildren, Option.none_or] at hfound
            rw [h.findAmong?_of_without (without_of_findAmong?_eq_none hchildren),
              hadded.findAmong?_eq_none, Option.none_or, hfound]
  | after node h ih =>
      rw [← List.singleton_append, findAmong?_append] at hfound ⊢
      cases hnode : findAmong? p [node] with
      | some other =>
          rw [hnode] at hfound
          exact hfound
      | none =>
          rw [hnode, Option.none_or] at hfound
          rw [Option.none_or]
          exact ih hfound

/-! ## An element taken away -/

/-- An element that `p` holds of is taken away. -/
inductive Removed (p : Tag → Bool) : List Node → List Node → Prop where
  | here {tag : Tag} (children rest : List Node) (h : p tag = true) :
      Removed p (.element tag children :: rest) rest
  | inside (tag : Tag) {children found : List Node} (rest : List Node)
      (h : Removed p children found) :
      Removed p (.element tag children :: rest) (.element tag found :: rest)
  | after (node : Node) {rest found : List Node} (h : Removed p rest found) :
      Removed p (node :: rest) (node :: found)

theorem Removed.append_right {nodes changed : List Node} (h : Removed p nodes changed)
    (rest : List Node) : Removed p (nodes ++ rest) (changed ++ rest) := by
  induction h with
  | here children others h => exact .here children (others ++ rest) h
  | inside tag others h ih => exact .inside tag (others ++ rest) h
  | after node h ih => exact .after node ih

theorem Removed.append_left {nodes changed : List Node} (h : Removed p nodes changed)
    (before : List Node) : Removed p (before ++ nodes) (before ++ changed) := by
  induction before with
  | nil => exact h
  | cons node before ih => exact .after node ih

theorem removed_of_removeAmong? {nodes changed : List Node}
    (h : removeAmong? p nodes = some changed) : Removed p nodes changed := by
  induction nodes using forest generalizing changed with
  | nil => simp at h
  | text kind content rest ih =>
      simp only [removeAmong?_text, Option.map_eq_some_iff] at h
      obtain ⟨found, hfound, rfl⟩ := h
      exact (ih hfound).after _
  | element tag children rest ihChildren ih =>
      rw [removeAmong?_element] at h
      by_cases htag : p tag = true
      · rw [if_pos htag, Option.some.injEq] at h
        subst h
        exact .here children rest htag
      · rw [if_neg htag] at h
        cases hfound : removeAmong? p children with
        | some found =>
            simp only [hfound, Option.some.injEq] at h
            subst h
            exact .inside tag rest (ihChildren hfound)
        | none =>
            simp only [hfound, Option.map_eq_some_iff] at h
            obtain ⟨found, hfound, rfl⟩ := h
            exact .after _ (ih hfound)

/-- What is left was there before, or had the element that is taken away below it. -/
theorem Removed.exists_mem_elementsAmong {nodes changed : List Node} (h : Removed p nodes changed)
    {node : Node} (hmem : node ∈ elementsAmong changed) :
    ∃ before ∈ elementsAmong nodes, before = node ∨ Removed p [before] [node] := by
  induction h with
  | here children rest h =>
      refine ⟨node, ?_, .inl rfl⟩
      rw [elementsAmong_element]
      exact List.mem_cons_of_mem _ (List.mem_append_right _ hmem)
  | @inside tag children found rest h ih =>
      simp only [elementsAmong_element, List.mem_cons, List.mem_append] at hmem ⊢
      rcases hmem with rfl | hmem | hmem
      · exact ⟨_, .inl rfl, .inr (.inside tag [] h)⟩
      · obtain ⟨before, hbefore, hsame⟩ := ih hmem
        exact ⟨before, .inr (.inl hbefore), hsame⟩
      · exact ⟨node, .inr (.inr hmem), .inl rfl⟩
  | after other h ih =>
      simp only [elementsAmong_cons, List.mem_append] at hmem ⊢
      rcases hmem with hmem | hmem
      · exact ⟨node, .inl hmem, .inl rfl⟩
      · obtain ⟨before, hbefore, hsame⟩ := ih hmem
        exact ⟨before, .inr hbefore, hsame⟩

/-- From an element with nothing but a text none is taken away but the element itself. -/
theorem not_removed_of_text {tag : Tag} {kind : TextKind} {content : Text} {node : Node} :
    ¬ Removed p [.element tag [.text kind content]] [node] := by
  intro h
  cases h with
  | inside _ _ h =>
      cases h with
      | after _ h => cases h
  | after _ h => cases h

/-- The tags taken away are missing afterwards, and `p` holds of one of them. -/
theorem Removed.perm {nodes changed : List Node} (h : Removed p nodes changed) :
    ∃ removed, (∃ tag ∈ removed, p tag = true) ∧
      (tagsAmong nodes).Perm (removed ++ tagsAmong changed) := by
  induction h with
  | @here tag children rest h =>
      exact ⟨tag :: tagsAmong children, ⟨tag, List.mem_cons_self .., h⟩, by simp⟩
  | inside tag rest h ih =>
      obtain ⟨removed, hany, hperm⟩ := ih
      refine ⟨removed, hany, ?_⟩
      simp only [tagsAmong_element]
      refine ((hperm.append_right _).cons tag).trans ?_
      rw [List.append_assoc]
      exact List.perm_middle.symm
  | after node h ih =>
      obtain ⟨removed, hany, hperm⟩ := ih
      refine ⟨removed, hany, ?_⟩
      simp only [tagsAmong]
      refine (hperm.append_left _).trans ?_
      rw [← List.append_assoc, ← List.append_assoc]
      exact List.perm_append_comm.append_right _

/-- Nothing is left of an element that there was one of. -/
theorem Removed.without {nodes changed : List Node} (h : Removed p nodes changed)
    (hcount : (tagsAmong nodes).countP p ≤ 1) : Without p changed := by
  obtain ⟨removed, ⟨tag, hmem, htag⟩, hperm⟩ := h.perm
  have hpositive : 0 < removed.countP p := List.countP_pos_iff.mpr ⟨tag, hmem, htag⟩
  rw [hperm.countP_eq, List.countP_append] at hcount
  exact without_of_countP_eq_zero (by omega)

theorem Removed.countP_le {nodes changed : List Node} (h : Removed p nodes changed) :
    (tagsAmong changed).countP q ≤ (tagsAmong nodes).countP q := by
  obtain ⟨removed, -, hperm⟩ := h.perm
  rw [hperm.countP_eq, List.countP_append]
  omega

theorem Added.countP_eq {added nodes changed : List Node} (h : Added p added nodes changed) :
    (tagsAmong changed).countP q =
      (tagsAmong nodes).countP q + (tagsAmong added).countP q := by
  rw [h.perm.countP_eq, List.countP_append]

theorem Without.of_removed {nodes changed : List Node} (h : Without q nodes)
    (hremoved : Removed p nodes changed) : Without q changed :=
  without_of_countP_eq_zero (Nat.le_zero.mp (hremoved.countP_le.trans_eq h.countP_eq_zero))

theorem Without.of_added {added nodes changed : List Node} (h : Without q nodes)
    (hnone : Without q added) (hadded : Added p added nodes changed) : Without q changed := by
  apply without_of_countP_eq_zero
  rw [hadded.countP_eq, h.countP_eq_zero, hnone.countP_eq_zero]

/-! ## All elements of some kind taken away -/

mutual

/-- A node without all elements that `p` holds of, at any depth. -/
def prunedNode (p : Tag → Bool) : Node → List Node
  | .text kind content => [.text kind content]
  | .element tag children => if p tag then [] else [.element tag (pruned p children)]

/-- Several nodes without all elements that `p` holds of, at any depth. -/
def pruned (p : Tag → Bool) : List Node → List Node
  | [] => []
  | node :: rest => prunedNode p node ++ pruned p rest

end

@[simp] theorem pruned_nil : pruned p [] = [] := rfl

@[simp] theorem pruned_text (kind : TextKind) (content : Text) (rest : List Node) :
    pruned p (.text kind content :: rest) = .text kind content :: pruned p rest := rfl

theorem pruned_element (tag : Tag) (children rest : List Node) :
    pruned p (.element tag children :: rest) =
      if p tag then pruned p rest else .element tag (pruned p children) :: pruned p rest := by
  rw [pruned, prunedNode]
  split <;> rfl

theorem pruned_append (before after : List Node) :
    pruned p (before ++ after) = pruned p before ++ pruned p after := by
  induction before with
  | nil => rfl
  | cons node rest ih => simp [pruned, ih]

theorem Without.pruned_eq {nodes : List Node} (h : Without p nodes) : pruned p nodes = nodes := by
  induction nodes using forest with
  | nil => rfl
  | text kind content rest ih => rw [pruned_text, ih (without_text.mp h)]
  | element tag children rest ihChildren ih =>
      obtain ⟨htag, hchildren, hrest⟩ := without_element.mp h
      rw [pruned_element, htag, ihChildren hchildren, ih hrest]
      rfl

/-- Elements that are taken away leave no trace where they are put. -/
theorem Added.pruned_eq {added nodes changed : List Node} (h : Added q added nodes changed)
    (hadded : pruned p added = []) : pruned p changed = pruned p nodes := by
  induction h with
  | here children rest h => simp [pruned_element, pruned_append, hadded]
  | inside tag rest h ih => simp [pruned_element, ih]
  | @after node rest changed h ih =>
      rw [← List.singleton_append, pruned_append, ih, ← pruned_append]
      rfl

theorem Removed.pruned_eq {nodes changed : List Node} (h : Removed q nodes changed)
    (hle : ∀ tag, q tag = true → p tag = true) : pruned p changed = pruned p nodes := by
  induction h with
  | here children rest h => simp [pruned_element, hle _ h]
  | inside tag rest h ih => simp [pruned_element, ih]
  | @after node rest changed h ih =>
      rw [← List.singleton_append, pruned_append, ih, ← pruned_append]
      rfl

end PaperHtml.Html.Node

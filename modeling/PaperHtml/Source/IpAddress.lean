import PaperHtml.Text.Digits

/-!
# Numeric addresses of hosts

A host is named by four octets in decimal digits or by eight groups of
hexadecimal digits.  Two colons stand for one group or several, and the last two
groups may be written as four octets.
-/

namespace PaperHtml.Source

open Text

/-! ## Four octets -/

/-- An octet in decimal digits, without zeros in front of it. -/
def isOctet (t : Text) : Bool :=
  t ≠ [] && t.all Char.isDigit && t.length ≤ 3 && (t = ['0'] || t.head? ≠ some '0') &&
    numberIn 10 t ≤ 255

/-- An address of four octets. -/
def isIpv4 (t : Text) : Bool :=
  let octets := splitOn '.' t
  octets.length = 4 && octets.all isOctet

/-! ## Eight groups -/

/-- A group of up to four hexadecimal digits. -/
def isGroup (t : Text) : Bool := t ≠ [] && t.length ≤ 4 && t.all isHexDigit

/-- The number of groups that are written with colons between them; `last` tells that four
octets may stand at the end, for two groups. -/
def groups? (last : Bool) : List Text → Option Nat
  | [] => some 0
  | [part] =>
    if last && part.contains '.' then if isIpv4 part then some 2 else none
    else if isGroup part then some 1 else none
  | part :: parts => if isGroup part then (groups? last parts).map (· + 1) else none

/-- The number of groups in a text, which may be empty. -/
def groupsIn? (last : Bool) (t : Text) : Option Nat :=
  if t = [] then some 0 else groups? last (splitOn ':' t)

/-- Eight groups, or fewer with two colons for the others. -/
def isGrouped (t : Text) : Bool :=
  match cut? [':', ':'] t with
  | none => groupsIn? true t = some 8
  | some (before, after) =>
    match groupsIn? false before, groupsIn? true after with
    | some m, some n => m + n ≤ 7
    | _, _ => false

/-- An address of eight groups, with the name of a scope behind a percent sign if it has one. -/
def isIpv6 (t : Text) : Bool :=
  match cutChar? '%' t with
  | none => isGrouped t
  | some (address, scope) =>
    isGrouped address && scope ≠ [] && !scope.contains '%' && !scope.contains '/'

end PaperHtml.Source

import CycleLedger.Notice
import CycleLedger.Text.Blank
import CycleLedger.Text.Pieces

/-! # Filters

A filter is a list of directives between commas. A directive has an origin, a selector in brackets
and a level, such as `origin[{field}]=level`; each may be left out. It is about the notices whose
origin begins with its own and that have the field. Of the directives about a notice the most
specific decides: one with the longest origin, of equal origins one with a field, of two fields the
later in the order of texts, and of directives alike in both the last one written. A notice that no
directive is about is not shown.
-/

namespace CycleLedger.Notice

/--
An empty origin or field leaves it open. The least severe notices shown are those of rank `ceiling`;
a ceiling of zero shows none.
-/
structure Directive where
  origin : List Char
  field : List Char
  ceiling : Nat
deriving DecidableEq

namespace Directive

/-- The number that digits write, behind a plus sign or not. -/
def number? (level : List Char) : Option Nat :=
  let digits := if level.head? = some '+' then level.tail else level
  if digits.isEmpty || !digits.all Char.isDigit then none
  else some (digits.foldl (fun n c => 10 * n + (c.toNat - '0'.toNat)) 0)

/-- A level is named in any case, or given by its rank. -/
def ceiling? (level : List Char) : Option Nat :=
  match number? level with
  | some rank => if rank ≤ Severity.trace.rank then some rank else none
  | none => match String.ofList (level.map Char.toLower) with
    | "off" => some 0
    | "error" => some Severity.error.rank
    | "warn" => some Severity.warn.rank
    | "info" => some Severity.info.rank
    | "debug" => some Severity.debug.rank
    | "trace" => some Severity.trace.rank
    | _ => none

/-- Whether an origin may begin with the character. -/
def opens (c : Char) : Bool := c.isAlphanum || c == '_' || c == '-' || c == ':'

/-- The ceiling written behind an equals sign; an empty level shows all. -/
def ceilingAfter? : List Char → Option Nat
  | ['='] => some Severity.trace.rank
  | '=' :: level => ceiling? level
  | _ => none

/--
The field that a selector asks for, and the text behind it. The text starts after the opening
bracket. A selector may also name a scope or ask for the value of a field within one; a run opens no
scope, so such a selector selects no notice.
-/
def selector? : List Char → Option (List Char × List Char)
  | '{' :: text =>
    let field := text.takeWhile (· != '}')
    match text.dropWhile (· != '}') with
    | '}' :: ']' :: rest => if field.isEmpty || field.contains '=' then none else some (field, rest)
    | _ => none
  | _ => none

/--
Without a selector, a piece that has no level of its own is a level for all origins or else an
origin. An origin without a level is shown in full, also where only blanks follow its selector.
Pieces of any other form are left out.
-/
def ofPiece? (piece : List Char) : Option Directive :=
  let origin := piece.takeWhile fun c => c != '=' && c != '['
  let rest := piece.drop origin.length
  match origin.head?.map opens, rest with
  | some true, [] => match ceiling? origin with
    | some ceiling => some ⟨[], [], ceiling⟩
    | none => some ⟨origin, [], Severity.trace.rank⟩
  | some true, '=' :: _ => (ceilingAfter? rest).map (⟨origin, [], ·⟩)
  | some true, '[' :: text | none, '[' :: text => do
    let (field, rest) ← selector? text
    if rest.all Text.isBlank then some ⟨origin, field, Severity.trace.rank⟩
    else (ceilingAfter? rest).map (⟨origin, field, ·⟩)
  | _, _ => none

def isAbout (d : Directive) (n : Notice) : Bool :=
  d.origin.isPrefixOf n.origin.toList && (d.field.isEmpty || n.has (String.ofList d.field))

/-- Whether `d` goes before `other` about a notice that both are about, if it is written later. -/
def goesBefore (d other : Directive) : Bool :=
  match compare d.origin.length other.origin.length with
  | .lt => false
  | .gt => true
  | .eq => !d.field.lex other.field fun a b => a.toNat < b.toNat

end Directive

abbrev Filter := List Directive

namespace Filter

def ofText (text : String) : Filter :=
  (Text.pieces ',' text.toList).filterMap Directive.ofPiece?

/-- The directive that decides about a notice. -/
def directive? (filter : Filter) (n : Notice) : Option Directive :=
  filter.foldl (fun best? d => if d.isAbout n && best?.all d.goesBefore then some d else best?) none

def shows (filter : Filter) (n : Notice) : Bool :=
  (filter.directive? n).any (n.severity.rank ≤ ·.ceiling)

end Filter

end CycleLedger.Notice

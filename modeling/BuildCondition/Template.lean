import BuildCondition.Asking
import BuildCondition.Percent
import BuildCondition.Reference
import BuildCondition.Text.Blank
import BuildCondition.Text.Cut
import BuildCondition.Text.Letter

/-!
# Templates

A quoted text may hold references. It is taken apart once, before anything is looked up, so
that what is put in is never taken for a reference. A reference that is not closed is text like any
other. The escapes are resolved last, in the whole text and once, so that escaped text is never
taken for a reference either.
-/

namespace BuildCondition

open BuildCondition.Text

/-! ## §1  What a reference looks up -/

/-- Takes the body of an item list apart: the item type, and its transform and separator. The
type is a name; a hyphen that belongs to an arrow is not part of it. -/
def splitItems (body : List Char) : List Char × List Char :=
  let cs := trimStart body
  let length :=
    runLength (fun c after => isNameChar c && !(c == '-' && after.head? == some '>')) 0 cs
  (cs.take length, trimStart (cs.drop length))

/-- Takes the body of a metadata reference apart: the item, which may be missing, and the name. -/
def splitMetadata (body : List Char) : List Char × List Char :=
  match cutAt? '.' (trim body) with
  | some (item, name) => (trim item, trim name)
  | none => ([], trim body)

namespace Reference

/-- What a reference looks up. -/
def lookup (r : Reference) : Lookup :=
  match r.sigil with
  | .property => .property (String.ofList (trim r.body.toList))
  | .items =>
      let parts := splitItems r.body.toList
      .items (String.ofList parts.1) (String.ofList parts.2)
  | .metadata =>
      let parts := splitMetadata r.body.toList
      .metadata (String.ofList parts.1) (String.ofList parts.2)

/-- The text of a reference, its escapes resolved. -/
def fill (r : Reference) : Asking String :=
  (Asking.lookUp r.lookup).map fun raw => String.ofList (Percent.unescape raw.toList)

/-- How many characters a reference takes. -/
def width (r : Reference) : Nat :=
  r.body.length + 3

/-- The reference that a text starts with whose first character is `c`. -/
def startingWith? (c : Char) : List Char → Option Reference
  | '(' :: body =>
      (Sigil.ofChar? c).bind fun sigil =>
        (closing? (sigil = .items) false 0 0 body).map fun k =>
          ⟨sigil, String.ofList (body.take k)⟩
  | _ => none

end Reference

/-! ## §2  Templates -/

/-- A piece of a template. -/
inductive Piece where
  | char (c : Char)
  | reference (r : Reference)
  deriving DecidableEq

namespace Template

/-- The pieces of a text, behind those in `done` (which run backwards). The first `covered`
characters belong to the last of them. -/
def piecesFrom (done : List Piece) (covered : Nat) : List Char → List Piece
  | [] => done.reverse
  | c :: cs =>
      match covered with
      | covered + 1 => piecesFrom done covered cs
      | 0 =>
          match Reference.startingWith? c cs with
          | some r => piecesFrom (.reference r :: done) (r.width - 1) cs
          | none => piecesFrom (.char c :: done) 0 cs

/-- The pieces of a text. -/
def pieces (cs : List Char) : List Piece :=
  piecesFrom [] 0 cs

/-- The text of some pieces, escapes unresolved, reversed onto `done`. -/
def fillOnto (done : List Char) : List Piece → Asking (List Char)
  | [] => .ok done.reverse
  | .char c :: ps => fillOnto (c :: done) ps
  | .reference r :: ps =>
      (Asking.lookUp r.lookup).bind fun raw => fillOnto (raw.toList.reverseAux done) ps

/-- The text of a template: references replaced, then escapes resolved. -/
def fill (text : String) : Asking String :=
  (fillOnto [] (pieces text.toList)).map fun cs => String.ofList (Percent.unescape cs)

end Template

end BuildCondition

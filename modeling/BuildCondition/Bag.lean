import BuildCondition.Asking
import BuildCondition.Function
import BuildCondition.Text.Blank
import BuildCondition.Text.Cut
import BuildCondition.Text.Lowercase

/-!
# A state of the build in memory

Properties, items and metadata by name, and a table of functions. Names are told apart by their
lower case forms. The last value of a property or of metadata counts; items of one type add up,
in order.

An item list is written with what follows its type: a transform `->'template'`, in which
`%(Identity)` stands for the item, and a separator `, 'text'`, which is a semicolon if
nothing is said.
-/

namespace BuildCondition

open BuildCondition.Text

/-! ## §1  Transforms and separators -/

/-- A quoted text at the start and what follows it. Text without quotes is taken whole, and a
quote that is not closed reaches to the end. -/
def splitQuoted (cs : List Char) : List Char × List Char :=
  match cs with
  | '\'' :: inner => (cutAt? '\'' inner).getD (inner, [])
  | _ => (cs, [])

/-- What stands for the item in a transform, in small letters. -/
def identityMark : List Char :=
  ['%', '(', 'i', 'd', 'e', 'n', 't', 'i', 't', 'y', ')']

/-- Whether a text starts with the mark, whatever its ASCII case. -/
def startsWithMark (cs : List Char) : Bool :=
  (after? identityMark ((cs.take identityMark.length).map Char.toLower)).isSome

/-- Puts the item for its mark in `cs`. The first `covered` characters belong to the mark
before; what is done is in `done`, which runs backwards. -/
def putItemFrom (item done : List Char) (covered : Nat) : List Char → List Char
  | [] => done.reverse
  | c :: cs =>
      match covered with
      | covered + 1 => putItemFrom item done covered cs
      | 0 =>
          if startsWithMark (c :: cs) then
            putItemFrom item (item.reverseAux done) (identityMark.length - 1) cs
          else putItemFrom item (c :: done) 0 cs

/-- The text of a transform for one item. -/
def putItem (item template : List Char) : List Char :=
  putItemFrom item [] 0 template

/-- The transform that `rest` starts with, and what follows it. -/
def splitTransform (rest : List Char) : Option (List Char) × List Char :=
  match after? ['-', '>'] rest with
  | some behind =>
      let parts := splitQuoted (trimStart behind)
      (some parts.1, trim parts.2)
  | none => (none, rest)

/-- The separator that `rest` tells. -/
def separatorOf (rest : List Char) : List Char :=
  match rest with
  | ',' :: behind => (splitQuoted (trimStart behind)).1
  | _ => [';']

/-- The text of some items, with what follows the type of a list. -/
def listItems (items : List String) (rest : List Char) : String :=
  let parts := splitTransform (trim rest)
  let entries :=
    match parts.1 with
    | some template => items.map fun item => String.ofList (putItem item.toList template)
    | none => items
  String.intercalate (String.ofList (separatorOf parts.2)) entries

/-! ## §2  The state -/

/-- A state of the build. In each list the last entry comes first; names are in lower case. -/
structure Bag where
  properties : List (String × String)
  items : List (String × String)
  metadata : List (String × String)
  functions : FunctionTable

namespace Bag

/-- A state with nothing but functions. -/
def withFunctions (functions : FunctionTable) : Bag :=
  ⟨[], [], [], functions⟩

/-- A state with nothing but the functions that are always there. -/
def empty : Bag :=
  withFunctions FunctionTable.builtin

def setProperty (bag : Bag) (name value : String) : Bag :=
  { bag with properties := (lower name, value) :: bag.properties }

def addItem (bag : Bag) (type item : String) : Bag :=
  { bag with items := (lower type, item) :: bag.items }

/-- The key of metadata: the name, with the item and a point before it if there is an item. -/
def metadataKey (item name : String) : String :=
  if item = "" then lower name else lower item ++ "." ++ lower name

def setMetadata (bag : Bag) (item name value : String) : Bag :=
  { bag with metadata := (metadataKey item name, value) :: bag.metadata }

def register (bag : Bag) (name : String) (f : Function) : Bag :=
  { bag with functions := bag.functions.register name f }

/-- The value of a property; blanks around the name do not count. -/
def property? (bag : Bag) (name : String) : Option String :=
  bag.properties.lookup (lower (String.ofList (trim name.toList)))

/-- The items of a type, in the order in which they were added. -/
def itemsOf (bag : Bag) (type : String) : List String :=
  ((bag.items.filter fun entry => entry.1 == lower type).map Prod.snd).reverse

/-- The text of an item list; nothing if no item of the type was ever added. -/
def itemList? (bag : Bag) (type rest : String) : Option String :=
  match bag.itemsOf type with
  | [] => none
  | items => some (listItems items rest.toList)

/-- The value of metadata: that of the item, or else the unqualified one. -/
def metadata? (bag : Bag) (item name : String) : Option String :=
  (bag.metadata.lookup (metadataKey item name)).or (bag.metadata.lookup (metadataKey "" name))

/-- What a lookup finds. -/
def lookUp (bag : Bag) : Lookup → Option String
  | .property name => bag.property? name
  | .items type rest => bag.itemList? type rest
  | .metadata item name => bag.metadata? item name

/-- The answers of this state. -/
def state (bag : Bag) : BuildState
  | .lookup l => bag.lookUp l
  | .call name arguments => bag.functions.call name arguments

end Bag

end BuildCondition

import BuildCondition.Bag
import BuildCondition.Json

/-!
# States of the build in files

A state file is a JSON record of properties, items by type, and metadata. Metadata have the key
`Item.Name`, or only a name if they belong to no item.
-/

namespace BuildCondition.CommandLine

open BuildCondition.Text

/-- What a state file holds. -/
structure StateFile where
  properties : List (String × String)
  items : List (String × List String)
  metadata : List (String × String)
  deriving DecidableEq

namespace StateFile

/-- The names of the fields. -/
def fieldNames : List String := ["properties", "items", "metadata"]

/-- A field, empty if it is left out. -/
def field? {α : Type} (read : Json → Option (List α)) : Option Json → Option (List α)
  | none => some []
  | some j => read j

/-- The state that a JSON value describes. -/
def ofJson? (j : Json) : Option StateFile :=
  match Json.asRecord? fieldNames j with
  | some [properties?, items?, metadata?] => do
      let properties ← field? (Json.asMap? Json.asString?) properties?
      let items ← field? (Json.asMap? (Json.asList? Json.asString?)) items?
      let metadata ← field? (Json.asMap? Json.asString?) metadata?
      some ⟨properties, items, metadata⟩
  | _ => none

/-- Reads a state file. -/
def read? (text : String) : Option StateFile :=
  (Json.read? text).bind ofJson?

/-- Adds all items of one type. -/
def addItems (bag : Bag) (type : String) (items : List String) : Bag :=
  items.foldl (fun bag item => bag.addItem type item) bag

/-- The item and the name of a metadata key. -/
def splitKey (key : String) : String × String :=
  match cutAt? '.' key.toList with
  | some (item, name) => (String.ofList item, String.ofList name)
  | none => ("", key)

/-- Adds what the file holds to a state. -/
def addTo (file : StateFile) (bag : Bag) : Bag :=
  let bag := file.properties.foldl (fun bag p => bag.setProperty p.1 p.2) bag
  let bag := file.items.foldl (fun bag i => addItems bag i.1 i.2) bag
  file.metadata.foldl
    (fun bag m => bag.setMetadata (splitKey m.1).1 (splitKey m.1).2 m.2) bag

end StateFile

end BuildCondition.CommandLine

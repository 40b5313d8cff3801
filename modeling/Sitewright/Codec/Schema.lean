import Sitewright.Codec.Outline
import Sitewright.Json.Basic

/-!
# Schemas

The description of a kind of value that is handed to whoever writes configurations: a JSON schema.
A schema has the shape of the value itself and the definitions of all named shapes it mentions.
-/

namespace Sitewright

/-- The shape of a value. -/
inductive Shape where
  /-- A text. -/
  | text
  /-- A truth value. -/
  | truth
  /-- A natural number of a width. -/
  | natural (format : String)
  /-- A value that may be absent. -/
  | nullable (shape : Shape)
  /-- A list. -/
  | list (shape : Shape)
  /-- Texts under keys of any name. -/
  | dictionary (shape : Shape)
  /-- A shape that is defined by name. -/
  | named (name : String)

namespace Shape

/-- A reference to a definition. -/
def reference (name : String) : Json := .obj [("$ref", .str ("#/definitions/" ++ name))]

/-- The entries that describe a shape. -/
def entries : Shape → List (String × Json)
  | text => [("type", .str "string")]
  | truth => [("type", .str "boolean")]
  | natural format =>
    [("format", .str format), ("minimum", .num (.float (Binary64.zero false))),
      ("type", .str "integer")]
  | nullable (named name) =>
    [("anyOf", .arr [reference name, .obj [("type", .str "null")]])]
  | nullable shape =>
    shape.entries.map fun (key, value) =>
      if key = "type" then (key, .arr [value, .str "null"]) else (key, value)
  | list shape => [("items", .obj shape.entries), ("type", .str "array")]
  | dictionary shape => [("additionalProperties", .obj shape.entries), ("type", .str "object")]
  | named name => [("$ref", .str ("#/definitions/" ++ name))]

/-- The entries that describe a shape together with remarks on it. A reference cannot stand beside
remarks and is wrapped. -/
def remarked (remarks : List (String × Json)) : Shape → List (String × Json)
  | named name => if remarks.isEmpty then (named name).entries
      else ("allOf", .arr [reference name]) :: remarks
  | shape => shape.entries ++ remarks

end Shape

/-- What is said about one field of a record. -/
structure Member where
  /-- The key of the field. -/
  name : String
  /-- What the field means, if its name does not say it. -/
  about : String
  /-- The shape of its value. -/
  shape : Shape
  /-- What is looked for in its value. -/
  outline : Outline
  /-- The value it has when it is absent; a field without one is required. -/
  default : Option Json

namespace Member

/-- A description, unless it is empty. -/
def description (about : String) : List (String × Json) :=
  if about.isEmpty then [] else [("description", .str about)]

/-- The property a field is described by. -/
def property (member : Member) : String × Json :=
  (member.name, .obj (member.shape.remarked
    (description member.about ++ (member.default.map fun v => ("default", v)).toList)))

/-- The schema of a record with the given fields. -/
def recordSchema (about : String) (members : List Member) : Json :=
  let required := (members.filter fun m => m.default.isNone).map (·.name)
  let required := (Entries.sort (required.map fun name => (name, ()))).map (·.1)
  .obj (description about ++
    (if members.isEmpty then [] else [("properties", .obj (members.map property))]) ++
    (if required.isEmpty then [] else [("required", Json.ofTexts required)]) ++
    [("type", .str "object")])

end Member

/-- The schema of a kind of value: its shape, and the definitions it mentions. -/
structure Schema where
  /-- The shape of the value. -/
  shape : Shape
  /-- The named shapes that it mentions, each with its schema. -/
  definitions : List (String × Json)

end Sitewright

import XmlSchema.Data.Value
import XmlSchema.Xml.Tree

/-!
# Outlines of document trees

A structured value for every tree of nodes, and the tree of such a value.  Text
is a string; comments and elements are tables, told apart by their keys.
-/

namespace XmlSchema.Outline

open Data

/-- A list of values, missing when it is empty. -/
def some? (vs : List Value) : Option Value := if vs.isEmpty then none else some (.list vs)

/-- A text that may be missing. -/
def text? (s : Option String) : Option Value := s.map .string

/-- A truth value that is only told when it holds. -/
def flag? (b : Bool) : Option Value := if b then some (.bool true) else none

/-- A pair of texts. -/
def pair (p : String × String) : Value := .texts [p.1, p.2]

/-- The outline of an attribute. -/
def ofAttribute (a : Xml.Attribute) : Value :=
  .record [("local", some (.string a.name.localName)), ("ns", text? a.name.uri),
    ("prefix", text? a.name.pfx), ("value", some (.string a.value))]

mutual

/-- The outline of a node. -/
def ofNode : Xml.Node → Value
  | .text content => .string content
  | .comment content => .table [("comment", .string content)]
  | .element tag children =>
      .record [("tag", some (.string tag.name.localName)), ("ns", text? tag.name.uri),
        ("prefix", text? tag.name.pfx), ("decl", some? (tag.declared.toList.map pair)),
        ("attrs", some? (tag.attributes.map ofAttribute)), ("children", some? (ofNodes children))]

/-- The outlines of a list of nodes. -/
def ofNodes : List Xml.Node → List Value
  | [] => []
  | n :: rest => ofNode n :: ofNodes rest

end

/-- The outline of an element. -/
def ofElement (e : Xml.Element) : Value := ofNode (Xml.Node.ofElement e)

/-- The pair of texts that a list holds. -/
def toPair (v : Value) : String × String :=
  match v.items.map fun x => x.asString?.getD "" with
  | [a, b] => (a, b)
  | _ => ("", "")

/-- The pairs of texts in a list. -/
def toPairs (v : Value) (key : String) : List (String × String) := (v.itemsAt key).map toPair

/-- A name with the local part under a given key. -/
def toXmlName (v : Value) (key : String) : Xml.Name :=
  { uri := v.stringAt? "ns", localName := (v.stringAt? key).getD "", pfx := v.stringAt? "prefix" }

/-- The attribute of an outline. -/
def toAttribute (v : Value) : Xml.Attribute :=
  { name := toXmlName v "local", value := (v.stringAt? "value").getD "" }

/-- The node of an outline that is nested to a given depth at most. -/
def toNodeWithin : Nat → Value → Xml.Node
  | _, .string content => .text content
  | 0, _ => .text ""
  | fuel + 1, v =>
      match v.stringAt? "comment" with
      | some content => .comment content
      | none =>
          .element
            { name := toXmlName v "tag", declared := .ofList (toPairs v "decl")
              attributes := (v.itemsAt "attrs").map toAttribute }
            ((v.itemsAt "children").map (toNodeWithin fuel))

/-- The node of an outline. -/
def toNode (v : Value) : Xml.Node := toNodeWithin (v.depth + 1) v

/-- The element of an outline; an outline of something else gives an element
without a name. -/
def toElement (v : Value) : Xml.Element :=
  (toNode v).element?.getD { tag := { name := { localName := "" } } }

end XmlSchema.Outline

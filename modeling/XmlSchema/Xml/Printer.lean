import XmlSchema.Xml.Tree

/-!
# Written documents

A document is written as a declaration followed by its root element, either
on one line or with every tag and comment on a line of its own.  With an
indentation, a line break is left out directly after text, so that the text
of a document never changes.
-/

namespace XmlSchema.Xml

/-- The written form of one character inside text or an attribute value. -/
def escapeChar (c : Char) : List Char :=
  if c = '<' then "&lt;".toList
  else if c = '>' then "&gt;".toList
  else if c = '&' then "&amp;".toList
  else if c = '\'' then "&apos;".toList
  else if c = '"' then "&quot;".toList
  else [c]

/-- Text with the five markup characters written as references. -/
def escape (s : String) : String :=
  String.ofList (s.toList.flatMap escapeChar)

/-- The written form of one binding. -/
def printBinding (b : String × String) : String :=
  (if b.1.isEmpty then " xmlns" else " xmlns:" ++ b.1) ++ "=\"" ++ escape b.2 ++ "\""

/-- The written form of one attribute. -/
def printAttribute (a : Attribute) : String :=
  " " ++ a.name.lexical ++ "=\"" ++ escape a.value ++ "\""

/-- The name, declarations and attributes of a tag, as they stand between the
angle brackets. -/
def printTag (tag : Tag) : String :=
  tag.name.lexical ++ String.join (tag.declared.toList.map printBinding) ++
    String.join (tag.attributes.map printAttribute)

/-- The break before a tag or comment at a given depth. -/
def lineBreak (indent : Option Nat) (depth : Nat) : String :=
  match indent with
  | none => ""
  | some width => "\n" ++ String.ofList (List.replicate (depth * width) ' ')

mutual

/-- Write a node; `glued` says that text stands directly before it. -/
def printNode (indent : Option Nat) (depth : Nat) (glued : Bool) : Node → String
  | .text content => escape content
  | .comment content =>
      (if glued then "" else lineBreak indent depth) ++ "<!--" ++ content ++ "-->"
  | .element tag [] =>
      (if glued then "" else lineBreak indent depth) ++ "<" ++ printTag tag ++ "/>"
  | .element tag (child :: children) =>
      (if glued then "" else lineBreak indent depth) ++ "<" ++ printTag tag ++ ">" ++
        printNodes indent (depth + 1) false (child :: children) ++
        (match (child :: children).getLast? with
          | some (.text _) => ""
          | _ => lineBreak indent depth) ++
        "</" ++ tag.name.lexical ++ ">"

/-- Write a list of nodes. -/
def printNodes (indent : Option Nat) (depth : Nat) (glued : Bool) : List Node → String
  | [] => ""
  | node :: rest =>
      printNode indent depth glued node ++ printNodes indent depth node.text?.isSome rest

end

/-- The declaration at the head of a document. -/
def declaration : String := "<?xml version=\"1.0\" encoding=\"UTF-8\"?>"

/-- Write an element as a standalone document; without an indentation
everything is on one line. -/
def Element.print (e : Element) (indent : Option Nat) : String :=
  declaration ++ printNode indent 0 false (Node.ofElement e)

end XmlSchema.Xml

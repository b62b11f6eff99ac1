import XmlSchema.Proofs.Collection.Emission
import XmlSchema.Proofs.Document.Spelling
import XmlSchema.Proofs.Resolution.Operation

/-!
# What the prefixes of written documents mean

In a written document a name means the namespace that it has unless copied
markup that lies between the name and the root binds its prefix to another
one.  This can happen, because the prefix that a name of copied markup is given
on the root is chosen without regard to what the markup declares.

Texts that are copied into a written document, such as the paths of identity
constraints, go on using the prefixes of the source document.  The root of the
written document never binds such a prefix to another namespace.  It binds a
namespace that the document needs, to the first prefix that the source document
recorded for it; all other recorded prefixes are left unbound.
-/

namespace XmlSchema

namespace Collection

open Xml

variable {c : Collection} {policy : ForeignPolicy} {n : Nat} {recursive : Bool}

/-- The names of the document of a schema mean what they should, unless
declarations in copied markup come between. -/
theorem document_exact {s : Schema} {e : Element} (h : c.document policy s = .ok e) : e.Exact := by
  obtain ⟨t, hsound, hdeclared, -, hroot, hbelow⟩ := Writer.document_spelled _ h
  have hbound : e.bound = t.meaning := congrArg Meaning.outermost.enter hdeclared
  rw [← hbound] at hroot hbelow
  exact Element.exact_of_spelled (by rw [hbound, hsound.meaning_empty]) hroot hbelow

/-- Of whatever is written: each name of the root means its namespace, each
name below does so exactly when no declaration between it and the root shadows
its prefix, and a document as a whole is consistent exactly when nothing is
shadowed. -/
theorem written_consistent_iff {written : List WrittenSchema}
    (h : (c.write policy n recursive).1 = .ok written) (d : WrittenSchema) (hd : d ∈ written) :
    d.document.Exact ∧ (d.document.Consistent ↔ d.document.Unshadowed) := by
  obtain ⟨-, s, -, -, -, hs⟩ := schema_of_mem_write h hd
  exact ⟨document_exact hs, (document_exact hs).consistent_iff⟩

/-- The collection of a document with an attribute in markup that declares the
prefix under which the document knows the namespace of the attribute. -/
def shadowedAttribute : Collection :=
  Collection.empty.perform (.buildText ⟨.nothing, .keep⟩ {} "a.xsd"
    ("<xs:schema xmlns:xs=\"http://www.w3.org/2001/XMLSchema\" xmlns:p=\"urn:p\" " ++
      "xmlns:r=\"urn:p\"><xs:annotation><xs:appinfo><e xmlns:p=\"urn:q\" r:x=\"1\"/>" ++
      "</xs:appinfo></xs:annotation></xs:schema>"))

/-- The attribute is written as one of another namespace. -/
theorem written_shadowedAttribute :
    ∃ d, (shadowedAttribute.write .keep 1 false).1 = .ok [d] ∧ ¬ d.document.Consistent := by
  have hunshadowed : ((shadowedAttribute.write .keep 1 false).1.toOption.getD []).map
      (fun d => decide d.document.Unshadowed) = [false] := by decide +kernel
  cases hwrite : (shadowedAttribute.write .keep 1 false).1 with
  | error e =>
      rw [hwrite] at hunshadowed
      cases hunshadowed
  | ok written =>
      rw [hwrite] at hunshadowed
      obtain ⟨d, rfl, hd⟩ := List.map_eq_singleton_iff.1 hunshadowed
      refine ⟨d, rfl, fun hconsistent => ?_⟩
      have hiff := (written_consistent_iff hwrite d List.mem_cons_self).2
      exact of_decide_eq_false hd (hiff.1 hconsistent)

/-- The collection of a document that uses a prefix only in the path of a
selector. -/
def prefixInPath : Collection :=
  Collection.empty.perform (.buildText ⟨.nothing, .keep⟩ {} "a.xsd"
    ("<xs:schema xmlns:xs=\"http://www.w3.org/2001/XMLSchema\" xmlns:p=\"urn:p\">" ++
      "<xs:element name=\"e\"><xs:key name=\"k\"><xs:selector xpath=\"p:a\"/>" ++
      "<xs:field xpath=\"@b\"/></xs:key></xs:element></xs:schema>"))

end Collection

end XmlSchema

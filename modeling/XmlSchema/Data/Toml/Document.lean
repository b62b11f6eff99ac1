import XmlSchema.Data.Toml.Draft
import XmlSchema.Data.Toml.Quoted
import XmlSchema.Data.Toml.Word

/-!
# TOML documents

Reading a structured value in the TOML format.  A document is a sequence of
lines; a line opens a table or gives an entry of the table opened last, and may
end in a comment.
-/

namespace XmlSchema.Data.Toml

/-- How deeply lists and tables may be nested within an entry. -/
def maxNesting : Nat := 80

/-- Drop a comment. -/
def skipComment : List Char → List Char
  | '#' :: rest => rest.dropWhile fun c => !isControl c
  | cs => cs

/-- Drop blanks, comments and line ends. -/
def skipGaps : Nat → List Char → List Char
  | 0, cs => cs
  | fuel + 1, cs =>
      let cs := skipComment (skipSpaces cs)
      match afterLineEnd? cs with
      | some rest => skipGaps fuel rest
      | none => cs

/-- The rest behind the end of a line. -/
def endOfLine? (cs : List Char) : Option (List Char) :=
  match skipComment (skipSpaces cs) with
  | [] => some []
  | cs => afterLineEnd? cs

mutual

/-- A value at the front of a text, nested up to a limit. -/
def value? : Nat → Nat → List Char → Option (Value × List Char)
  | 0, _, _ => none
  | fuel + 1, nesting, cs =>
      match cs with
      | '"' :: _ => (string? cs).map fun (s, rest) => (.string (String.ofList s), rest)
      | '\'' :: _ => (string? cs).map fun (s, rest) => (.string (String.ofList s), rest)
      | '[' :: rest =>
          if nesting = 0 then none
          else (items? fuel (nesting - 1) [] rest).map fun (vs, rest) => (.list vs, rest)
      | '\x7b' :: rest =>
          if nesting = 0 then none
          else (entries? fuel (nesting - 1) [] rest).map fun (es, rest) =>
            (.table (entryValues es), rest)
      | cs =>
          let (word, rest) := splitWord cs
          (word? word).map fun v => (v, rest)

/-- The items of a list up to its closing bracket; the last may have a comma
behind it. -/
def items? : Nat → Nat → List Value → List Char → Option (List Value × List Char)
  | 0, _, _, _ => none
  | fuel + 1, nesting, done, cs =>
      match skipGaps cs.length cs with
      | ']' :: rest => some (done.reverse, rest)
      | cs =>
          match value? fuel nesting cs with
          | none => none
          | some (v, rest) =>
              match skipGaps rest.length rest with
              | ',' :: rest => items? fuel nesting (v :: done) rest
              | ']' :: rest => some ((v :: done).reverse, rest)
              | _ => none

/-- The entries of a table up to its closing brace; the last may have a comma
behind it, and lines may end anywhere but within a key. -/
def entries? : Nat → Nat → Drafts → List Char → Option (Drafts × List Char)
  | 0, _, _, _ => none
  | fuel + 1, nesting, done, cs =>
      match skipGaps cs.length cs with
      | '\x7d' :: rest => some (done, rest)
      | cs =>
          match key? cs with
          | none => none
          | some (path, key, rest) =>
              match skipGaps rest.length rest with
              | '=' :: rest =>
                  match value? fuel nesting (skipGaps rest.length rest) with
                  | none => none
                  | some (v, rest) =>
                      match done.insert? path key v with
                      | none => none
                      | some done =>
                          match skipGaps rest.length rest with
                          | ',' :: rest => entries? fuel nesting done rest
                          | '\x7d' :: rest => some (done, rest)
                          | _ => none
              | _ => none

end

/-- The tables of a document so far, and the way to the one opened last. -/
structure Page where
  tables : Drafts := []
  header : List String := []

/-- Read a line that is not empty; the answer has the rest behind its end. -/
def line? (page : Page) : List Char → Option (Page × List Char)
  | '[' :: '[' :: rest =>
      match key? rest with
      | some (path, key, ']' :: ']' :: rest) => do
          let tables ← page.tables.openSeries? path key
          return ({ tables, header := path ++ [key] }, ← endOfLine? rest)
      | _ => none
  | '[' :: rest =>
      match key? rest with
      | some (path, key, ']' :: rest) => do
          let tables ← page.tables.openTable? path key
          return ({ tables, header := path ++ [key] }, ← endOfLine? rest)
      | _ => none
  | cs =>
      match key? cs with
      | some (path, key, '=' :: rest) => do
          let (v, rest) ← value? (2 * rest.length + 2) maxNesting (skipSpaces rest)
          let tables ← page.tables.insertBelow? page.header path key v
          return ({ page with tables }, ← endOfLine? rest)
      | _ => none

/-- Read lines, one for each unit of fuel. -/
def lines? : Nat → Page → List Char → Option Page
  | 0, _, _ => none
  | fuel + 1, page, cs =>
      match skipGaps cs.length cs with
      | [] => some page
      | cs =>
          match line? page cs with
          | none => none
          | some (page, rest) => lines? fuel page rest

/-- Read a document. -/
def parse? (s : String) : Option Value :=
  let cs := match s.toList with
    | '\uFEFF' :: rest => rest
    | cs => cs
  (lines? (cs.length + 1) {} cs).map fun page => .table (entryValues page.tables)

end XmlSchema.Data.Toml

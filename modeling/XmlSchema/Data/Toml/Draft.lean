import XmlSchema.Data.Value

/-!
# Tables under construction

A TOML document builds its tables piece by piece.  What may still be added to a
table depends on how it came about, so a table under construction remembers its
origin.
-/

namespace XmlSchema.Data.Toml

/-- How a table came about: by a header of its own, on the way of a header to a
table below, or on the way of a key with dots. -/
inductive Origin where
  | header
  | passage
  | dotted
  deriving DecidableEq, Repr

/-- An entry under construction.  A finished value takes no more entries; of a
series of tables the last one does. -/
inductive Draft where
  | value (v : Value)
  | table (origin : Origin) (entries : List (String × Draft))
  | series (tables : List (List (String × Draft)))
  deriving Inhabited

/-- The entries of a table under construction. -/
abbrev Drafts := List (String × Draft)

mutual

/-- The value of a finished entry. -/
def Draft.toValue : Draft → Value
  | .value v => v
  | .table _ es => .table (entryValues es)
  | .series ts => .list (tableValues ts)

/-- The values of finished entries. -/
def entryValues : List (String × Draft) → List (String × Value)
  | [] => []
  | (key, d) :: rest => (key, d.toValue) :: entryValues rest

/-- The values of a finished series. -/
def tableValues : List (List (String × Draft)) → List Value
  | [] => []
  | t :: rest => .table (entryValues t) :: tableValues rest

end

namespace Drafts

/-- Put an entry in the place of the one with its key, or at the end. -/
def set (key : String) (d : Draft) : Drafts → Drafts
  | [] => [(key, d)]
  | e :: rest => if e.1 = key then (key, d) :: rest else e :: set key d rest

/-- Change the table at the end of a path.  Tables that are missing on the way
are made.  A key with dots goes only through tables that have no header. -/
def change? (byKey : Bool) (change : Option Origin → Drafts → Option Drafts) :
    Option Origin → List String → Drafts → Option Drafts
  | origin, [], es => change origin es
  | _, key :: path, es =>
      match es.lookup key with
      | none =>
          let origin := if byKey then Origin.dotted else .passage
          (change? byKey change (some origin) path []).map fun inner =>
            set key (.table origin inner) es
      | some (.table origin inner) =>
          if byKey && origin = .header then none
          else (change? byKey change (some origin) path inner).map fun inner =>
            set key (.table origin inner) es
      | some (.series ts) =>
          match ts.getLast? with
          | none => none
          | some inner =>
              (change? byKey change none path inner).map fun inner =>
                set key (.series (ts.dropLast ++ [inner])) es
      | some (.value _) => none

/-- Add an entry under a key, perhaps with dots.  The table at the end of the
dots must have come about by dots. -/
def insert? (path : List String) (key : String) (v : Value) (es : Drafts) : Option Drafts :=
  change? true (fun origin es =>
    if (!path.isEmpty && origin != some .dotted) || (es.lookup key).isSome then none
    else some (es ++ [(key, .value v)])) none path es

/-- Open a table by its header. -/
def openTable? (path : List String) (key : String) (es : Drafts) : Option Drafts :=
  change? false (fun _ es =>
    match es.lookup key with
    | none => some (es ++ [(key, .table .header [])])
    | some (.table .passage inner) => some (set key (.table .header inner) es)
    | some _ => none) none path es

/-- Open the next table of a series by its header. -/
def openSeries? (path : List String) (key : String) (es : Drafts) : Option Drafts :=
  change? false (fun _ es =>
    match es.lookup key with
    | none => some (es ++ [(key, .series [[]])])
    | some (.series ts) => some (set key (.series (ts ++ [[]])) es)
    | some _ => none) none path es

/-- Add an entry to the table that a header has opened. -/
def insertBelow? (header path : List String) (key : String) (v : Value) (es : Drafts) :
    Option Drafts :=
  change? false (fun _ es => insert? path key v es) none header es

end Drafts

end XmlSchema.Data.Toml

import NetReconcile.Json.Value

/-!
# TOML documents

A TOML document is a table of keys. Tables come about in four ways, and the way
decides what may be added to them later:

* a `[header]` defines a table once; the tables on the way to it are made implicitly,
  and an implicit table may still get its own header later;
* dotted keys (`a.b = 1`) make tables that only further dotted keys may extend;
* `[[header]]` appends a table to an array of tables, and keys and headers below that
  name then go to its last table;
* an inline table (`{ ... }`) is a value, complete as written.

A key is defined at most once. Going through a table defined by a header with dotted
keys, adding to an inline table or a plain array, and a header for a table defined in
another way are refused.

A document is read into JSON: tables become objects, arrays lists, numbers and text
stay what they are, every float becomes the same number (no configuration field takes
one), and a date or time becomes an object under a private key, so that it never
passes for text.
-/

namespace NetReconcile.Toml

open Json

/-- A value written in a TOML document. -/
inductive TomlValue where
  | str (s : String)
  | int (n : Int)
  | float
  | bool (b : Bool)
  | datetime (text : String)
  | array (items : List TomlValue)
  | table (fields : List (String × TomlValue))
  deriving Repr

/-- A node of a document being built. -/
inductive Node where
  /-- A value, complete as written. -/
  | leaf (v : TomlValue)
  /-- A table, made implicitly or by dotted keys, with its keys in order. -/
  | table (implicit dotted : Bool) (entries : List (String × Node))
  /-- An array of tables, the last one open. -/
  | tables (items : List (List (String × Node)))
  deriving Repr

/-- The entries of a table. -/
abbrev Entries := List (String × Node)

/-- A table reached while building: whether implicit, whether made by dotted keys, and
its entries. -/
abbrev Reached := Bool × Bool × Entries

/-- Replace the node under a key. -/
def replaceEntry (k : String) (n : Node) (es : Entries) : Entries :=
  es.map fun e => if e.1 = k then (k, n) else e

/-- Go down a path of keys from a table and change the table reached with `g`. Missing
tables are made implicitly (and marked as made by dotted keys when `dotted`); an array
of tables leads to its last table; with `dotted`, a table defined by a header may not be
gone through. -/
def within (dotted : Bool) (g : Reached → Option Reached) : List String → Reached → Option Reached
  | [], t => g t
  | k :: ks, (imp, dot, es) =>
    match es.find? (·.1 = k) with
    | none => do
      let (i, d, e) ← within dotted g ks (true, dotted, [])
      some (imp, dot, es ++ [(k, .table i d e)])
    | some (_, .leaf _) => none
    | some (_, .tables items) => do
      let last ← items.getLast?
      let (_, _, e) ← within dotted g ks (false, false, last)
      some (imp, dot, replaceEntry k (.tables (items.dropLast ++ [e])) es)
    | some (_, .table i d e) =>
      if dotted && !i then none
      else do
        let (i', d', e') ← within dotted g ks (i, d, e)
        some (imp, dot, replaceEntry k (.table i' d' e') es)

/-- Set a possibly dotted key to a value in a table. -/
def setKey (path : List String) (k : String) (v : TomlValue) : Reached → Option Reached :=
  within true (fun (imp, dot, es) =>
    if dot == path.isEmpty then none
    else if es.any (·.1 = k) then none
    else some (imp, dot, es ++ [(k, .leaf v)])) path

/-- Define the table a `[header]` names. -/
def openTable (path : List String) (last : String) : Reached → Option Reached :=
  within false (fun (imp, dot, es) =>
    match es.find? (·.1 = last) with
    | none => some (imp, dot, es ++ [(last, .table false false [])])
    | some (_, .table true false e) => some (imp, dot, replaceEntry last (.table false false e) es)
    | some _ => none) path

/-- Append a table to the array of tables a `[[header]]` names. -/
def appendTable (path : List String) (last : String) : Reached → Option Reached :=
  within false (fun (imp, dot, es) =>
    match es.find? (·.1 = last) with
    | none => some (imp, dot, es ++ [(last, .tables [[]])])
    | some (_, .tables items) => some (imp, dot, replaceEntry last (.tables (items ++ [[]])) es)
    | some _ => none) path

/-- Set a key in the table that the current header names. -/
def setKeyUnder (header : List String) (path : List String) (k : String) (v : TomlValue)
    (root : Reached) : Option Reached :=
  within false (setKey path k v) header root

mutual
/-- The value a node stands for. -/
def Node.value : Node → TomlValue
  | .leaf v => v
  | .table _ _ es => .table (entriesValue es)
  | .tables items => .array (itemsValue items)

/-- The values of a table's entries. -/
def entriesValue : Entries → List (String × TomlValue)
  | [] => []
  | (k, n) :: rest => (k, n.value) :: entriesValue rest

/-- The values of an array of tables. -/
def itemsValue : List Entries → List TomlValue
  | [] => []
  | es :: rest => .table (entriesValue es) :: itemsValue rest
end

/-- The private key under which a date or time is given. -/
def datetimeKey : String := "$__toml_private_datetime"

mutual
/-- The JSON form of a value. -/
def TomlValue.toJson : TomlValue → Value
  | .str s => .str s
  | .int n => Value.ofInt n
  | .float => .num (.float 0)
  | .bool b => .bool b
  | .datetime t => .obj [(datetimeKey, .str t)]
  | .array items => .arr (listJson items)
  | .table fields => .obj (fieldsJson fields)

/-- The JSON forms of values. -/
def listJson : List TomlValue → List Value
  | [] => []
  | v :: rest => v.toJson :: listJson rest

/-- The JSON forms of fields. -/
def fieldsJson : List (String × TomlValue) → List (String × Value)
  | [] => []
  | (k, v) :: rest => (k, v.toJson) :: fieldsJson rest
end

end NetReconcile.Toml

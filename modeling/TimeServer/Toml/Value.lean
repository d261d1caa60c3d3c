/-! # TOML values

A value as a document gives it.  A table remembers how it came about, because that decides whether
a later line may still add to it.

* `insert?` — adds one value under a key or a dotted key;
* `within?` — applies a change to the table that a header names.
-/

namespace TimeServer.Toml

inductive Origin
  | header
  /-- As a step on the way to a longer header. -/
  | implied
  /-- As a step of a dotted key. -/
  | dotted
  | inline
  deriving DecidableEq, Repr

inductive Value
  | string (text : String)
  | integer (n : Int)
  | float (text : String)
  | boolean (b : Bool)
  | datetime (text : String)
  | array (elements : List Value)
  | table (origin : Origin) (entries : List (String × Value))
  /-- Tables that were given one by one under the same header. -/
  | tables (elements : List (List (String × Value)))
  deriving Repr

abbrev Entries := List (String × Value)

namespace Entries

def replace (es : Entries) (key : String) (value : Value) : Entries :=
  es.map fun e => if e.1 = key then (key, value) else e

def changeLast? (change : Entries → Option Entries) (elements : List Entries) :
    Option (List Entries) := do
  return elements.dropLast ++ [← change (← elements.getLast?)]

/-- Adds a value under a key, after following a path of keys.  Tables that the path lacks are made
    on the way.  The path may go through tables that are steps of other headers or keys, but the
    table it ends in must be made by dotted keys alone; no key is given twice. -/
def insert? (key : String) (value : Value) : (path : List String) → Entries → Option Entries
  | [], es =>
    match es.lookup key with
    | some _ => none
    | none => some (es ++ [(key, value)])
  | step :: path, es =>
    match es.lookup step with
    | none => do return es ++ [(step, .table .dotted (← insert? key value path []))]
    | some (.table .dotted sub) =>
      do return es.replace step (.table .dotted (← insert? key value path sub))
    | some (.table .implied sub) =>
      if path = [] then none
      else do return es.replace step (.table .implied (← insert? key value path sub))
    | some (.tables elements) =>
      if path = [] then none
      else do
        return es.replace step (.tables (← changeLast? (insert? key value path) elements))
    | some _ => none

/-- Applies a change to the table that a header path leads to.  Tables that the path lacks are made
    on the way; of tables that share a header the path means the last. -/
def within? (change : Entries → Option Entries) : (path : List String) → Entries → Option Entries
  | [], es => change es
  | step :: path, es =>
    match es.lookup step with
    | none => do return es ++ [(step, .table .implied (← within? change path []))]
    | some (.table .inline _) => none
    | some (.table origin sub) =>
      do return es.replace step (.table origin (← within? change path sub))
    | some (.tables elements) =>
      do return es.replace step (.tables (← changeLast? (within? change path) elements))
    | some _ => none

/-- Opens a table by its header.  It may be known as a step on the way to another header, but not
    in any other way. -/
def openTable? (key : String) (es : Entries) : Option Entries :=
  match es.lookup key with
  | none => some (es ++ [(key, .table .header [])])
  | some (.table .implied sub) => some (es.replace key (.table .header sub))
  | some _ => none

def openElement? (key : String) (es : Entries) : Option Entries :=
  match es.lookup key with
  | none => some (es ++ [(key, .tables [[]])])
  | some (.tables elements) => some (es.replace key (.tables (elements ++ [[]])))
  | some _ => none

end Entries

end TimeServer.Toml

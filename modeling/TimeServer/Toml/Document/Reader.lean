import TimeServer.Toml.Value.Reader

/-! # Reading TOML documents

A document is a sequence of statements, each on its own lines: an entry, the header of a table, or
the header of one more table in a list.

* `readStatements` — the statements of a text;
* `Document.add?` — what a statement adds to the document;
* `parse?` — the entries of a whole text.
-/

namespace TimeServer.Toml

/-- A statement.  Each path is given by its steps and its last key. -/
inductive Statement
  | entry (path : List String) (key : String) (value : Value)
  | header (path : List String) (key : String)
  | element (path : List String) (key : String)
  deriving Repr

def readStatement : List Char → Option (Statement × List Char)
  | '[' :: '[' :: cs => do
    let ((path, key), cs) ← readPath cs
    match cs with
    | ']' :: ']' :: cs => return (.element path key, ← endLine cs)
    | _ => none
  | '[' :: cs => do
    let ((path, key), cs) ← readPath cs
    match cs with
    | ']' :: cs => return (.header path key, ← endLine cs)
    | _ => none
  | cs => do
    let ((path, key), cs) ← readPath cs
    match cs with
    | '=' :: cs =>
      let (value, cs) ← readValue maxDepth (skipBlanks cs)
      return (.entry path key value, ← endLine cs)
    | _ => none

def readStatements : (limit : Nat) → List Char → Option (List Statement)
  | 0, _ => none
  | limit + 1, cs =>
    match skipBlanks cs with
    | [] => some []
    | '\n' :: cs => readStatements limit cs
    | '#' :: cs => do readStatements limit (← endLine ('#' :: cs))
    | cs => do
      let (statement, cs) ← readStatement cs
      return statement :: (← readStatements limit cs)

/-- A document under construction: its entries, and the path of the table that is open. -/
structure Document where
  entries : Entries := []
  path : List String := []
  deriving Repr

namespace Document

def add? (d : Document) : Statement → Option Document
  | .entry path key value => do
    return { d with entries := ← d.entries.within? (Entries.insert? key value path) d.path }
  | .header path key => do
    return ⟨← d.entries.within? (Entries.openTable? key) path, path ++ [key]⟩
  | .element path key => do
    return ⟨← d.entries.within? (Entries.openElement? key) path, path ++ [key]⟩

end Document

def dropMark : List Char → List Char
  | '\uFEFF' :: cs => cs
  | cs => cs

def parseChars? (cs : List Char) : Option Entries := do
  let cs := unifyLineEnds (dropMark cs)
  let statements ← readStatements (cs.length + 1) cs
  return (← statements.foldlM Document.add? {}).entries

def parse? (text : String) : Option Entries := parseChars? text.toList

end TimeServer.Toml

import TimeServer.Toml.Text.Reader

/-! # TOML keys

A key is a run of plain characters or a string of one line; keys joined by points make a path.
-/

namespace TimeServer.Toml

def isPlain (c : Char) : Bool := c.isAlphanum || c = '-' || c = '_'

def readKey : List Char → Option (String × List Char)
  | '"' :: cs => do
    let (key, cs) ← readBasic false .off cs
    return (String.ofList key, cs)
  | '\'' :: cs => do
    let (key, cs) ← readLiteral false cs
    return (String.ofList key, cs)
  | cs =>
    let key := cs.takeWhile isPlain
    if key = [] then none else some (String.ofList key, cs.dropWhile isPlain)

def readKeys : (limit : Nat) → List Char → Option (List String × List Char)
  | 0, _ => none
  | limit + 1, cs => do
    let (key, cs) ← readKey (skipBlanks cs)
    match skipBlanks cs with
    | '.' :: cs =>
      let (keys, cs) ← readKeys limit cs
      return (key :: keys, cs)
    | cs => return ([key], cs)

def maxPath : Nat := 79

/-- Reads a path of keys: the steps to its last key, and that key. -/
def readPath (cs : List Char) : Option ((List String × String) × List Char) := do
  let (keys, cs) ← readKeys maxPath cs
  return ((keys.dropLast, ← keys.getLast?), cs)

end TimeServer.Toml

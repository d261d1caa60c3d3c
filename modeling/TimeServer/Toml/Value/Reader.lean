import TimeServer.Toml.Datetime
import TimeServer.Toml.Key
import TimeServer.Toml.Number
import TimeServer.Toml.Value

/-! # Reading TOML values

* `scalar?` — the value that a run of characters without quotes and brackets denotes;
* `readElements`, `readEntries` — what stands in brackets and in braces;
* `readValue` — any value, nested to a limited depth.
-/

namespace TimeServer.Toml

def isBare (c : Char) : Bool :=
  c.isAlphanum || c = '+' || c = '-' || c = '.' || c = ':' || c = '_'

def scalar? (cs : List Char) : Option Value :=
  if cs = ['t', 'r', 'u', 'e'] then some (.boolean true)
  else if cs = ['f', 'a', 'l', 's', 'e'] then some (.boolean false)
  else if isTime cs ∨ isDateTime cs then some (.datetime (String.ofList cs))
  else if isFloat cs then some (.float (String.ofList cs))
  else (integer? cs).map .integer

/-- Reads a value without quotes and brackets.  One blank may stand between a date and a time. -/
def readScalar (cs : List Char) : Option (Value × List Char) :=
  let run := cs.takeWhile isBare
  let rest := cs.dropWhile isBare
  if isDate run then
    let time := (rest.drop 1).takeWhile isBare
    if rest.head? = some ' ' ∧ time ≠ [] then
      if isZonedTime time then
        some (.datetime (String.ofList (run ++ ' ' :: time)), (rest.drop 1).dropWhile isBare)
      else none
    else some (.datetime (String.ofList run), rest)
  else (scalar? run).map fun value => (value, rest)

def readElements (readValue : List Char → Option (Value × List Char)) :
    (limit : Nat) → List Char → Option (List Value × List Char)
  | 0, _ => none
  | limit + 1, cs =>
    match skipLayout false cs with
    | ']' :: cs => some ([], cs)
    | cs => do
      let (value, cs) ← readValue cs
      match skipLayout false cs with
      | ']' :: cs => return ([value], cs)
      | ',' :: cs =>
        let (values, cs) ← readElements readValue limit cs
        return (value :: values, cs)
      | _ => none

/-- Reads at most so many entries of a table in braces, from behind its opening brace or a comma,
    and adds them to entries. -/
def readEntries (readValue : List Char → Option (Value × List Char)) :
    (limit : Nat) → Entries → List Char → Option (Entries × List Char)
  | 0, _, _ => none
  | limit + 1, es, cs => do
    let ((path, key), cs) ← readPath cs
    match cs with
    | '=' :: cs =>
      let (value, cs) ← readValue (skipBlanks cs)
      let es ← es.insert? key value path
      match skipBlanks cs with
      | '}' :: cs => return (es, cs)
      | ',' :: cs => readEntries readValue limit es cs
      | _ => none
    | _ => none

def readValue : (depth : Nat) → List Char → Option (Value × List Char)
  | 0, '[' :: _ => none
  | 0, '{' :: _ => none
  | depth + 1, '[' :: cs => do
    let (values, cs) ← readElements (readValue depth) (cs.length + 1) cs
    return (.array values, cs)
  | depth + 1, '{' :: cs =>
    match skipBlanks cs with
    | '}' :: cs => some (.table .inline [], cs)
    | cs => do
      let (es, cs) ← readEntries (readValue depth) (cs.length + 1) [] cs
      return (.table .inline es, cs)
  | _, '"' :: cs => do
    let (text, cs) ← readString ('"' :: cs)
    return (.string (String.ofList text), cs)
  | _, '\'' :: cs => do
    let (text, cs) ← readString ('\'' :: cs)
    return (.string (String.ofList text), cs)
  | _, cs => readScalar cs

def maxDepth : Nat := 79

end TimeServer.Toml

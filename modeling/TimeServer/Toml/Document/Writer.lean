import TimeServer.Text.Decimal
import TimeServer.Toml.Text.Writer
import TimeServer.Toml.Value

/-! # Writing TOML documents

A document of sections, each with a header and plain entries.  Sections are one blank line apart;
the elements of an array stand on lines of their own if there are two or more.
-/

namespace TimeServer.Toml

open TimeServer.Text

inductive Field
  | text (text : String)
  | number (n : Nat)
  | flag (b : Bool)
  | texts (texts : List String)
  deriving DecidableEq, Repr

namespace Field

def writeTexts : List String → List Char
  | [] => ['[', ']']
  | [t] => ['['] ++ writeString t.toList ++ [']']
  | ts =>
    ['[', '\n'] ++
      (ts.flatMap fun t => "    ".toList ++ writeString t.toList ++ [',', '\n']) ++ [']']

def write : Field → List Char
  | text t => writeString t.toList
  | number n => Decimal.digits n
  | flag b => if b then "true".toList else "false".toList
  | texts ts => writeTexts ts

/-- Whether the value can be written: numbers are read as signed words. -/
def isWritable : Field → Bool
  | number n => n ≤ Int64.maxValue.toInt
  | _ => true

end Field

structure Section where
  name : String
  fields : List (String × Field)
  deriving DecidableEq, Repr

namespace Section

def write (s : Section) : List Char :=
  ['['] ++ s.name.toList ++ [']', '\n'] ++
    s.fields.flatMap fun (key, field) => key.toList ++ [' ', '=', ' '] ++ field.write ++ ['\n']

end Section

/-- The characters of a document; `none` if it holds a number that cannot be written. -/
def writeSections? (sections : List Section) : Option (List Char) :=
  if sections.all fun s => s.fields.all (·.2.isWritable) then
    some ((sections.map Section.write).intersperse ['\n']).flatten
  else none

end TimeServer.Toml

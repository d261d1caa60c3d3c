import TimeServer.Text.Digit
import TimeServer.Toml.Layout

/-! # Writing strings

Of the four forms of a string the first is taken that needs no escape: basic, literal, and the two
over several lines.  A text that needs escapes in every form is written in a basic one, over
several lines if it has a line end.

* `Form.ofChars` — the form that is taken;
* `escapeChar`, `escape` — the characters of a basic string;
* `writeString` — the whole string.
-/

namespace TimeServer.Toml

open TimeServer.Text

/-- The length of the longest run of a character, if so many of them stand in front of the text. -/
def longestRun (quote : Char) : (before : Nat) → List Char → Nat
  | before, [] => before
  | before, c :: cs =>
    if c = quote then longestRun quote (before + 1) cs else max before (longestRun quote 0 cs)

/-- Whether a character can only be written as an escape: a control character other than tab and
    line end. -/
def isHidden (c : Char) : Bool := !isText c && c ≠ '\n'

inductive Form
  | basic
  | literal
  | basicLines
  | literalLines
  deriving DecidableEq, Repr

namespace Form

def ofChars (cs : List Char) : Form :=
  if cs.any isHidden then if '\n' ∈ cs then basicLines else basic
  else if '\\' ∉ cs ∧ '"' ∉ cs ∧ '\n' ∉ cs then basic
  else if '\'' ∉ cs ∧ '\n' ∉ cs then literal
  else if '\\' ∉ cs ∧ longestRun '"' 0 cs ≤ 2 then basicLines
  else if longestRun '\'' 0 cs ≤ 2 then literalLines
  else if '\n' ∈ cs then basicLines
  else basic

def quotes : Form → List Char
  | basic => ['"']
  | literal => ['\'']
  | basicLines => ['"', '"', '"']
  | literalLines => ['\'', '\'', '\'']

end Form

def numbered (c : Char) : List Char :=
  ['\\', 'u', '0', '0', Digit.upper (c.toNat / 16), Digit.upper (c.toNat % 16)]

def escapeChar (multiline : Bool) (c : Char) : List Char :=
  if c = '\\' then ['\\', '\\']
  else if c = '\x08' then ['\\', 'b']
  else if c = '\t' then ['\\', 't']
  else if c = '\n' then if multiline then ['\n'] else ['\\', 'n']
  else if c = '\x0c' then ['\\', 'f']
  else if c = '\r' then ['\\', 'r']
  else if isText c then [c]
  else numbered c

/-- The characters of a basic string that stand for a text.  Over several lines, line ends stand
    for themselves and so do quotes, of which every third in a row is escaped; `run` of them stand
    in front. -/
def escape (multiline : Bool) : (run : Nat) → List Char → List Char
  | _, [] => []
  | run, c :: cs =>
    if c = '"' then
      if multiline ∧ run < 2 then '"' :: escape multiline (run + 1) cs
      else '\\' :: '"' :: escape multiline 0 cs
    else escapeChar multiline c ++ escape multiline 0 cs

/-- The characters between the quotes.  A text with line ends begins on a line of its own. -/
def writeBody (form : Form) (cs : List Char) : List Char :=
  let start := if '\n' ∈ cs then ['\n'] else []
  match form with
  | .basic => escape false 0 cs
  | .literal => cs
  | .basicLines => start ++ escape true 0 cs
  | .literalLines => start ++ cs

def writeString (cs : List Char) : List Char :=
  let form := Form.ofChars cs
  form.quotes ++ writeBody form cs ++ form.quotes

end TimeServer.Toml

import TimeServer.Text.Digit
import TimeServer.Toml.Layout

/-! # Reading strings

A string stands between quotes.  In double quotes a backslash begins an escape, in single quotes
every character stands for itself.  Three quotes open a string that may run over several lines.

* `readBasic` — the rest of a string in double quotes;
* `readLiteral` — the rest of a string in single quotes;
* `readString` — a string of any of the four forms.
-/

namespace TimeServer.Toml

open TimeServer.Text

def numbered? (digits : List Char) : Option Char :=
  let n := Digit.number 16 digits
  if digits.all (Digit.isDigit 16) ∧ n.isValidChar then some (Char.ofNat n) else none

def escaped? : Char → Option Char
  | '"' => some '"'
  | '\\' => some '\\'
  | 'b' => some '\x08'
  | 't' => some '\t'
  | 'n' => some '\n'
  | 'f' => some '\x0c'
  | 'r' => some '\r'
  | _ => none

inductive Folding
  | off
  /-- Blanks are dropped, and a line end must follow them. -/
  | begun
  | on
  deriving DecidableEq, Repr

def push (c : Char) : Option (List Char × List Char) → Option (List Char × List Char)
  | some (cs, rest) => some (c :: cs, rest)
  | none => none

/-- Ends a string over several lines, of which up to two quotes before the closing ones are part. -/
def closeQuotes (quote : Char) : List Char → List Char × List Char
  | c :: d :: cs =>
    if c = quote then if d = quote then ([quote, quote], cs) else ([quote], d :: cs)
    else ([], c :: d :: cs)
  | [c] => if c = quote then ([quote], []) else ([], [c])
  | [] => ([], [])

/-- Reads a string in double quotes from behind its opening quotes: its characters, and what
    follows its closing quotes. -/
def readBasic (multiline : Bool) : Folding → List Char → Option (List Char × List Char)
  | _, [] => none
  | folding, c :: cs =>
    if folding ≠ .off ∧ isBlank c then readBasic multiline folding cs
    else if folding ≠ .off ∧ c = '\n' then readBasic multiline .on cs
    else if folding = .begun then none
    else if c = '"' then
      if multiline then
        match cs with
        | '"' :: '"' :: rest => some (closeQuotes '"' rest)
        | _ => push '"' (readBasic multiline .off cs)
      else some ([], cs)
    else if c = '\\' then
      match cs with
      | 'u' :: c₁ :: c₂ :: c₃ :: c₄ :: cs => do
        push (← numbered? [c₁, c₂, c₃, c₄]) (readBasic multiline .off cs)
      | 'U' :: c₁ :: c₂ :: c₃ :: c₄ :: c₅ :: c₆ :: c₇ :: c₈ :: cs => do
        push (← numbered? [c₁, c₂, c₃, c₄, c₅, c₆, c₇, c₈]) (readBasic multiline .off cs)
      | c :: cs =>
        match escaped? c with
        | some c => push c (readBasic multiline .off cs)
        | none =>
          if multiline then
            if isBlank c then readBasic multiline .begun cs
            else if c = '\n' then readBasic multiline .on cs
            else none
          else none
      | [] => none
    else if isText c ∨ (multiline ∧ c = '\n') then push c (readBasic multiline .off cs)
    else none

def readLiteral (multiline : Bool) : List Char → Option (List Char × List Char)
  | [] => none
  | c :: cs =>
    if c = '\'' then
      if multiline then
        match cs with
        | '\'' :: '\'' :: rest => some (closeQuotes '\'' rest)
        | _ => push '\'' (readLiteral multiline cs)
      else some ([], cs)
    else if isText c ∨ (multiline ∧ c = '\n') then push c (readLiteral multiline cs)
    else none

def dropLineEnd : List Char → List Char
  | '\n' :: cs => cs
  | cs => cs

def readLine : List Char → Option (List Char × List Char)
  | '"' :: cs => readBasic false .off cs
  | '\'' :: cs => readLiteral false cs
  | _ => none

def readString : List Char → Option (List Char × List Char)
  | '"' :: '"' :: '"' :: cs => readBasic true .off (dropLineEnd cs)
  | '\'' :: '\'' :: '\'' :: cs => readLiteral true (dropLineEnd cs)
  | cs => readLine cs

end TimeServer.Toml

/-! # Layout of TOML text

Blanks, comments and line ends, over lists of characters.  A document is read after its line ends
were made equal, so a carriage return that is left over stands alone, which no rule allows.

* `unifyLineEnds` — turns the two-character line end into the one-character one;
* `skipBlanks`, `endLine`, `skipLayout` — what may stand between the parts of a document.
-/

namespace TimeServer.Toml

/-- The text with `\r\n` turned into `\n`. -/
def unifyLineEnds : List Char → List Char
  | '\r' :: '\n' :: cs => '\n' :: unifyLineEnds cs
  | c :: cs => c :: unifyLineEnds cs
  | [] => []

theorem unifyLineEnds_of_notMem {cs : List Char} (h : '\r' ∉ cs) : unifyLineEnds cs = cs := by
  fun_induction unifyLineEnds cs with
  | case1 cs ih => simp at h
  | case2 c cs _ ih => rw [ih (List.not_mem_of_not_mem_cons h)]
  | case3 => rfl

def isBlank (c : Char) : Bool := c = ' ' || c = '\t'

/-- Whether a character may stand in comments and strings as it is: anything but a control
    character, of which the tab is allowed. -/
def isText (c : Char) : Bool := c = '\t' || (0x20 ≤ c.toNat && c.toNat ≠ 0x7F)

def skipBlanks (cs : List Char) : List Char := cs.dropWhile isBlank

/-- Passes over the rest of a line, which may hold blanks and a comment; `none` if it holds
    anything else. -/
def endLine (cs : List Char) : Option (List Char) :=
  let rest :=
    match skipBlanks cs with
    | '#' :: cs => cs.dropWhile isText
    | cs => cs
  match rest with
  | [] => some []
  | '\n' :: cs => some cs
  | _ => none

/-- Passes over blanks, line ends and comments.  A comment that does not end with its line stops
    it. -/
def skipLayout (inComment : Bool) : List Char → List Char
  | [] => []
  | c :: cs =>
    if c = '\n' then skipLayout false cs
    else if inComment then if isText c then skipLayout true cs else c :: cs
    else if isBlank c then skipLayout false cs
    else if c = '#' then skipLayout true cs
    else c :: cs

end TimeServer.Toml

import TimeServer.Log.Level
import TimeServer.Text.Blank
import TimeServer.Text.Split

/-! # Log filters

Which records a log keeps, told by directives that are separated by commas.  A directive gives a
threshold, a target, or both as `target=threshold`; it applies to records whose target begins with
its own.

* `Directive.ofChars?` — reads one directive;
* `Filter.parse` — reads a filter, leaving out what is no directive;
* `Filter.allows` — which records are kept.
-/

namespace TimeServer.Log

open TimeServer.Text

structure Directive where
  /-- What the target of a record must begin with. -/
  target : List Char := []
  threshold : Threshold
  /-- Whether it only concerns records inside a named part of the program. -/
  isScoped : Bool := false
  deriving DecidableEq, Repr

namespace Directive

/-- Whether a directive may begin with a character.  Beyond ASCII all characters are taken for
    letters. -/
def canBegin (c : Char) : Bool :=
  c.isAlphanum || c = '-' || c = ':' || c = '_' || 0x80 ≤ c.toNat

/-- The threshold behind the sign that assigns one; if it is missing, everything passes. -/
def assigned? : List Char → Option Threshold
  | [] => some (some .trace)
  | '=' :: [] => some (some .trace)
  | '=' :: cs => Threshold.ofChars? cs
  | _ => none

def ofChars? (cs : List Char) : Option Directive :=
  let cs := trim cs
  let isName (c : Char) : Bool := c ≠ '=' && c ≠ '['
  let name := cs.takeWhile isName
  match name, cs.dropWhile isName with
  | [], '[' :: rest => scoped? [] rest
  | c :: name, rest =>
    if canBegin c then
      match rest with
      | [] =>
        match Threshold.ofChars? (c :: name) with
        | some threshold => some { threshold }
        | none => some { target := c :: name, threshold := some .trace }
      | '[' :: rest => scoped? (c :: name) rest
      | rest => (assigned? rest).map fun threshold => { target := c :: name, threshold }
    else none
  | [], _ => none
where
  scoped? (target rest : List Char) : Option Directive :=
    match rest.dropWhile (· ≠ ']') with
    | ']' :: rest => (assigned? rest).map fun threshold => { target, threshold, isScoped := true }
    | _ => none

def concerns (d : Directive) (target : List Char) : Bool :=
  !d.isScoped && d.target.isPrefixOf target

end Directive

structure Filter where
  directives : List Directive
  deriving DecidableEq, Repr

namespace Filter

/-- The filter that a text describes.  Parts that are no directives are left out; without any
    directive errors alone are kept. -/
def ofChars (cs : List Char) : Filter :=
  match ((splitAtMark ',' cs).filter (· ≠ [])).filterMap Directive.ofChars? with
  | [] => ⟨[{ threshold := some .error }]⟩
  | directives => ⟨directives⟩

/-- Of two directives the one that counts: the one with the longer target, else the later one. -/
def prefer (d e : Directive) : Directive := if e.target.length < d.target.length then d else e

def deciding? (f : Filter) (target : List Char) : Option Directive :=
  (f.directives.filter (·.concerns target)).foldl
    (fun best d =>
      match best with
      | none => some d
      | some e => some (prefer e d)) none

def allows (f : Filter) (target : String) (level : Level) : Bool :=
  match f.deciding? target.toList with
  | some d => d.threshold.allows level
  | none => false

end Filter

/-- The directive that a configured level stands for: without white space around it and with its
    ASCII letters in lower case. -/
def levelDirective (level : String) : String :=
  String.ofList ((trim level.toList).map Char.toLower)

def Filter.ofLevel (level : String) : Filter := .ofChars (levelDirective level).toList

end TimeServer.Log

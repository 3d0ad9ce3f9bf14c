/-
# Choosing what is printed of the log

A filter is a list of directives and perhaps a pattern.  A directive names the most
detailed level to be printed, for the parts of the program whose names begin with its
target, or for all.  Of the directives that concern a part the one with the longest
target counts.  Of the events that the directives allow, those are printed whose
message fits the pattern somewhere.

Directives are written as `level`, `target=level` or `target`, with commas between
them; the pattern follows behind a slash.  A target alone asks for all levels.  Later
directives replace earlier ones for the same target, and words that make no directive
or no pattern are skipped.
-/

import LuaBundler.Log
import LuaBundler.Text.Pattern.Reader

namespace LuaBundler
namespace Log

/-- What to print for a target; the level `none` prints nothing. -/
structure Directive where
  target : Option String
  level : Option Level
  deriving DecidableEq, Repr

/-- What is printed of the log. -/
structure Filter where
  /-- At most one directive for each target. -/
  directives : List Directive
  /-- Messages have to fit it. -/
  pattern : Option Text.Pattern := none

/-- The most detailed level that a word asks for, whatever its capitals. -/
def levelOfWord? (s : List Char) : Option (Option Level) :=
  match String.ofList (s.map Char.toLower) with
  | "off" => some none
  | "error" => some (some .error)
  | "warn" => some (some .warn)
  | "info" => some (some .info)
  | "debug" => some (some .debug)
  | "trace" => some (some .trace)
  | _ => none

/-- The directive that a piece between two commas stands for. -/
def Directive.ofPiece? (piece : List Char) : Option Directive :=
  match (Text.trim piece).splitOn '=' with
  | [word] =>
    if word = [] then none
    else match levelOfWord? word with
      | some level => some ⟨none, level⟩
      | none => some ⟨some (String.ofList word), some .trace⟩
  | [target, word] =>
    match Text.trim word with
    | [] => some ⟨some (String.ofList target), some .trace⟩
    | word => (levelOfWord? word).map fun level => ⟨some (String.ofList target), level⟩
  | _ => none

namespace Filter

/-- The directives with one more, in place of the one for the same target. -/
def add (ds : List Directive) (d : Directive) : List Directive :=
  if ds.any (·.target = d.target) then ds.map fun e => if e.target = d.target then d else e
  else ds ++ [d]

/-- The directives with the ones that a text describes. -/
def addDirectives (ds : List Directive) (s : List Char) : List Directive :=
  ((s.splitOn ',').filterMap Directive.ofPiece?).foldl add ds

/-- The filter with what a text describes.  A second slash makes the text void. -/
def addText (f : Filter) (s : String) : Filter :=
  match s.toList.splitOn '/' with
  | [ds] => { f with directives := addDirectives f.directives ds }
  | [ds, p] => ⟨addDirectives f.directives ds, Text.Pattern.ofText? p⟩
  | _ => f

/-- The length of the target of a directive that concerns a part of the program. -/
def reach? (part : Part) (d : Directive) : Option Nat :=
  match d.target with
  | none => some 0
  | some t => if t.toList.isPrefixOf part.target.toList then some t.length else none

/-- The directive that counts for a part of the program. -/
def deciding? (f : Filter) (part : Part) : Option Directive :=
  f.directives.foldl (fun best d =>
    match reach? part d, best.bind (reach? part) with
    | some n, some m => if m ≤ n then some d else best
    | some _, none => some d
    | none, _ => best) none

/-- Events of this level from this part of the program are printed. -/
def allows (f : Filter) (part : Part) (level : Level) : Bool :=
  match f.deciding? part with
  | some ⟨_, some most⟩ => level.rank ≤ most.rank
  | _ => false

/-- The message fits the pattern. -/
def fits (f : Filter) (message : String) : Bool :=
  match f.pattern with
  | none => true
  | some p => p.occursIn message.toList

/-- The filter of a program that was asked for more detail `verbosity` times, where
the environment may ask for something else. -/
def ofVerbosity (verbosity : Nat) (environment : Option String) : Filter :=
  let level : Level := match verbosity with
    | 0 => .warn
    | 1 => .info
    | 2 => .debug
    | _ => .trace
  let base : Filter := { directives := [⟨none, some level⟩] }
  match environment with
  | some s => base.addText s
  | none => base

/-- The events that are printed, of a log. -/
def select (f : Filter) (log : List Event) : List Event :=
  log.filter fun e => f.allows e.part e.level && f.fits e.message

end Filter
end Log
end LuaBundler

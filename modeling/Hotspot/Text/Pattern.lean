import Hotspot.Text.Ranges

namespace Hotspot.Text

/-! Regular expressions with numbered groups and references back to them, matched by
backtracking. -/

inductive Pattern where
  | start
  /-- The end of the text, or a line feed that ends it. -/
  | finish
  | oneOf (ranges : Ranges)
  | optional (body : Pattern)
  | andThen (first second : Pattern)
  | times (count : Nat) (body : Pattern)
  | group (number : Nat) (body : Pattern)
  | sameAs (number : Nat)

/-- How far a text has been matched, and what each group last held. -/
structure Matching where
  front : List Char
  rest : List Char
  groups : List (Nat × List Char) := []

def Matching.advance (matching : Matching) (read : List Char) : Matching :=
  { matching with
    front := matching.front ++ read
    rest := matching.rest.drop read.length }

def Matching.hold (matching : Matching) (number : Nat) (held : List Char) : Matching :=
  { matching with groups := (number, held) :: matching.groups }

namespace Pattern

/-- Every way to go on with a match, those that are tried first in front. -/
def run : Pattern → Matching → List Matching
  | .start, before => if before.front = [] then [before] else []
  | .finish, before => if before.rest = [] ∨ before.rest = ['\n'] then [before] else []
  | .oneOf ranges, before =>
    match before.rest with
    | character :: _ => if ranges.contains character then [before.advance [character]] else []
    | [] => []
  | .optional body, before => body.run before ++ [before]
  | .andThen first second, before => (first.run before).flatMap second.run
  | .times count body, before => Nat.repeat (List.flatMap body.run) count [before]
  | .group number body, before =>
    (body.run before).map fun after =>
      after.hold number (after.front.drop before.front.length)
  | .sameAs number, before =>
    match before.groups.lookup number with
    | some held => if held.isPrefixOf before.rest then [before.advance held] else []
    | none => []

def isMatchedBy (pattern : Pattern) (text : List Char) : Bool :=
  !(pattern.run { front := [], rest := text }).isEmpty

end Pattern

end Hotspot.Text

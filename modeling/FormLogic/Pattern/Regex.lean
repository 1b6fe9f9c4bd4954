import FormLogic.Pattern.CharClass
import FormLogic.Pattern.Property.Trait

/-!
# Regular expressions and what they match

A text of `n` characters has `n + 1` places.  A set of places is a list in ascending order, and
`Regex.ends` sends the places where a match may begin to the places where it can end.  A text
matches when some place is reached from the set of all.

Because a set of places is all that is carried along, alternation is union, sequence is
composition, and repetition is a search that goes on only from places not seen before; no
order among the ways to match is needed to answer yes or no.
-/

namespace FormLogic.Pattern

open Text (CharSet)

/-! ## 1. Expressions -/

/-- **A condition on a place** that consumes nothing.  The conditions on words and lines say
what counts as a word character, and whether a carriage return belongs to a line end. -/
inductive Look where
  | textStart
  | textEnd
  | lineStart (crlf : Bool)
  | lineEnd (crlf : Bool)
  | wordBoundary (word : CharClass)
  | notWordBoundary (word : CharClass)
  | wordStart (word : CharClass)
  | wordEnd (word : CharClass)
  | wordStartHalf (word : CharClass)
  | wordEndHalf (word : CharClass)
deriving Repr, Inhabited

/-- **A regular expression.** -/
inductive Regex where
  | empty
  | one (chars : CharClass)
  | look (condition : Look)
  | seq (a b : Regex)
  | alt (a b : Regex)
  /-- At least `least` and at most `most` times, where `none` is no bound. -/
  | times (a : Regex) (least : Nat) (most : Option Nat)
deriving Repr, Inhabited

/-! ## 2. Places -/

/-- **A place in a text**: its index, the character before it and the text after it. -/
structure Place where
  index : Nat
  before : Option Char
  rest : List Char
deriving DecidableEq, Repr

namespace Place

/-- The character after the place. -/
def after (p : Place) : Option Char := p.rest.head?

/-- The next place, when the character between is in the class. -/
def advance? (chars : CharClass) (p : Place) : Option Place :=
  match p.rest with
  | c :: cs => if chars.has c then some ⟨p.index + 1, some c, cs⟩ else none
  | [] => none

/-- The places from one on. -/
def onwards (index : Nat) (before : Option Char) : List Char → List Place
  | [] => [⟨index, before, []⟩]
  | c :: cs => ⟨index, before, c :: cs⟩ :: onwards (index + 1) (some c) cs

/-- All places of a text. -/
def all (text : List Char) : List Place := onwards 0 none text

/-- The union of two sets of places, by merging. -/
def join (ps qs : List Place) : List Place :=
  match ps, qs with
  | [], qs => qs
  | ps, [] => ps
  | p :: ps, q :: qs =>
    if p.index < q.index then p :: join ps (q :: qs)
    else if q.index < p.index then q :: join (p :: ps) qs
    else p :: join ps qs
termination_by ps.length + qs.length

/-- The places of the first set that are not in the second. -/
def without (ps qs : List Place) : List Place :=
  match ps, qs with
  | [], _ => []
  | ps, [] => ps
  | p :: ps, q :: qs =>
    if p.index < q.index then p :: without ps (q :: qs)
    else if q.index < p.index then without (p :: ps) qs
    else without ps qs
termination_by ps.length + qs.length

end Place

/-- Whether a condition holds at a place. -/
def Look.holds (condition : Look) (p : Place) : Bool :=
  let word (set : CharClass) (c : Option Char) : Bool := c.any set.has
  match condition with
  | textStart => p.before.isNone
  | textEnd => p.after.isNone
  | lineStart false => p.before.isNone || p.before == some '\n'
  | lineStart true =>
    p.before.isNone || p.before == some '\n' || (p.before == some '\r' && p.after != some '\n')
  | lineEnd false => p.after.isNone || p.after == some '\n'
  | lineEnd true =>
    p.after.isNone || p.after == some '\r' || (p.after == some '\n' && p.before != some '\r')
  | wordBoundary set => word set p.before != word set p.after
  | notWordBoundary set => word set p.before == word set p.after
  | wordStart set => !word set p.before && word set p.after
  | wordEnd set => word set p.before && !word set p.after
  | wordStartHalf set => !word set p.before
  | wordEndHalf set => !word set p.after

/-! ## 3. Matching -/

/-- What is reached by exactly `n` steps.  A set that a step leaves as it is stays so. -/
def exactly (step : List Place → List Place) : Nat → List Place → List Place
  | 0, ps => ps
  | n + 1, ps =>
    let next := step ps
    if next.map Place.index = ps.map Place.index then ps else exactly step n next

/-- What is reached from `seen` when up to `n` more steps are taken from the places on its
`front`.  The search ends when a step leads to no new place. -/
def explore (step : List Place → List Place) : Nat → List Place → List Place → List Place
  | 0, seen, _ => seen
  | n + 1, seen, front =>
    match Place.without (step front) seen with
    | [] => seen
    | front => explore step n (Place.join seen front) front

namespace Regex

/-- **The places where a match can end** that begins at one of the given places, in a text
with `size` places. -/
def ends (size : Nat) : Regex → List Place → List Place
  | empty, ps => ps
  | one chars, ps => ps.filterMap (Place.advance? chars)
  | look condition, ps => ps.filter condition.holds
  | seq a b, ps => b.ends size (a.ends size ps)
  | alt a b, ps => Place.join (a.ends size ps) (b.ends size ps)
  | times a least most, ps =>
    let start := exactly (a.ends size) least ps
    explore (a.ends size) ((most.map (· - least)).getD size) start start

/-- Whether the expression matches some stretch of the text. -/
def occursIn (r : Regex) (text : List Char) : Bool :=
  !(r.ends (text.length + 1) (Place.all text)).isEmpty

/-! ## 4. Size -/

/-- An estimate, in bytes, of the automaton for an expression: a repetition is written out as
many times as it may have to be counted. -/
def weight : Regex → Nat
  | empty => 0
  | one chars => 32 + 28 * (chars.rangeCount - 1)
  | look _ => 32
  | seq a b => a.weight + b.weight
  | alt a b => a.weight + b.weight + 32
  | times a least most => (a.weight + 32) * (most.getD (least + 1))

/-- The largest automaton that is built. -/
def maxWeight : Nat := 10 * 1024 * 1024

end Regex

end FormLogic.Pattern

import JsonRules.Json.Basic
import JsonRules.Selector.Basic

namespace JsonRules

namespace Segment

def children : Segment → Json → List Json
  | key k, .object members => (members.lookup k).toList
  | index n, .array items => items[n]?.toList
  | wildcard, .array items => items
  | wildcard, .object members => members.map (·.2)
  | _, _ => []

/-- Whether the segment fits a value: the key or index exists, or there is something to fan out
over, which may be empty. -/
def fits : Segment → Json → Bool
  | wildcard, .array _ => true
  | wildcard, .object _ => true
  | wildcard, _ => false
  | segment, v => !(segment.children v).isEmpty

end Segment

/-- The values that a path leads to, and whether all its segments fitted. -/
structure Resolution where
  values : List Json
  complete : Bool

namespace Selector

/-- Follows the segments from several values at once. -/
def follow : List Segment → List Json → Bool → Resolution
  | [], values, complete => ⟨values, complete⟩
  | segment :: rest, values, complete =>
    let next := values.flatMap segment.children
    if next.isEmpty then ⟨[], false⟩ else follow rest next (complete && values.all segment.fits)

def locate (s : Selector) (document : Json) : Resolution :=
  follow s.segments [document] true

end Selector

end JsonRules

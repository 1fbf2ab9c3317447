import CollectionArchive.Text.Utf8

/-!
# Patterns of paths

A pattern stands for a set of paths, which it matches byte by byte.

* `Glob.Part`: what a pattern is made of.
* `Glob.matchesAll`: whether a whole path matches.
-/

namespace CollectionArchive

namespace Glob

/-- A part of a pattern. -/
inductive Part where
  | literal (b : UInt8)
  /-- One byte other than a slash. -/
  | any
  /-- Any bytes other than slashes. -/
  | star
  /-- Nothing, or whole directories. -/
  | leading
  /-- A slash and anything after it. -/
  | trailing
  /-- A slash, and whole directories after it. -/
  | between
  /-- One byte in one of the ranges, or in none. -/
  | set (negated : Bool) (ranges : List (UInt8 × UInt8))
  | choice (branches : List (List Part))

/-- The byte between the names in a path. -/
def slash : UInt8 := 47

/-- What may follow a part of a path. -/
abbrev Goal := Bytes → Bool

/-- Whether the goal is met after any number of bytes other than slashes. -/
def afterName (goal : Goal) : Bytes → Bool
  | [] => goal []
  | b :: bs => goal (b :: bs) || (b != slash && afterName goal bs)

/-- Whether the goal is met after any bytes. -/
def afterAny (goal : Goal) : Bytes → Bool
  | [] => goal []
  | b :: bs => goal (b :: bs) || afterAny goal bs

/-- Whether the goal is met after a slash anywhere. -/
def afterSlash (goal : Goal) : Bytes → Bool
  | [] => false
  | b :: bs => (b == slash && goal bs) || afterSlash goal bs

/-- Whether the first byte is as asked and the goal is met after it. -/
def afterByte (accepts : UInt8 → Bool) (goal : Goal) : Bytes → Bool
  | [] => false
  | b :: bs => accepts b && goal bs

/-- Whether a byte is in one of the ranges. -/
def inRanges (ranges : List (UInt8 × UInt8)) (b : UInt8) : Bool :=
  ranges.any fun r => r.1 ≤ b && b ≤ r.2

mutual

/-- Whether a part stands for the empty text only. -/
def Part.isVoid : Part → Bool
  | .choice branches => allVoid branches
  | _ => false

def isVoid : List Part → Bool
  | [] => true
  | p :: ps => p.isVoid && isVoid ps

def allVoid : List (List Part) → Bool
  | [] => true
  | ps :: rest => isVoid ps && allVoid rest

end

mutual

/-- Whether the path starts with something that the part stands for, and the goal is met after
it. -/
def Part.matches : Part → Goal → Bytes → Bool
  | .literal c, goal, bs => afterByte (· == c) goal bs
  | .any, goal, bs => afterByte (· != slash) goal bs
  | .star, goal, bs => afterName goal bs
  | .leading, goal, bs => goal bs || afterSlash goal bs
  | .trailing, goal, bs => afterByte (· == slash) (afterAny goal) bs
  | .between, goal, bs => afterByte (· == slash) (fun rest => goal rest || afterSlash goal rest) bs
  | .set negated ranges, goal, bs => afterByte (fun b => inRanges ranges b != negated) goal bs
  | .choice branches, goal, bs =>
    if allVoid branches then goal bs else branchesMatch branches goal bs

/-- Parts in a row. -/
def partsMatch : List Part → Goal → Bytes → Bool
  | [], goal, bs => goal bs
  | p :: ps, goal, bs => p.matches (partsMatch ps goal) bs

/-- One of several branches; those that are empty do not count. -/
def branchesMatch : List (List Part) → Goal → Bytes → Bool
  | [], _, _ => false
  | ps :: rest, goal, bs => (!isVoid ps && partsMatch ps goal bs) || branchesMatch rest goal bs

end

/-- Whether a whole path matches. Nothing but whole directories stands for every path. -/
def matchesAll (parts : List Part) (path : Bytes) : Bool :=
  match parts with
  | [.leading] => true
  | _ => partsMatch parts List.isEmpty path

end Glob

end CollectionArchive

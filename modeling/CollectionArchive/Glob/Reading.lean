import CollectionArchive.Glob.Basic

/-!
# Reading patterns

A pattern is read in two steps: into symbols, and from these into parts. A fault among the symbols
counts only if the parts before it are sound.

* `Glob.parse`: the parts of a pattern.
* `Glob.Fault`: what is wrong with a text that is no pattern.
-/

namespace CollectionArchive.Glob

/-- What is wrong with a pattern. -/
inductive Fault where
  | unclosedSet
  | invalidRange (first last : Char)
  | unclosedChoice
  | unopenedChoice
  | danglingEscape
deriving DecidableEq

/-- The wording of a fault. -/
def Fault.message : Fault → String
  | unclosedSet => "unclosed character class; missing ']'"
  | invalidRange first last =>
    "invalid range; '" ++ String.singleton first ++ "' > '" ++ String.singleton last ++ "'"
  | unclosedChoice =>
    "unclosed alternate group; missing '\x7d' (maybe escape '\x7b' with '[\x7b]'?)"
  | unopenedChoice =>
    "unopened alternate group; missing '\x7b' (maybe escape '\x7d' with '[\x7d]'?)"
  | danglingEscape => "dangling '\\'"

/-! ## Symbols -/

/-- A symbol of a pattern. -/
inductive Symbol where
  | plain (c : Char)
  /-- A character after a backslash. -/
  | escaped (c : Char)
  | any
  | star
  | set (negated : Bool) (ranges : List (Char × Char))
  | opening
  | closing
  | comma

/-- Where the reader of a set stands: whether it has read any character, whether a hyphen just made
the last one the start of a range, and the ranges, the last one first. -/
structure SetProgress where
  started : Bool
  inRange : Bool
  ranges : List (Char × Char)

namespace SetProgress

/-- A character of its own, or the end of the range that has started. -/
def push (p : SetProgress) (c : Char) : Except Fault SetProgress :=
  match p.inRange, p.ranges with
  | true, (first, _) :: rest =>
    if c < first then .error (.invalidRange first c) else .ok ⟨true, false, (first, c) :: rest⟩
  | _, ranges => .ok ⟨true, false, (c, c) :: ranges⟩

/-- A hyphen: a character of its own at the start and at the end of a range, else it starts one. -/
def hyphen (p : SetProgress) : Except Fault SetProgress :=
  if p.started && !p.inRange then .ok { p with inRange := true } else p.push '-'

/-- The ranges of a set that ends. A hyphen at the end is a character of its own. -/
def finish (p : SetProgress) : List (Char × Char) :=
  (if p.inRange then ('-', '-') :: p.ranges else p.ranges).reverse

end SetProgress

/-- The ranges of a set, and what follows its closing bracket. -/
def readSet (p : SetProgress) : List Char → Except Fault (List (Char × Char) × List Char)
  | [] => .error .unclosedSet
  | c :: cs =>
    if c == ']' && p.started then .ok (p.finish, cs)
    else
      match if c == '-' then p.hyphen else p.push c with
      | .ok q => readSet q cs
      | .error f => .error f

theorem length_lt_of_readSet {cs rest : List Char} {ranges : List (Char × Char)} :
    ∀ {p : SetProgress}, readSet p cs = .ok (ranges, rest) → rest.length < cs.length := by
  induction cs with
  | nil => intro p h; simp [readSet] at h
  | cons c cs ih =>
    intro p h
    simp only [readSet] at h
    split at h
    · simp only [Except.ok.injEq, Prod.mk.injEq] at h
      simp [h.2]
    · split at h
      · have := ih h
        simp only [List.length_cons]
        omega
      · simp at h

/-- The sign that a set is one of all other bytes, and what follows it. -/
def splitNegation : List Char → Bool × List Char
  | '!' :: cs => (true, cs)
  | '^' :: cs => (true, cs)
  | cs => (false, cs)

theorem length_splitNegation (cs : List Char) : (splitNegation cs).2.length ≤ cs.length := by
  unfold splitNegation
  split <;> simp

/-- The symbols of a pattern, up to the first fault among them. -/
def symbols (cs : List Char) : List Symbol × Option Fault :=
  match cs with
  | [] => ([], none)
  | '\\' :: [] => ([], some .danglingEscape)
  | '\\' :: c :: rest => cons (.escaped c) (symbols rest)
  | '[' :: rest =>
    match _h : readSet ⟨false, false, []⟩ (splitNegation rest).2 with
    | .error f => ([], some f)
    | .ok (ranges, after) => cons (.set (splitNegation rest).1 ranges) (symbols after)
  | '?' :: rest => cons .any (symbols rest)
  | '*' :: rest => cons .star (symbols rest)
  | '\x7b' :: rest => cons .opening (symbols rest)
  | '\x7d' :: rest => cons .closing (symbols rest)
  | ',' :: rest => cons .comma (symbols rest)
  | c :: rest => cons (.plain c) (symbols rest)
termination_by cs.length
decreasing_by
  all_goals simp only [List.length_cons]
  all_goals try omega
  have := length_lt_of_readSet _h
  have := length_splitNegation rest
  omega
where
  /-- A symbol before others. -/
  cons (s : Symbol) (more : List Symbol × Option Fault) : List Symbol × Option Fault :=
    (s :: more.1, more.2)

/-! ## Parts -/

/-- The bytes of a range of characters. Between two characters of several bytes the range is one of
the bytes that meet. -/
def rangeBytes (r : Char × Char) : List (UInt8 × UInt8) :=
  let single (bs : Bytes) := bs.map fun b => (b, b)
  let first := String.utf8EncodeChar r.1
  let last := String.utf8EncodeChar r.2
  if r.1 == r.2 then single first
  else
    match first.getLast?, last with
    | some a, b :: rest => single first.dropLast ++ (a, b) :: single rest
    | _, _ => []

/-- A choice that is still open: the parts before it and its branches so far, the last ones
first. -/
structure Pending where
  outer : List Part
  branches : List (List Part)

/-- Where the reader stands: the parts since the last opening or comma, the last one first, and the
choices that are open, the innermost one first. -/
structure Progress where
  current : List Part
  choices : List Pending

namespace Progress

/-- One more part. -/
def push (p : Progress) (part : Part) : Progress :=
  { p with current := part :: p.current }

/-- A character as it is. -/
def literal (p : Progress) (c : Char) : Progress :=
  (String.utf8EncodeChar c).foldl (fun p b => p.push (.literal b)) p

/-- A choice opens. -/
def opening (p : Progress) : Progress :=
  ⟨[], ⟨p.current, []⟩ :: p.choices⟩

/-- A comma starts the next branch; outside of choices it is a character as any. -/
def comma (p : Progress) : Progress :=
  match p.choices with
  | [] => p.literal ','
  | c :: rest => ⟨[], { c with branches := p.current.reverse :: c.branches } :: rest⟩

/-- The innermost choice closes. -/
def closing (p : Progress) : Except Fault Progress :=
  match p.choices with
  | [] => .error .unopenedChoice
  | c :: rest => .ok ⟨.choice (p.current.reverse :: c.branches).reverse :: c.outer, rest⟩

/-- Two stars that do not stand for directories. -/
def stars (p : Progress) : Progress :=
  (p.push .star).push .star

/-- Directories in place of the slash before them. After others they stand for no more. -/
def replaceLast (p : Progress) (part : Part) : Progress :=
  match p.current with
  | .leading :: _ => p
  | .trailing :: _ => p
  | _ :: rest => { p with current := part :: rest }
  | [] => p.push part

/-- Two stars between the character `prev` and the symbol `next`, and whether they take that symbol
with them. They stand for directories if they are a whole name of the pattern. -/
def doubleStar (p : Progress) (prev : Option Char) (next : Option Symbol) : Progress × Bool :=
  let inChoice := !p.choices.isEmpty
  let startsName := prev == some '/' || (inChoice && (prev == some ',' || prev == some '\x7b'))
  if p.current.isEmpty then
    match next with
    | none => (p.push .leading, false)
    | some (.plain '/') => (p.push .leading, true)
    | _ => (p.stars, false)
  else if startsName then
    match next with
    | none => (p.replaceLast .trailing, false)
    | some (.plain '/') => (p.replaceLast .between, true)
    | some .comma => (if inChoice then p.replaceLast .trailing else p.stars, false)
    | some .closing => (if inChoice then p.replaceLast .trailing else p.stars, false)
    | _ => (p.stars, false)
  else (p.stars, false)

end Progress

/-- The parts that symbols make, after the character `prev`. -/
def assemble (prev : Option Char) (p : Progress) (symbols : List Symbol) : Except Fault Progress :=
  match symbols with
  | [] => .ok p
  | .star :: .star :: rest =>
    match p.doubleStar prev rest.head?, rest with
    | (q, true), _ :: more => assemble (some '/') q more
    | (q, _), rest => assemble (some '*') q rest
  | .star :: rest => assemble (some '*') (p.push .star) rest
  | .plain c :: rest => assemble (some c) (p.literal c) rest
  | .escaped c :: rest => assemble (some c) (p.literal c) rest
  | .any :: rest => assemble (some '?') (p.push .any) rest
  | .set negated ranges :: rest =>
    assemble (some ']') (p.push (.set negated (ranges.flatMap rangeBytes))) rest
  | .opening :: rest => assemble (some '\x7b') p.opening rest
  | .comma :: rest => assemble (some ',') p.comma rest
  | .closing :: rest => do assemble (some '\x7d') (← p.closing) rest
termination_by symbols.length

/-- The parts of a pattern. -/
def parse (pattern : String) : Except Fault (List Part) := do
  let (found, flaw) := symbols pattern.toList
  let p ← assemble none ⟨[], []⟩ found
  match flaw with
  | some f => .error f
  | none => if p.choices.isEmpty then return p.current.reverse else .error .unclosedChoice

end CollectionArchive.Glob

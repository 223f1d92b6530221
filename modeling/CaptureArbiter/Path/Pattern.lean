/-!
# Patterns of file names

In a pattern a star stands for any characters, a question mark for one, and brackets for one of a
set of characters, or, after an exclamation mark, for one outside of it. A bracket that is never
closed stands for itself.
-/

namespace CaptureArbiter.Path

inductive Piece where
  | literal (c : Char)
  | anyOne
  | anyMany
  | oneOf (negated : Bool) (ranges : List (Char × Char))
  deriving DecidableEq, Repr

namespace Pattern

/-- Splits the inside of brackets into what is before and after the hyphens that make ranges. A
hyphen makes a range if a character stands before it and it is not the end of another range. `kept`
holds the characters since the last such hyphen, latest first, and `wait` counts the characters that
cannot be such a hyphen. -/
def chunksFrom (kept : List Char) : Nat → List Char → List (List Char)
  | _, [] => [kept.reverse]
  | 0, c :: cs =>
    if c == '-' then kept.reverse :: chunksFrom [] 2 cs else chunksFrom (c :: kept) 0 cs
  | wait + 1, c :: cs => chunksFrom (c :: kept) wait cs

/-- A hyphen at the end stands for itself. -/
def closeChunks : List (List Char) → List (List Char)
  | [] => []
  | [c] => [c]
  | [c, []] => [c ++ ['-']]
  | c :: cs => c :: closeChunks cs

/-- Joins two chunks whose range would be empty, without the ends of that range. -/
def joinEmpty (first : List Char) : List (List Char) → List (List Char)
  | [] => [first]
  | second :: rest =>
    match first.getLast?, second.head? with
    | some a, some b =>
      if a > b then (first.dropLast ++ second.drop 1) :: rest else first :: second :: rest
    | _, _ => first :: second :: rest

/-- Joins chunks with empty ranges between them, from the last on. -/
def joinChunks : List (List Char) → List (List Char)
  | [] => []
  | first :: rest => joinEmpty first (joinChunks rest)

def rangesOf : List (List Char) → List (Char × Char)
  | [] => []
  | [c] => c.map fun x => (x, x)
  | c :: d :: rest =>
    let between := match c.getLast?, d.head? with
      | some a, some b => [(a, b)]
      | _, _ => []
    c.map (fun x => (x, x)) ++ between ++ rangesOf (d :: rest)

def bracketPiece (inside : List Char) : Piece :=
  let (negated, body) := match inside with
    | '!' :: body => (true, body)
    | body => (false, body)
  .oneOf negated (rangesOf (joinChunks (closeChunks (chunksFrom [] 1 body))))

/-- The inside of brackets and what follows them. A closing bracket that comes first belongs to the
set. -/
def splitBracket? (cs : List Char) : Option (List Char × List Char) :=
  let (mark, body) := match cs with
    | '!' :: body => (['!'], body)
    | body => ([], body)
  let (first, body) := match body with
    | ']' :: body => ([']'], body)
    | body => ([], body)
  match body.dropWhile (· != ']') with
  | [] => none
  | _ :: rest => some (mark ++ first ++ body.takeWhile (· != ']'), rest)

/-- The parts of a pattern; `fuel` is at least its length. -/
def piecesWithin : Nat → List Char → List Piece
  | 0, _ => []
  | _, [] => []
  | fuel + 1, c :: cs =>
    if c == '*' then .anyMany :: piecesWithin fuel cs
    else if c == '?' then .anyOne :: piecesWithin fuel cs
    else if c == '[' then
      match splitBracket? cs with
      | some (inside, rest) => bracketPiece inside :: piecesWithin fuel rest
      | none => .literal '[' :: piecesWithin fuel cs
    else .literal c :: piecesWithin fuel cs

def pieces (pattern : List Char) : List Piece := piecesWithin pattern.length pattern

/-- All ends of a list, the longest first. -/
def ends : List Char → List (List Char)
  | [] => [[]]
  | c :: cs => (c :: cs) :: ends cs

def accepts : List Piece → List Char → Bool
  | [], cs => cs.isEmpty
  | .anyMany :: ps, cs => (ends cs).any (accepts ps)
  | .literal x :: ps, c :: cs => c == x && accepts ps cs
  | .anyOne :: ps, _ :: cs => accepts ps cs
  | .oneOf negated ranges :: ps, c :: cs =>
    (ranges.any (fun r => r.1 ≤ c && c ≤ r.2) != negated) && accepts ps cs
  | _ :: _, [] => false

/-- Does a name match a pattern? Names that begin with a dot are matched only by patterns that
do. -/
def matchesName (pattern : List Char) (name : String) : Bool :=
  let isHidden := fun cs : List Char => cs.head? == some '.'
  (isHidden pattern || !isHidden name.toList) && accepts (pieces pattern) name.toList

def isPattern (cs : List Char) : Bool := cs.any fun c => c == '*' || c == '?' || c == '['

theorem accepts_nil (cs : List Char) : accepts [] cs = cs.isEmpty := rfl

end Pattern

end CaptureArbiter.Path

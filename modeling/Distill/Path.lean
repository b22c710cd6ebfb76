/-!
Slash-separated path text: its segments, its shortest equivalent form, joining, and the parts of a path.
Everything here is textual; no file tree is consulted.
-/
namespace Distill.Path

/-- Cuts a text at every slash. The empty text has one empty segment. -/
def splitSlash : List Char → List (List Char)
  | [] => [[]]
  | c :: cs =>
    if c = '/' then [] :: splitSlash cs
    else match splitSlash cs with
      | [] => [[c]]
      | seg :: segs => (c :: seg) :: segs

/-- Puts one slash between neighbouring segments. -/
def joinSlash : List (List Char) → List Char
  | [] => []
  | [seg] => seg
  | seg :: segs => seg ++ '/' :: joinSlash segs

/-- One step of normalisation on the segments kept so far, the last one first: empty segments and
`.` are dropped, `..` cancels a kept name, and at the top of a rooted path `..` is dropped as well. -/
def pushSegment (rooted : Bool) (kept : List (List Char)) (seg : List Char) : List (List Char) :=
  if seg = [] ∨ seg = ['.'] then kept
  else if seg = ['.', '.'] then
    match kept with
    | [] => if rooted then [] else [seg]
    | top :: below => if top = ['.', '.'] then seg :: kept else below
  else seg :: kept

/-- The segments that remain of a path after normalisation. -/
def normalSegments (rooted : Bool) (segs : List (List Char)) : List (List Char) :=
  (segs.foldl (pushSegment rooted) []).reverse

def isRooted : List Char → Bool
  | '/' :: _ => true
  | _ => false

/-- The shortest text that names the same place by text alone; the empty path is the current place. -/
def cleanChars (p : List Char) : List Char :=
  let segs := normalSegments (isRooted p) (splitSlash p)
  if isRooted p then '/' :: joinSlash segs
  else if segs = [] then ['.']
  else joinSlash segs

def clean (p : String) : String := String.ofList (cleanChars p.toList)

def isAbsolute (p : String) : Bool := isRooted p.toList

/-- Joins the parts from the first one that is not empty on, and normalises; no such part gives the empty text. -/
def join : List String → String
  | [] => ""
  | p :: ps =>
    if p = "" then join ps
    else String.ofList (cleanChars (joinSlash ((p :: ps).map String.toList)))

/-- The text up to and including the last slash. -/
def upToLastSlash (p : List Char) : List Char := (p.reverse.dropWhile (· != '/')).reverse

/-- The text after the last slash. -/
def afterLastSlash (p : List Char) : List Char := (p.reverse.takeWhile (· != '/')).reverse

/-- The normalised path of the place that holds `p`. -/
def parent (p : String) : String := String.ofList (cleanChars (upToLastSlash p.toList))

/-- The last name of a path, trailing slashes aside. -/
def base (p : String) : String :=
  if p = "" then "."
  else match (p.toList.reverse.dropWhile (· == '/')).reverse with
    | [] => "/"
    | cs => String.ofList (afterLastSlash cs)

/-- Splits the last name at its last dot; without a dot the second part is empty. -/
def splitExtension (p : List Char) : List Char × List Char :=
  let name := afterLastSlash p
  match name.reverse.dropWhile (· != '.') with
  | [] => (p, [])
  | _ :: stem =>
    (upToLastSlash p ++ stem.reverse, '.' :: (name.reverse.takeWhile (· != '.')).reverse)

/-- Replaces the extension of the last name, or appends one if there is none. -/
def withExtension (p ext : String) : String :=
  String.ofList (splitExtension p.toList).1 ++ ext

/-- The pieces between the slashes of a path, empty ones included. -/
def pieces (p : String) : List String := (splitSlash p.toList).map String.ofList

/-- The path with these pieces. -/
def ofPieces (ps : List String) : String := String.ofList (joinSlash (ps.map String.toList))

/-- The beginnings of a list, the empty one aside, in order of length. -/
def beginnings : List String → List (List String)
  | [] => []
  | p :: ps => [p] :: (beginnings ps).map (p :: ·)

/-- The path itself after the paths of all the places above it, the root aside. -/
def ancestors (p : String) : List String := ((beginnings (pieces p)).map ofPieces).filter (· ≠ "")

end Distill.Path

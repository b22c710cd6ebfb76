import Distill.Glob.Base
import Distill.Glob.Listing

/-!
Expansion of patterns against the directories below a base. To what `Glob.Base` says, braces are added: `{x,y}` stands
for either of two texts, slashes included. A pattern with braces is cut at its last slash or brace; the text before it
is expanded first, and each path found there takes its place in the pattern. Where `**` is followed by more, the paths
of all alternatives are kept in byte order without duplicates; elsewhere the alternatives are merged one after the
other into a listing that grows in place.
-/
namespace Distill.Glob

/-- A pattern cut at the last of some marks that has no `\` before it: the text before, the mark, the text after. -/
def cutLast (marks : List Char) : List Char → Option (List Char × Char × List Char)
  | [] => none
  | c :: cs => go c cs (if c ∈ marks then some ([], c, cs) else none) [c]
where
  /-- Looks for a later cut than `best`; `seen` holds what was read, the last character first. -/
  go (last : Char) : List Char → Option (List Char × Char × List Char) → List Char →
      Option (List Char × Char × List Char)
    | [], best, _ => best
    | c :: cs, best, seen =>
      go c cs (if c ∈ marks ∧ last ≠ '\\' then some (seen.reverse, c, cs) else best) (c :: seen)

/-- Cuts the text before a closing brace at the brace that opens it: the text before and the text between. `depth`
counts the braces to be opened; the text is given from its end. -/
def cutOpening : (depth : Nat) → (between : List Char) → List Char → Option (List Char × List Char)
  | _, _, [] => none
  | depth, between, c :: before =>
    if c = '\x7d' ∧ before.head? ≠ some '\\' then cutOpening (depth + 1) (c :: between) before
    else if c = '\x7b' ∧ before.head? ≠ some '\\' then
      match depth with
      | 0 => some (before.reverse, between)
      | depth + 1 => cutOpening depth (c :: between) before
    else cutOpening depth (c :: between) before

/-- The alternatives of a brace in a path. A comma at the very end adds none. -/
def choices (between : List Char) : List (List Char) :=
  let parts := alternatives between
  if parts.getLast? = some [] then parts.dropLast else parts

/-- How a pattern with a wildcard is taken apart. -/
inductive Cut where
  /-- A directory, which may be given by a pattern, and a segment for the names in it. -/
  | segment (dir segment : List Char)
  /-- A brace, with the text before and after it. -/
  | brace (head between after : List Char)
deriving DecidableEq, Repr

/-- Takes a pattern apart at its last slash or closing brace. A closing brace that none opens is like any other
character. -/
def cut (pattern : List Char) : Cut :=
  match cutLast ['/', '\x7d'] pattern with
  | some (before, '\x7d', after) =>
    match cutOpening 0 [] before.reverse with
    | some (head, between) => .brace head between after
    | none =>
      match cutLast ['/'] before with
      | some (dir, _, segment) => .segment dir (segment ++ '\x7d' :: after)
      | none => .segment ['.'] pattern
  | some (dir, _, segment) => .segment dir segment
  | none => .segment ['.'] pattern

/-- Whether more follows a `**`: at least two bytes. -/
def hasInnerDoubleStar : List Char → Bool
  | '\\' :: _ :: rest => hasInnerDoubleStar rest
  | '*' :: rest =>
    (rest.head? = some '*' && 2 ≤ (String.ofList (rest.drop 1)).utf8ByteSize) || hasInnerDoubleStar rest
  | _ :: rest => hasInnerDoubleStar rest
  | [] => false

/-- The pattern in which a path and one alternative have taken the place of what they were found for. -/
def filledIn (path : String) (stem choice after : List Char) : List Char :=
  (if path = "" ∨ path = "." then [] else path.toList ++ ['/']) ++ stem ++ choice ++ after

/-- Puts a path into sorted paths, unless it is there. -/
def insertSorted (path : String) : List String → List String
  | [] => [path]
  | p :: ps => if p < path then p :: insertSorted path ps else if p = path then p :: ps else path :: p :: ps

namespace Base

/-- The location of a path found on the way, if the path is a proper one. -/
def listAt (b : Base) (withFiles : Bool) (segment : List Char) (dir : String) : Option (List String) :=
  match directLocation? dir.toList with
  | none => some []
  | some l => (b.listMatching withFiles segment l).map (·.map text)

/-- The path that a pattern without wildcards stands for, if it leads to something. A slash at its end is kept. -/
def literalPath (b : Base) (pattern : List Char) : List String :=
  let path := unescape pattern
  let trimmed := if 1 < path.length ∧ path.getLast? = some '/' then path.dropLast else path
  match directLocation? trimmed with
  | some l => if b.contains l then [String.ofList path] else []
  | none => []

/-- The paths of a pattern, all alternatives of a brace in byte order without duplicates. -/
def survey (b : Base) : (fuel : Nat) → (withFiles : Bool) → List Char → Option (List String)
  | 0, _, _ => some []
  | fuel + 1, withFiles, pattern =>
    if !hasWildcard pattern then some (b.literalPath pattern)
    else match cut pattern with
      | .segment dir segment =>
        if hasWildcard dir then do
          let dirs ← b.survey fuel false dir
          return (← dirs.mapM (b.listAt withFiles segment)).flatten
        else b.listAt withFiles segment (String.ofList dir)
      | .brace head between after => do
        let (dirs, stem) ← match cutLast ['/', '\x7d'] head with
          | some (dir, '/', stem) => do pure (← b.survey fuel false dir, stem)
          | _ => pure ([""], head)
        dirs.foldlM (fun found d =>
          (choices between).foldlM (fun found choice => do
            return (← b.survey fuel withFiles (filledIn d stem choice after)).foldl (fun found p => insertSorted p found)
              found) found) []

/-- Goes on with a listing by the paths of a pattern; each alternative of a brace is merged into the ones before it. The
directories on the way are listed after what is in the listing already, and all of it is then gone through. -/
def collect (b : Base) : (fuel : Nat) → (withFiles : Bool) → List Char → Listing → Option Listing
  | 0, _, _, l => some l
  | fuel + 1, withFiles, pattern, l =>
    if !hasWildcard pattern then some (l.pushAll (b.literalPath pattern))
    else match cut pattern with
      | .segment dir segment =>
        if hasWildcard dir then do
          let dirs ← b.collect fuel false dir l.lend
          (List.range dirs.count).foldlM (fun l i => do
            return l.pushAll (← b.listAt withFiles segment (l.seen dirs i))) (l.reclaim dirs)
        else do return l.pushAll (← b.listAt withFiles segment (String.ofList dir))
      | .brace head between after =>
        let goOn (stem : List Char) (path : String) (l : Listing) : Option Listing := do
          let start := l.count
          let l ← (choices between).foldlM (fun l choice => do
            let before := l.count
            let l := l.adopt (← b.collect fuel withFiles (filledIn path stem choice after) l.lend)
            return if start ≠ before ∧ before ≠ l.count then l.mergeFrom start before else l) l
          return l
        match cutLast ['/', '\x7d'] head with
        | some (dir, '/', stem) => do
          let dirs ← b.collect fuel false dir l.lend
          (List.range dirs.count).foldlM (fun l i => goOn stem (l.seen dirs i) l) (l.reclaim dirs)
        | _ => goOn head "" l

/-- Expands a pattern; `none` if it is not well formed. -/
def expand? (b : Base) (pattern : List Char) : Option (List Location) :=
  if !wellFormed pattern then none
  else if '\x7d' ∉ pattern then b.expandPlain true pattern
  else
    let size := pattern.length + b.disk.tree.entries.length + 2
    let paths? :=
      if hasInnerDoubleStar pattern then b.survey (size * size) true pattern
      else (b.collect (size * size) true pattern .empty).map Listing.paths
    paths?.map fun paths => paths.filterMap fun p => directLocation? p.toList

/-- The directories below the base that match a pattern. -/
def directories? (b : Base) (pattern : List Char) : Option (List Location) :=
  (b.expand? pattern).map fun ls => ls.filter b.isDirectory

end Base

end Distill.Glob

import Slipway.Text.Search

/-!
# Paths

A path is a text whose components stand between slashes. Joining keeps both texts as they are
written; the parent and the ancestors go up by one component at a time, a single point inside a path
being no component of its own.
-/

namespace Slipway

/-- A path as it is written. -/
abbrev Path := String

namespace Path

/-- Whether the path starts at the top of the file system. -/
def isAbsolute (p : Path) : Bool :=
  p.toList.head? == some '/'

/-- `p` as seen from `dir`: an absolute path stands alone, any other is written after `dir` and a
slash. -/
def join (dir p : Path) : Path :=
  if p.isAbsolute || dir.isEmpty then p
  else if dir.toList.getLast? == some '/' then dir ++ p
  else dir ++ "/" ++ p

/-! ### Components -/

/-- What remains of a reversed path without the slashes and single points at its end. A point at
the very start of a relative path is a component, so it stays. -/
def dropTrailing : List Char → List Char
  | ['/'] => ['/']
  | '/' :: r => dropTrailing r
  | ['.'] => ['.']
  | '.' :: '/' :: r => dropTrailing ('/' :: r)
  | r => r

/-- The path without its last component, if it has one: what is left of its text once the component
and the slashes and points around it are gone. -/
def parent? (p : Path) : Option Path :=
  match dropTrailing p.toList.reverse with
  | [] => none
  | ['/'] => none
  | r => some (String.ofList (dropTrailing (r.dropWhile (· != '/'))).reverse)

/-- The last component, unless the path ends at the top, in a single point or in a double one. -/
def fileName? (p : Path) : Option String :=
  let name := ((dropTrailing p.toList.reverse).takeWhile (· != '/')).reverse
  if name = [] ∨ name = ['.'] ∨ name = ['.', '.'] then none else some (String.ofList name)

/-- What follows the last point of the last component; a point at its start does not count. -/
def extension? (p : Path) : Option String :=
  match fileName? p with
  | none => none
  | some name =>
    let tail := name.toList.reverse.takeWhile (· != '.')
    if tail.length + 1 < name.toList.length then some (String.ofList tail.reverse) else none

/-- The path and its ancestors, the nearest first. -/
def ancestorsFrom : (fuel : Nat) → Path → List Path
  | 0, p => [p]
  | fuel + 1, p =>
    match parent? p with
    | none => [p]
    | some q => p :: ancestorsFrom fuel q

/-- The path itself and, one component after the other, the paths above it. -/
def ancestors (p : Path) : List Path :=
  ancestorsFrom p.toList.length p

end Path

end Slipway

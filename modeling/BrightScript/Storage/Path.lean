/-!
Paths inside a volume. Every path has a canonical form, which is rooted and has no empty, `.` or
`..` segments; it never leaves the root.
-/

namespace BrightScript.Path

/-- One segment more on a path that is held in reverse: `..` goes back, but not above the root. -/
def follow (stack : List (List Char)) (segment : List Char) : List (List Char) :=
  if segment = [] ∨ segment = ['.'] then stack
  else if segment = ['.', '.'] then stack.tail
  else segment :: stack

/-- The segments that a path leads through from the root. -/
def segments (path : List Char) : List (List Char) :=
  ((path.splitOn '/').foldl follow []).reverse

/-- The rooted path through the given segments. -/
def ofSegments (segments : List (List Char)) : List Char :=
  '/' :: ['/'].intercalate segments

/-- The canonical form of a path. The empty path stays empty. -/
def normalizeChars (path : List Char) : List Char :=
  if path = [] then [] else ofSegments (segments path)

/-- The canonical form of a path. -/
def normalize (path : String) : String := String.ofList (normalizeChars path.toList)

/-- A path without its last segment; the root where there is only one. -/
def parentChars (path : List Char) : List Char :=
  match path.reverse.dropWhile (· != '/') with
  | _ :: c :: rest => (c :: rest).reverse
  | _ => ['/']

/-- A path without its last segment; the root where there is only one. -/
def parent (path : String) : String := String.ofList (parentChars path.toList)

end BrightScript.Path

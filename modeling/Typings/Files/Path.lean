/-! # Paths

Paths as texts whose parts are separated by slashes. Joining and taking the parent work on the text
alone: nothing is looked up, and `..` is a part like any other.
-/

namespace Typings.Files

/-- The parts of a path, empty ones included. -/
def segments (path : String) : List String :=
  (path.toList.splitOn '/').map String.ofList

/-- The path begins at the root. -/
def isAbsolute (path : String) : Bool := path.toList.head? == some '/'

def endsWithSlash (path : String) : Bool := path.toList.getLast? == some '/'

/-- The path read from a base directory. An absolute path needs no base. -/
def join (base path : String) : String :=
  if isAbsolute path || base.isEmpty then path
  else if endsWithSlash base then base ++ path
  else base ++ "/" ++ path

/-- The part names something. Empty parts and single points do not, except for a point at the very
beginning of a path. -/
def isNamed (index : Nat) (segment : String) : Bool :=
  segment ≠ "" && (segment ≠ "." || index == 0)

/-- Drops the parts at the end, given last one first, that name nothing. -/
def dropUnnamed : List (Nat × String) → List (Nat × String)
  | [] => []
  | (i, s) :: rest => if isNamed i s then (i, s) :: rest else dropUnnamed rest

/-- The path without its last named part. The root and the empty path have no parent. -/
def parent? (path : String) : Option String :=
  match dropUnnamed ((segments path).zipIdx.map Prod.swap).reverse with
  | [] => none
  | _ :: rest =>
    match dropUnnamed rest with
    | [] => some (if isAbsolute path then "/" else "")
    | kept => some ("/".intercalate (kept.reverse.map (·.2)))

example : join "a/b" "c" = "a/b/c" := by decide +kernel
example : parent? "a/./b//c" = some "a/./b" := by decide +kernel
example : parent? "/c" = some "/" := by decide +kernel

end Typings.Files

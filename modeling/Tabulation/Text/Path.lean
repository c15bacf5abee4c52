/-
Slash-separated paths. A clean path has no empty and no `.` component, and `..` only at the start of
a path that is not rooted; the empty path is written `.`.
-/

namespace Tabulation.Text.Path

/-- Adds a component to the clean components before it, which are listed last first. -/
def push (rooted : Bool) (stack : List String) (component : String) : List String :=
  if component == "" || component == "." then stack
  else if component == ".." then
    match stack with
    | [] => if rooted then [] else [".."]
    | top :: below => if top == ".." then ".." :: stack else below
  else component :: stack

/-- The shortest path that names the same place by its text alone. -/
def clean (path : String) : String :=
  let rooted := path.startsWith "/"
  let components := (path.splitOn "/").foldl (push rooted) []
  let body := "/".intercalate components.reverse
  if rooted then "/" ++ body else if body == "" then "." else body

/-- All of a path up to its last slash. -/
def parentText (path : String) : String :=
  String.ofList (path.toList.reverse.dropWhile (· != '/')).reverse

def dir (path : String) : String := clean (parentText path)

/-- The part of a path after its last slash. -/
def base (path : String) : String :=
  String.ofList (path.toList.reverse.takeWhile (· != '/')).reverse

/-- Joins the parts that are not empty, and cleans the result. -/
def join (parts : List String) : String :=
  match parts.filter (· != "") with
  | [] => ""
  | kept => clean ("/".intercalate kept)

end Tabulation.Text.Path

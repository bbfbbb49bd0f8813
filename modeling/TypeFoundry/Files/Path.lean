/-!
# Path texts

Paths are texts with `/` between their parts, and are shown as they were put together.
-/

set_option autoImplicit false

namespace TypeFoundry.Files

/-- Whether the path starts at the root of the disk. -/
def isAbsolute (path : String) : Bool := path.startsWith "/"

/-- The path of something below a directory. An absolute path replaces the directory. -/
def join (dir name : String) : String :=
  if isAbsolute name || dir.isEmpty then name
  else if dir.endsWith "/" then dir ++ name
  else dir ++ "/" ++ name

end TypeFoundry.Files

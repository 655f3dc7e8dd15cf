/-! Path texts. A path is a text whose parts stand between slashes. Empty parts and parts that are a
single dot do not count, except that a relative path may start with a dot. -/
namespace SourceReducer.Path

def isAbsolute (path : String) : Bool :=
  path.toList.head? == some '/'

def endsInSlash (path : String) : Bool :=
  path.toList.getLast? == some '/'

/-- The texts between the slashes of a path. -/
def pieces (path : String) : List String :=
  (path.toList.splitOn '/').map String.ofList

/-- Whether a part between two slashes names nothing. -/
def isIdle (part : String) : Bool :=
  part == "" || part == "."

/-- Parts without the idle ones at their end. -/
def dropIdleEnd (parts : List String) : List String :=
  (parts.reverse.dropWhile isIdle).reverse

/-- The parts after the root of an absolute path, or all parts of a relative one. -/
def parts (path : String) : List String :=
  if isAbsolute path then (pieces path).drop 1 else pieces path

/-- The parts up to the last one that counts. The leading dot of a relative path counts. -/
def bodyParts (path : String) : List String :=
  if isAbsolute path then dropIdleEnd (parts path)
  else
    match parts path with
    | [] => []
    | first :: rest => if first == "" then [] else first :: dropIdleEnd rest

/-- The parts that count. Two paths with the same parts are equal as paths. -/
def components (path : String) : List String :=
  if isAbsolute path then (bodyParts path).filter fun part => !isIdle part
  else
    match bodyParts path with
    | [] => []
    | first :: rest => first :: rest.filter fun part => !isIdle part

/-- Whether two texts are the same path. -/
def same (a b : String) : Bool :=
  isAbsolute a == isAbsolute b && components a == components b

/-- The last part, unless it leads to the same or a higher directory. -/
def fileName? (path : String) : Option String :=
  (components path).getLast?.filter fun name => name != "." && name != ".."

/-- The text of the path without its last part; the root and the empty path have none. -/
def parent? (path : String) : Option String :=
  match bodyParts path with
  | [] => none
  | body =>
      if isAbsolute path then some ("/" ++ "/".intercalate (dropIdleEnd body.dropLast))
      else
        match body.dropLast with
        | [] => some ""
        | first :: rest => some ("/".intercalate (first :: dropIdleEnd rest))

/-- The path of `name` below `base`. -/
def join (base name : String) : String :=
  if isAbsolute name then name
  else if base.isEmpty || endsInSlash base then base ++ name
  else base ++ "/" ++ name

/-- The path with its last part replaced. -/
def withFileName (path name : String) : String :=
  match fileName? path with
  | some _ => join ((parent? path).getD "") name
  | none => join path name

end SourceReducer.Path

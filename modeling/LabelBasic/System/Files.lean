import LabelBasic.Command.Host

namespace LabelBasic

/-- The names on the way to a file or directory from the top. -/
abbrev Route := List Text

namespace Route

def dot : Text := ['.']

def dotDot : Text := ['.', '.']

def enter (r : Route) (name : Text) : Route :=
  if name = [] ∨ name = dot then r
  else if name = dotDot then r.dropLast
  else r ++ [name]

end Route

structure FileTree where
  home : Text
  nodes : List (Route × Node)

namespace FileTree

def homeRoute (t : FileTree) : Route := (t.home.splitOn '/').filter fun name ↦ !name.isEmpty

/-- The working directory and those around it are always there. -/
def node? (t : FileTree) (r : Route) : Option Node :=
  if r.isPrefixOf t.homeRoute then some .directory else t.nodes.lookup r

def put (t : FileTree) (r : Route) (n : Node) : FileTree :=
  { t with nodes := (r, n) :: t.nodes.filter fun e ↦ e.1 != r }

def locate (t : FileTree) (path : Text) : Route × List Text :=
  (if path.head? = some '/' then [] else t.homeRoute, path.splitOn '/')

def maxPath : Nat := 4095

def maxName : Nat := 255

def checkPath (path : Text) : Except FileError Unit :=
  if '\x00' ∈ path then .error .nullCharacter
  else if path = [] then .error .notFound
  else if maxPath < path.byteSize then .error .nameTooLong
  else .ok ()

def checkName (name : Text) : Except FileError Unit :=
  if maxName < name.byteSize then .error .nameTooLong else .ok ()

def checkDirectory (t : FileTree) (r : Route) : Except FileError Unit :=
  match t.node? r with
  | none => .error .notFound
  | some (.file _) => .error .notDirectory
  | some .directory => .ok ()

/-- Follows the names of a path, each of which has to start in a directory. -/
def walk (t : FileTree) (r : Route) : List Text → Except FileError Route
  | [] => .ok r
  | name :: names => do
    t.checkDirectory r
    checkName name
    t.walk (r.enter name) names

def read (t : FileTree) (path : Text) : Except FileError ByteArray := do
  checkPath path
  let (start, names) := t.locate path
  match t.node? (← t.walk start names) with
  | none => throw .notFound
  | some .directory => throw .isDirectory
  | some (.file bytes) => return bytes

def isFile (t : FileTree) (path : Text) : Bool := (t.read path).isOk

/-- Makes a file or replaces the bytes of one. Its directory has to be there. -/
def write (t : FileTree) (path : Text) (bytes : ByteArray) : Except FileError FileTree := do
  checkPath path
  let (start, names) := t.locate path
  let proper := (names.reverse.dropWhile List.isEmpty).reverse
  match proper.getLast? with
  | none => throw .isDirectory
  | some last =>
    let directory ← t.walk start proper.dropLast
    t.checkDirectory directory
    if proper.length < names.length || last = Route.dot || last = Route.dotDot then
      throw .isDirectory
    checkName last
    let r := directory ++ [last]
    match t.node? r with
    | some .directory => throw .isDirectory
    | _ => return t.put r (.file bytes)

def install (t : FileTree) (path : Text) (n : Node) : FileTree :=
  let (start, names) := t.locate path
  let (t', r) := names.foldl (fun (p : FileTree × Route) name ↦
    (match p.1.node? p.2 with
      | some _ => p.1
      | none => p.1.put p.2 .directory, p.2.enter name)) (t, start)
  t'.put r n

/-- The files that are new in a tree or have other bytes than in the tree before. The way to a
file outside the working directory starts with a slash. -/
def changes (before after : FileTree) : List (Route × ByteArray) :=
  after.nodes.filterMap fun (r, n) ↦
    match n with
    | .directory => none
    | .file bytes =>
      if before.node? r = some (.file bytes) then none
      else if after.homeRoute.isPrefixOf r then some (r.drop after.homeRoute.length, bytes)
      else some (['/'] :: r, bytes)

end FileTree

def Route.isInside (r : Route) : Bool := r.head? != some ['/']

end LabelBasic

import WikiArticle.Files

/-! A tree of files and directories, and the way a path leads through it. A relative path starts at the
    root of the tree. A step to `..` leaves the directory it is in; above the root nothing is known but
    that there are directories. A path that ends in a slash, or goes on behind a name, needs a directory
    there. A path that is too long leads nowhere. -/

namespace WikiArticle

/-- What a place in a tree holds. -/
inductive Node where
  | file (content : ByteArray)
  | directory

/-- Nodes by the names on the way to them, the newest first. The directories on the way to a node are
    there with it. -/
abbrev FileTree := List (List String × Node)

namespace FileTree

/-- A place that a path has led to. -/
inductive Place where
  /-- The place of the names on the way from the root, the last name first. -/
  | inside (names : List String)
  /-- A directory above the root. -/
  | above
  deriving DecidableEq, Repr

/-- What is at a place, if anything is. -/
def node? (tree : FileTree) : Place → Option Node
  | .above | .inside [] => some .directory
  | .inside (last :: rest) =>
    let way := (last :: rest).reverse
    match tree.find? fun e => e.1 = way with
    | some e => some e.2
    | none => if tree.any fun e => way.isPrefixOf e.1 then some .directory else none

/-- The names that a path is made of. -/
def names (path : String) : List String := path.splitOn "/"

/-- The place one name on from a directory. -/
def step? (name : String) : Place → Option Place
  | .inside way =>
    if name = "" ∨ name = "." then some (.inside way)
    else if name = ".." then
      match way with
      | _ :: rest => some (.inside rest)
      | [] => some .above
    else some (.inside (name :: way))
  | .above => if name = "" ∨ name = "." ∨ name = ".." then some .above else none

/-- The tree with a node at the end of a way that starts at a place. All places on the way are directories; above
    the root the tree is not changed. -/
def insertFrom (node : Node) : List String → Place → FileTree → FileTree
  | [], .inside way, tree => (way.reverse, node) :: tree
  | [], .above, tree => tree
  | name :: rest, place, tree =>
    let tree := match place with
      | .inside way => (way.reverse, .directory) :: tree
      | .above => tree
    match step? name place with
    | some next => insertFrom node rest next tree
    | none => tree

/-- The tree with a node at the end of a path, in place of what was there before. -/
def insert (path : String) (node : Node) (tree : FileTree) : FileTree :=
  insertFrom node (names path) (.inside []) tree

/-- What the names lead to from a place. Every name needs a directory to go on from. -/
def walk (tree : FileTree) : List String → Place → Option Node
  | [], place => tree.node? place
  | name :: rest, place =>
    match tree.node? place with
    | some .directory => (step? name place).bind (walk tree rest)
    | _ => none

/-- The number of bytes from which on a path is too long. -/
def pathLimit : Nat := 4096

/-- What a path leads to. A path that starts at the root of all files leaves the tree. -/
def files (tree : FileTree) : Files := fun path =>
  if path = "" || pathLimit ≤ path.utf8ByteSize then .missing
  else match walk tree (names path) (if path.startsWith "/" then .above else .inside []) with
    | none => .missing
    | some .directory => .directory
    | some (.file content) => .file content

end FileTree
end WikiArticle

import EightBit.Storage.Place
import EightBit.Text.Line

namespace EightBit

/-!
# File trees

The files and directories below a working directory. Paths are followed
component by component; whatever a path goes through must be a directory, even
if the component after it is empty or a single dot. Outside of the tree nothing
but the directories above it is found. Paths and their components are bounded
in length, and a path that holds the character that ends a path for the system
is refused before it is followed.
-/

/-- Why a file cannot be read. -/
inductive ReadError where
  | notFound
  | notDirectory
  | isDirectory
  | nameTooLong
  | holdsTerminator
  | other (description : String)
  deriving Repr, DecidableEq

/-- The wording of a read error. -/
def ReadError.message : ReadError → String
  | .notFound => "No such file or directory (os error 2)"
  | .notDirectory => "Not a directory (os error 20)"
  | .isDirectory => "Is a directory (os error 21)"
  | .nameTooLong => "File name too long (os error 36)"
  | .holdsTerminator => "file name contained an unexpected NUL byte"
  | .other description => description

/-- What stands at a place of a file tree. -/
inductive FileTree.Node where
  | file (content : List UInt8)
  | directory
  deriving Repr, DecidableEq

/-- The nodes put into a tree, in order; a later one replaces an earlier one. -/
structure FileTree where
  nodes : List (Place × FileTree.Node)
  deriving Repr, DecidableEq

namespace FileTree

/-- Number of bytes that the longest path has. -/
def pathLimit : Nat :=
  4095

/-- Number of bytes that the longest component has. -/
def componentLimit : Nat :=
  255

/-- The character that ends a path for the system. -/
def terminator : Char :=
  '\x00'

/-- The tree that holds nothing but its top directory. -/
def empty : FileTree where
  nodes := []

/--
The directories that components go through from a place, and a node where they
lead to; what goes above the top is left out.
-/
def nodesAlong
    (node : Node)
    (place : Place) :
    List (List Char) →
    List (Place × Node)
  | [] => [(place, node)]
  | component :: rest =>
      (place, .directory) ::
        match place.enter? component with
        | none => []
        | some entered => nodesAlong node entered rest

/-- Put a node where a relative path leads to, with the directories on the way. -/
def insert
    (tree : FileTree)
    (path : String)
    (node : Node) :
    FileTree where
  nodes :=
    tree.nodes ++ nodesAlong node [] (Path.components path.toList)

/-- What stands at a place; at the top there is always a directory. -/
def nodeAt?
    (tree : FileTree)
    (place : Place) :
    Option Node :=
  if place.isEmpty then
    some .directory
  else
    (tree.nodes.reverse.find? fun entry => entry.1 = place).map Prod.snd

/-- What stands at a position, as far as the tree tells. -/
def node?
    (tree : FileTree) :
    Position →
    Option Node
  | .inside place => tree.nodeAt? place
  | .above => some .directory
  | .beside => none

/-- The position that components lead to from another position. -/
def follow
    (tree : FileTree)
    (position : Position) :
    List (List Char) →
    Except ReadError Position
  | [] => .ok position
  | component :: rest =>
      match tree.node? position with
      | none => .error .notFound
      | some (.file _) => .error .notDirectory
      | some .directory =>
          if Text.byteLength component ≤ componentLimit then
            follow tree (position.enter component) rest
          else
            .error .nameTooLong

/-- The position that a path leads to. -/
def locate
    (tree : FileTree)
    (path : List Char) :
    Except ReadError Position :=
  if terminator ∈ path then
    .error .holdsTerminator
  else if Text.byteLength path ≤ pathLimit then
    tree.follow (Position.start path) (Path.components path)
  else
    .error .nameTooLong

/-- The bytes of the file that a path leads to. -/
def read
    (tree : FileTree)
    (path : String) :
    Except ReadError (List UInt8) :=
  match tree.locate path.toList with
  | .error error => .error error
  | .ok position =>
      match tree.node? position with
      | none => .error .notFound
      | some .directory => .error .isDirectory
      | some (.file content) => .ok content

end FileTree

end EightBit

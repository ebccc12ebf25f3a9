import BleBeacon.Bytes
import BleBeacon.Text.Basic

/-!
The files that a program finds: a tree of directories, and what a path leads to in it. A path is
followed name by name; each step needs a directory to stand in, so that a path that goes on behind a
file leads nowhere, also if it goes on with nothing.
-/

namespace BleBeacon

inductive FileTree where
  | file (content : Bytes)
  -- A file that cannot be opened, and the number of the error.
  | closed (errno : Nat)
  | directory (entries : List (String × FileTree))

namespace FileTree

-- A file and the directories around it, innermost first.
structure Location where
  node : FileTree
  around : List FileTree

def notFound : Nat := 2

def notDirectory : Nat := 20

def isDirectory : Nat := 21

def nameTooLong : Nat := 36

def maxNameLength : Nat := 255

def maxPathLength : Nat := 4095

/-- The directory around; the outermost one is around itself. -/
def Location.leave (l : Location) : Location :=
  match l.around with
  | [] => l
  | outer :: rest => ⟨outer, rest⟩

def Location.follow (l : Location) (name : List Char) : Except Nat Location :=
  match l.node with
  | .directory entries =>
    if name = [] ∨ name = ['.'] then .ok l
    else if name = ['.', '.'] then .ok l.leave
    else if maxNameLength < utf8Length name then .error nameTooLong
    else
      match entries.lookup (String.ofList name) with
      | some node => .ok ⟨node, l.node :: l.around⟩
      | none => .error notFound
  | _ => .error notDirectory

/-- What a path leads to from the root, or from another place unless it starts with a slash. -/
def find (root : FileTree) (here : Location) (path : String) : Except Nat FileTree :=
  let cs := path.toList
  if maxPathLength < utf8Length cs then .error nameTooLong
  else
    let start := if cs.head? = some '/' then ⟨root, []⟩ else here
    ((cs.splitOn '/').foldlM Location.follow start).map (·.node)

/-- Whether a path is the one name of standard input. Slashes behind it, with nothing or a dot
between them, do not make another path of it. -/
def isStandardInput (path : String) : Bool :=
  match path.toList.splitOn '/' with
  | name :: rest => name == ['-'] && rest.all fun part => part == [] || part == ['.']
  | [] => false

end FileTree

end BleBeacon

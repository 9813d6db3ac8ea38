import BookRelay.Host.OsError
import BookRelay.Text.Utf8

/-!
# A directory of files

The files a run can see: a directory holding files (by relative path) and subdirectories.
Reading a path gives the file's bytes; a directory cannot be read, a path through a file
names no directory, and anything else does not exist. A file read as text must be UTF-8.
-/

namespace BookRelay.Host

/-- A directory: files with their bytes, and subdirectories, by relative path. -/
structure FileTree where
  files : List (String × List UInt8) := []
  dirs : List String := []
  deriving Inhabited

/-- The components of a relative path, without empty and `.` components. -/
def pathParts (path : String) : List String :=
  (path.splitOn "/").filter fun p => p != "" && p != "."

/-- Whether a path names a directory: the top, a listed directory, or one holding a file. -/
def FileTree.isDir (t : FileTree) (parts : List String) : Bool :=
  parts.isEmpty ||
    t.dirs.any (fun d => pathParts d == parts) ||
    t.files.any (fun (f, _) => let fp := pathParts f; fp.length > parts.length && fp.take parts.length == parts)

def FileTree.file? (t : FileTree) (parts : List String) : Option (List UInt8) :=
  (t.files.find? fun (f, _) => pathParts f == parts).map (·.2)

/-- The bytes of the file at a path. -/
def FileTree.read (t : FileTree) (path : String) : Except OsError (List UInt8) :=
  let parts := pathParts path
  if path.isEmpty then .error (.errno 2)
  else if (List.range parts.length).any (fun k => k > 0 && (t.file? (parts.take k)).isSome) then
    .error (.errno 20)
  else match t.file? parts with
    | some bytes => .ok bytes
    | none => if t.isDir parts then .error (.errno 21) else .error (.errno 2)

def FileTree.readText (t : FileTree) (path : String) : Except OsError String := do
  let bytes ← t.read path
  match Text.Utf8.decode? bytes with
  | some s => pure s
  | none => throw (.custom "stream did not contain valid UTF-8")

def FileTree.children (t : FileTree) (path : String) : List String :=
  let parts := pathParts path
  let below := fun (p : List String) =>
    if p.length > parts.length && p.take parts.length == parts then p[parts.length]? else none
  ((t.files.map (fun f => pathParts f.1) ++ t.dirs.map pathParts).filterMap below).eraseDups

theorem read_empty (t : FileTree) : t.read "" = .error (.errno 2) := by
  simp [FileTree.read]

end BookRelay.Host

/-!
# Operating-system failures

A failure of a file or socket operation, as the host reports it: an error number with the
system's wording (`Broken pipe (os error 32)`), a bare category with its generic description
(`broken pipe`), or a message made by the program itself.
-/

namespace BookRelay.Host

/-- Categories of failure, each with a generic description. -/
inductive OsErrorKind where
  | notFound | permissionDenied | connectionRefused | connectionReset | hostUnreachable
  | networkUnreachable | connectionAborted | notConnected | addrInUse | addrNotAvailable
  | networkDown | brokenPipe | alreadyExists | wouldBlock | notADirectory | isADirectory
  | directoryNotEmpty | readOnlyFilesystem | invalidInput | invalidData | timedOut | writeZero
  | storageFull | interrupted | unsupported | unexpectedEof | outOfMemory | other
  deriving Repr, BEq, DecidableEq

def OsErrorKind.table : List (String × OsErrorKind × String) :=
  [("NotFound", .notFound, "entity not found"),
   ("PermissionDenied", .permissionDenied, "permission denied"),
   ("ConnectionRefused", .connectionRefused, "connection refused"),
   ("ConnectionReset", .connectionReset, "connection reset"),
   ("HostUnreachable", .hostUnreachable, "host unreachable"),
   ("NetworkUnreachable", .networkUnreachable, "network unreachable"),
   ("ConnectionAborted", .connectionAborted, "connection aborted"),
   ("NotConnected", .notConnected, "not connected"),
   ("AddrInUse", .addrInUse, "address in use"),
   ("AddrNotAvailable", .addrNotAvailable, "address not available"),
   ("NetworkDown", .networkDown, "network down"),
   ("BrokenPipe", .brokenPipe, "broken pipe"),
   ("AlreadyExists", .alreadyExists, "entity already exists"),
   ("WouldBlock", .wouldBlock, "operation would block"),
   ("NotADirectory", .notADirectory, "not a directory"),
   ("IsADirectory", .isADirectory, "is a directory"),
   ("DirectoryNotEmpty", .directoryNotEmpty, "directory not empty"),
   ("ReadOnlyFilesystem", .readOnlyFilesystem, "read-only filesystem or storage medium"),
   ("InvalidInput", .invalidInput, "invalid input parameter"),
   ("InvalidData", .invalidData, "invalid data"),
   ("TimedOut", .timedOut, "timed out"),
   ("WriteZero", .writeZero, "write zero"),
   ("StorageFull", .storageFull, "no storage space"),
   ("Interrupted", .interrupted, "operation interrupted"),
   ("Unsupported", .unsupported, "unsupported"),
   ("UnexpectedEof", .unexpectedEof, "unexpected end of file"),
   ("OutOfMemory", .outOfMemory, "out of memory"),
   ("Other", .other, "other error")]

def OsErrorKind.ofName? (name : String) : Option OsErrorKind :=
  (OsErrorKind.table.find? (·.1 == name)).map (·.2.1)

def OsErrorKind.description (k : OsErrorKind) : String :=
  ((OsErrorKind.table.find? (·.2.1 == k)).map (·.2.2)).getD "other error"

/-- The system's wording of some error numbers. -/
def errnoText (code : Nat) : String :=
  match code with
  | 1 => "Operation not permitted"
  | 2 => "No such file or directory"
  | 13 => "Permission denied"
  | 17 => "File exists"
  | 20 => "Not a directory"
  | 21 => "Is a directory"
  | 32 => "Broken pipe"
  | 104 => "Connection reset by peer"
  | 111 => "Connection refused"
  | _ => "Unknown error " ++ toString code

/-- A failure of an operating-system call. -/
inductive OsError where
  | errno (code : Nat)
  | kind (k : OsErrorKind)
  | custom (text : String)
  deriving Repr, BEq

/-- The text of a failure. -/
def OsError.message : OsError → String
  | .errno code => errnoText code ++ " (os error " ++ toString code ++ ")"
  | .kind k => k.description
  | .custom text => text

/-- No such file or directory. -/
def OsError.notFound : OsError := .errno 2

example : OsError.notFound.message = "No such file or directory (os error 2)" := by
  decide

def OsError.brokenPipe : OsError := .errno 32

def OsError.isDirectory : OsError := .errno 21

def OsError.connectionRefused : OsError := .errno 111

end BookRelay.Host

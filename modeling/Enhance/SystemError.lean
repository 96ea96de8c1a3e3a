import Enhance.Text.Quoted

/-!
# Errors of system calls

A system call fails with a number. The text of the error says what the number means and, when
the call was about a file, which file; a renaming names both places.
-/

namespace Enhance

open Enhance.Text

/-- What the numbers of system errors mean. -/
def systemErrorTexts : Array String := #[
  "Success", "Operation not permitted", "No such file or directory", "No such process",
  "Interrupted system call", "Input/output error", "No such device or address",
  "Argument list too long", "Exec format error", "Bad file descriptor", "No child processes",
  "Resource temporarily unavailable", "Cannot allocate memory", "Permission denied",
  "Bad address", "Block device required", "Device or resource busy", "File exists",
  "Invalid cross-device link", "No such device", "Not a directory", "Is a directory",
  "Invalid argument", "Too many open files in system", "Too many open files",
  "Inappropriate ioctl for device", "Text file busy", "File too large",
  "No space left on device", "Illegal seek", "Read-only file system", "Too many links",
  "Broken pipe", "Numerical argument out of domain", "Numerical result out of range",
  "Resource deadlock avoided", "File name too long", "No locks available",
  "Function not implemented", "Directory not empty", "Too many levels of symbolic links",
  "Unknown error 41", "No message of desired type", "Identifier removed",
  "Channel number out of range", "Level 2 not synchronized", "Level 3 halted", "Level 3 reset",
  "Link number out of range", "Protocol driver not attached", "No CSI structure available",
  "Level 2 halted", "Invalid exchange", "Invalid request descriptor", "Exchange full",
  "No anode", "Invalid request code", "Invalid slot", "Unknown error 58", "Bad font file format",
  "Device not a stream", "No data available", "Timer expired", "Out of streams resources",
  "Machine is not on the network", "Package not installed", "Object is remote",
  "Link has been severed", "Advertise error", "Srmount error", "Communication error on send",
  "Protocol error", "Multihop attempted", "RFS specific error", "Bad message",
  "Value too large for defined data type", "Name not unique on network",
  "File descriptor in bad state", "Remote address changed",
  "Can not access a needed shared library", "Accessing a corrupted shared library",
  ".lib section in a.out corrupted", "Attempting to link in too many shared libraries",
  "Cannot exec a shared library directly", "Invalid or incomplete multibyte or wide character",
  "Interrupted system call should be restarted", "Streams pipe error", "Too many users",
  "Socket operation on non-socket", "Destination address required", "Message too long",
  "Protocol wrong type for socket", "Protocol not available", "Protocol not supported",
  "Socket type not supported", "Operation not supported", "Protocol family not supported",
  "Address family not supported by protocol", "Address already in use",
  "Cannot assign requested address", "Network is down", "Network is unreachable",
  "Network dropped connection on reset", "Software caused connection abort",
  "Connection reset by peer", "No buffer space available",
  "Transport endpoint is already connected", "Transport endpoint is not connected",
  "Cannot send after transport endpoint shutdown", "Too many references: cannot splice",
  "Connection timed out", "Connection refused", "Host is down", "No route to host",
  "Operation already in progress", "Operation now in progress", "Stale file handle",
  "Structure needs cleaning", "Not a XENIX named type file", "No XENIX semaphores available",
  "Is a named type file", "Remote I/O error", "Disk quota exceeded", "No medium found",
  "Wrong medium type", "Operation canceled", "Required key not available", "Key has expired",
  "Key has been revoked", "Key was rejected by service", "Owner died", "State not recoverable",
  "Operation not possible due to RF-kill", "Memory page has hardware error"]

/-- Why a system call failed. -/
structure SystemError where
  code : Nat
  /-- The file the call was about. -/
  file : Option String := none
  /-- The place the file was to be moved to. -/
  target : Option String := none
  deriving DecidableEq, Repr

namespace SystemError

/-- There is no such entry. -/
def noEntry : Nat := 2

/-- The place is in use and cannot be replaced. -/
def busy : Nat := 16

/-- There is such an entry already. -/
def alreadyThere : Nat := 17

/-- The way leads through something that is no directory. -/
def notDirectory : Nat := 20

/-- The call is not meant for directories. -/
def isDirectory : Nat := 21

/-- The call makes no sense. -/
def invalidArgument : Nat := 22

/-- A name, or the whole path, is longer than the system takes. -/
def nameTooLong : Nat := 36

/-- The directory holds entries. -/
def notEmpty : Nat := 39

/-- More links were met on the way than are followed. -/
def tooManyLinks : Nat := 40

/-- What the number of a system error means. -/
def meaning (code : Nat) : String :=
  (systemErrorTexts[code]?).getD s!"Unknown error {code}"

/-- The class of a system error: some numbers have a class of their own. -/
def kind (error : SystemError) : String :=
  match error.code with
  | 1 | 13 => "PermissionError"
  | 2 => "FileNotFoundError"
  | 3 => "ProcessLookupError"
  | 4 => "InterruptedError"
  | 10 => "ChildProcessError"
  | 11 | 114 | 115 => "BlockingIOError"
  | 17 => "FileExistsError"
  | 20 => "NotADirectoryError"
  | 21 => "IsADirectoryError"
  | 32 | 108 => "BrokenPipeError"
  | 103 => "ConnectionAbortedError"
  | 104 => "ConnectionResetError"
  | 110 => "TimeoutError"
  | 111 => "ConnectionRefusedError"
  | _ => "OSError"

/-- The text of a system error. -/
def message (error : SystemError) : String :=
  s!"[Errno {error.code}] {meaning error.code}" ++
    match error.file, error.target with
    | none, _ => ""
    | some file, none => ": " ++ quoted file
    | some file, some target => ": " ++ quoted file ++ " -> " ++ quoted target

end SystemError

end Enhance

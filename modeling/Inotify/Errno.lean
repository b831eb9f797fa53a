/- # Error numbers

A failed system call reports a number. Two texts go with it, and they differ for some numbers: the
one of the *listing* below, which watch failures show, and the one of the C library, which faults of
ordinary input and output show. A number that the listing does not have becomes the unknown error,
whose code is zero.
-/

import Inotify.Text.Numeral

namespace Inotify

/-- The listed error numbers and their texts. -/
def Errno.listing : List (Int32 × String) := [
  (1, "Operation not permitted"),
  (2, "No such file or directory"),
  (3, "No such process"),
  (4, "Interrupted system call"),
  (5, "I/O error"),
  (6, "No such device or address"),
  (7, "Argument list too long"),
  (8, "Exec format error"),
  (9, "Bad file number"),
  (10, "No child processes"),
  (11, "Try again"),
  (12, "Out of memory"),
  (13, "Permission denied"),
  (14, "Bad address"),
  (15, "Block device required"),
  (16, "Device or resource busy"),
  (17, "File exists"),
  (18, "Cross-device link"),
  (19, "No such device"),
  (20, "Not a directory"),
  (21, "Is a directory"),
  (22, "Invalid argument"),
  (23, "File table overflow"),
  (24, "Too many open files"),
  (25, "Not a typewriter"),
  (26, "Text file busy"),
  (27, "File too large"),
  (28, "No space left on device"),
  (29, "Illegal seek"),
  (30, "Read-only file system"),
  (31, "Too many links"),
  (32, "Broken pipe"),
  (33, "Math argument out of domain of func"),
  (34, "Math result not representable"),
  (35, "Resource deadlock would occur"),
  (36, "File name too long"),
  (37, "No record locks available"),
  (38, "Function not implemented"),
  (39, "Directory not empty"),
  (40, "Too many symbolic links encountered"),
  (42, "No message of desired type"),
  (43, "Identifier removed"),
  (44, "Channel number out of range"),
  (45, "Level 2 not synchronized"),
  (46, "Level 3 halted"),
  (47, "Level 3 reset"),
  (48, "Link number out of range"),
  (49, "Protocol driver not attached"),
  (50, "No CSI structure available"),
  (51, "Level 2 halted"),
  (52, "Invalid exchange"),
  (53, "Invalid request descriptor"),
  (54, "Exchange full"),
  (55, "No anode"),
  (56, "Invalid request code"),
  (57, "Invalid slot"),
  (59, "Bad font file format"),
  (60, "Device not a stream"),
  (61, "No data available"),
  (62, "Timer expired"),
  (63, "Out of streams resources"),
  (64, "Machine is not on the network"),
  (65, "Package not installed"),
  (66, "Object is remote"),
  (67, "Link has been severed"),
  (68, "Advertise error"),
  (69, "Srmount error"),
  (70, "Communication error on send"),
  (71, "Protocol error"),
  (72, "Multihop attempted"),
  (73, "RFS specific error"),
  (74, "Not a data message"),
  (75, "Value too large for defined data type"),
  (76, "Name not unique on network"),
  (77, "File descriptor in bad state"),
  (78, "Remote address changed"),
  (79, "Can not access a needed shared library"),
  (80, "Accessing a corrupted shared library"),
  (81, ".lib section in a.out corrupted"),
  (82, "Attempting to link in too many shared libraries"),
  (83, "Cannot exec a shared library directly"),
  (84, "Illegal byte sequence"),
  (85, "Interrupted system call should be restarted"),
  (86, "Streams pipe error"),
  (87, "Too many users"),
  (88, "Socket operation on non-socket"),
  (89, "Destination address required"),
  (90, "Message too long"),
  (91, "Protocol wrong type for socket"),
  (92, "Protocol not available"),
  (93, "Protocol not supported"),
  (94, "Socket type not supported"),
  (95, "Operation not supported on transport endpoint"),
  (96, "Protocol family not supported"),
  (97, "Address family not supported by protocol"),
  (98, "Address already in use"),
  (99, "Cannot assign requested address"),
  (100, "Network is down"),
  (101, "Network is unreachable"),
  (102, "Network dropped connection because of reset"),
  (103, "Software caused connection abort"),
  (104, "Connection reset by peer"),
  (105, "No buffer space available"),
  (106, "Transport endpoint is already connected"),
  (107, "Transport endpoint is not connected"),
  (108, "Cannot send after transport endpoint shutdown"),
  (109, "Too many references: cannot splice"),
  (110, "Connection timed out"),
  (111, "Connection refused"),
  (112, "Host is down"),
  (113, "No route to host"),
  (114, "Operation already in progress"),
  (115, "Operation now in progress"),
  (116, "Stale file handle"),
  (117, "Structure needs cleaning"),
  (118, "Not a XENIX named type file"),
  (119, "No XENIX semaphores available"),
  (120, "Is a named type file"),
  (121, "Remote I/O error"),
  (122, "Quota exceeded"),
  (123, "No medium found"),
  (124, "Wrong medium type"),
  (125, "Operation canceled"),
  (126, "Required key not available"),
  (127, "Key has expired"),
  (128, "Key has been revoked"),
  (129, "Key was rejected by service"),
  (130, "Owner died"),
  (131, "State not recoverable"),
  (132, "Operation not possible due to RF-kill"),
  (133, "Memory page has hardware error")]

/-- The error of a failed call: a listed number, or zero for a number that is not listed. -/
structure Errno where
  /-- The number. -/
  code : Int32
  /-- Nothing but zero and the listed numbers occurs. -/
  listed : code = 0 ∨ (Errno.listing.lookup code).isSome
deriving DecidableEq, Repr

namespace Errno

/-- The error that stands for every number that is not listed. -/
def unknown : Errno := ⟨0, .inl rfl⟩

/-- No such file or directory. -/
def noEntry : Errno := ⟨2, .inr (by decide)⟩

/-- Interrupted by a signal. -/
def interrupted : Errno := ⟨4, .inr (by decide)⟩

/-- Input or output failed. -/
def inputOutput : Errno := ⟨5, .inr (by decide)⟩

/-- The path goes through something that is not a directory. -/
def notDirectory : Errno := ⟨20, .inr (by decide)⟩

/-- There is something of that name already. -/
def fileExists : Errno := ⟨17, .inr (by decide)⟩

/-- A folder stands where a file was expected. -/
def isDirectory : Errno := ⟨21, .inr (by decide)⟩

/-- A component of the path, or all of it, is too long. -/
def nameTooLong : Errno := ⟨36, .inr (by decide)⟩

/-- The kernel does not offer the call. -/
def notImplemented : Errno := ⟨38, .inr (by decide)⟩

/-- **The error of a raw number**: itself if it is listed, else the unknown error. -/
def ofCode (n : Int32) : Errno :=
  if h : (listing.lookup n).isSome then ⟨n, .inr h⟩ else unknown

/-- **The raw number of an error is read back as that error.** -/
@[simp] theorem ofCode_code (e : Errno) : ofCode e.code = e := by
  obtain ⟨n, hn⟩ := e
  unfold ofCode
  split
  · rfl
  · next h =>
    rcases hn with rfl | hn
    · rfl
    · exact absurd hn h

/-- The text of an error. -/
def text (e : Errno) : String := (listing.lookup e.code).getD "Unknown errno"

/-- How an error is shown behind the name of the call that failed. -/
def describe (e : Errno) : String := "(0x" ++ Numeral.hexWord e.code ++ ") - " ++ e.text

end Errno

/-- The numbers whose text in the C library is not the listed one. -/
def systemWording : List (Int32 × String) := [
  (5, "Input/output error"),
  (9, "Bad file descriptor"),
  (11, "Resource temporarily unavailable"),
  (12, "Cannot allocate memory"),
  (18, "Invalid cross-device link"),
  (23, "Too many open files in system"),
  (25, "Inappropriate ioctl for device"),
  (33, "Numerical argument out of domain"),
  (34, "Numerical result out of range"),
  (35, "Resource deadlock avoided"),
  (37, "No locks available"),
  (40, "Too many levels of symbolic links"),
  (74, "Bad message"),
  (84, "Invalid or incomplete multibyte or wide character"),
  (95, "Operation not supported"),
  (102, "Network dropped connection on reset"),
  (122, "Disk quota exceeded")]

/-- The text of a raw number in the C library. -/
def systemText (n : Int32) : String :=
  if n = 0 then "Success"
  else match systemWording.lookup n with
    | some text => text
    | none => (Errno.listing.lookup n).getD ("Unknown error " ++ Numeral.signed n.toInt)

/-- A fault of ordinary input or output: one that the system numbers, or one that has only a
text. -/
inductive IoFault where
  /-- The system's raw number, listed or not. -/
  | system (code : Int32)
  /-- A fault without a number. -/
  | text (wording : String)
deriving DecidableEq, Repr

namespace IoFault

/-- The wording of a fault. -/
def message : IoFault → String
  | system n => systemText n ++ " (os error " ++ Numeral.signed n.toInt ++ ")"
  | text wording => wording

/-- The raw number of a fault, if it has one. -/
def code? : IoFault → Option Int32
  | system n => some n
  | text _ => none

/-- **The error behind a fault**: that of its number, and the general one if it has no number or the
number is zero. -/
def errno : IoFault → Errno
  | system n => if n = 0 then .inputOutput else .ofCode n
  | text _ => .inputOutput

/-- A write that accepts nothing is this fault. -/
def writeZero : IoFault := .text "failed to write whole buffer"

end IoFault
end Inotify

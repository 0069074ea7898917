/-!
# Faults of the operating system

A fault is known by its number, and each number that the system uses has a description.

* `Fault`             — a numbered fault, with names for those that operations on files meet.
* `Fault.description` — what a fault is called.

Main statement: `description_of_mem` — the table of descriptions holds each number once, so a
fault is called what any row with its number says.
-/

namespace MarketFeed

/-- A fault of the operating system, known by its number. -/
structure Fault where
  number : Int
  deriving DecidableEq, Repr

namespace Fault

/-- The operation is never allowed. -/
def notPermitted : Fault := ⟨1⟩

/-- Nothing stands at the path. -/
@[match_pattern] def notFound : Fault := ⟨2⟩

/-- Something stands at the path already. -/
def alreadyExists : Fault := ⟨17⟩

/-- A directory is needed and something else stands there. -/
def notADirectory : Fault := ⟨20⟩

/-- A directory stands where it cannot be used. -/
def isADirectory : Fault := ⟨21⟩

/-- A name or a whole path is longer than the system takes. -/
def nameTooLong : Fault := ⟨36⟩

/-- The numbers in use, in ascending order, with what each fault is called. -/
def descriptions : List (Int × String) :=
  [(0, "Success"), (1, "Operation not permitted"), (2, "No such file or directory"),
   (3, "No such process"), (4, "Interrupted system call"), (5, "Input/output error"),
   (6, "No such device or address"), (7, "Argument list too long"), (8, "Exec format error"),
   (9, "Bad file descriptor"), (10, "No child processes"),
   (11, "Resource temporarily unavailable"), (12, "Cannot allocate memory"),
   (13, "Permission denied"), (14, "Bad address"), (15, "Block device required"),
   (16, "Device or resource busy"), (17, "File exists"), (18, "Invalid cross-device link"),
   (19, "No such device"), (20, "Not a directory"), (21, "Is a directory"),
   (22, "Invalid argument"), (23, "Too many open files in system"), (24, "Too many open files"),
   (25, "Inappropriate ioctl for device"), (26, "Text file busy"), (27, "File too large"),
   (28, "No space left on device"), (29, "Illegal seek"), (30, "Read-only file system"),
   (31, "Too many links"), (32, "Broken pipe"), (33, "Numerical argument out of domain"),
   (34, "Numerical result out of range"), (35, "Resource deadlock avoided"),
   (36, "File name too long"), (37, "No locks available"), (38, "Function not implemented"),
   (39, "Directory not empty"), (40, "Too many levels of symbolic links"),
   (42, "No message of desired type"), (43, "Identifier removed"),
   (44, "Channel number out of range"), (45, "Level 2 not synchronized"), (46, "Level 3 halted"),
   (47, "Level 3 reset"), (48, "Link number out of range"), (49, "Protocol driver not attached"),
   (50, "No CSI structure available"), (51, "Level 2 halted"), (52, "Invalid exchange"),
   (53, "Invalid request descriptor"), (54, "Exchange full"), (55, "No anode"),
   (56, "Invalid request code"), (57, "Invalid slot"), (59, "Bad font file format"),
   (60, "Device not a stream"), (61, "No data available"), (62, "Timer expired"),
   (63, "Out of streams resources"), (64, "Machine is not on the network"),
   (65, "Package not installed"), (66, "Object is remote"), (67, "Link has been severed"),
   (68, "Advertise error"), (69, "Srmount error"), (70, "Communication error on send"),
   (71, "Protocol error"), (72, "Multihop attempted"), (73, "RFS specific error"),
   (74, "Bad message"), (75, "Value too large for defined data type"),
   (76, "Name not unique on network"), (77, "File descriptor in bad state"),
   (78, "Remote address changed"), (79, "Can not access a needed shared library"),
   (80, "Accessing a corrupted shared library"), (81, ".lib section in a.out corrupted"),
   (82, "Attempting to link in too many shared libraries"),
   (83, "Cannot exec a shared library directly"),
   (84, "Invalid or incomplete multibyte or wide character"),
   (85, "Interrupted system call should be restarted"), (86, "Streams pipe error"),
   (87, "Too many users"), (88, "Socket operation on non-socket"),
   (89, "Destination address required"), (90, "Message too long"),
   (91, "Protocol wrong type for socket"), (92, "Protocol not available"),
   (93, "Protocol not supported"), (94, "Socket type not supported"),
   (95, "Operation not supported"), (96, "Protocol family not supported"),
   (97, "Address family not supported by protocol"), (98, "Address already in use"),
   (99, "Cannot assign requested address"), (100, "Network is down"),
   (101, "Network is unreachable"), (102, "Network dropped connection on reset"),
   (103, "Software caused connection abort"), (104, "Connection reset by peer"),
   (105, "No buffer space available"), (106, "Transport endpoint is already connected"),
   (107, "Transport endpoint is not connected"),
   (108, "Cannot send after transport endpoint shutdown"),
   (109, "Too many references: cannot splice"), (110, "Connection timed out"),
   (111, "Connection refused"), (112, "Host is down"), (113, "No route to host"),
   (114, "Operation already in progress"), (115, "Operation now in progress"),
   (116, "Stale file handle"), (117, "Structure needs cleaning"),
   (118, "Not a XENIX named type file"), (119, "No XENIX semaphores available"),
   (120, "Is a named type file"), (121, "Remote I/O error"), (122, "Disk quota exceeded"),
   (123, "No medium found"), (124, "Wrong medium type"), (125, "Operation canceled"),
   (126, "Required key not available"), (127, "Key has expired"), (128, "Key has been revoked"),
   (129, "Key was rejected by service"), (130, "Owner died"), (131, "State not recoverable"),
   (132, "Operation not possible due to RF-kill"), (133, "Memory page has hardware error")]

/-- What a fault is called. -/
def description (f : Fault) : String :=
  (descriptions.lookup f.number).getD ("Unknown error " ++ toString f.number)

/-! ## Laws -/

theorem pairwise_descriptions : descriptions.Pairwise fun a b => a.1 < b.1 := by
  decide +kernel

/-- A row of a list with ascending keys is the one found under its key. -/
theorem lookup_of_mem {rows : List (Int × String)} {row : Int × String}
    (ascending : rows.Pairwise fun a b => a.1 < b.1) (h : row ∈ rows) :
    rows.lookup row.1 = some row.2 := by
  induction rows with
  | nil => simp at h
  | cons first rest ih =>
    rw [List.pairwise_cons] at ascending
    rcases List.mem_cons.1 h with rfl | h
    · exact List.lookup_cons_self
    · have : row.1 ≠ first.1 := by
        have := ascending.1 row h
        omega
      rw [List.lookup_cons, beq_false_of_ne this]
      exact ih ascending.2 h

/-- A fault is called what the row with its number says. -/
theorem description_of_mem {f : Fault} {text : String} (h : (f.number, text) ∈ descriptions) :
    f.description = text := by
  rw [description, lookup_of_mem pairwise_descriptions h, Option.getD_some]

end Fault

end MarketFeed

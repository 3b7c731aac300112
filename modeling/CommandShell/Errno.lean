/-!
# Error numbers of the operating system

An error number has a name and two wordings: the short description that a process prints about
itself, and the text of the system's message catalogue, which carries the number behind it. The
wordings agree for most numbers. A number crosses from one process to another as four bytes, least
significant first; main statement: it is read back as it was written (`Errno.ofBytes?_toBytes`).
-/

namespace CommandShell

/-- A sequence of bytes, as it is written or read. -/
abbrev Bytes := List UInt8

/-- An error number. -/
structure Errno where
  /-- The number itself. -/
  number : Int
  deriving DecidableEq, Repr, Inhabited

namespace Errno

/-- What is known about one error number. -/
structure Entry where
  /-- The number. -/
  number : Int
  /-- Its symbolic name. -/
  name : String
  /-- Its short description. -/
  description : String
  /-- The catalogue's wording, where it differs from the description. -/
  catalogue : Option String

/-- The error numbers of the platform, in order. -/
def entries : List Entry := [
  ⟨1, "EPERM", "Operation not permitted", none⟩,
  ⟨2, "ENOENT", "No such file or directory", none⟩,
  ⟨3, "ESRCH", "No such process", none⟩,
  ⟨4, "EINTR", "Interrupted system call", none⟩,
  ⟨5, "EIO", "I/O error", some "Input/output error"⟩,
  ⟨6, "ENXIO", "No such device or address", none⟩,
  ⟨7, "E2BIG", "Argument list too long", none⟩,
  ⟨8, "ENOEXEC", "Exec format error", none⟩,
  ⟨9, "EBADF", "Bad file number", some "Bad file descriptor"⟩,
  ⟨10, "ECHILD", "No child processes", none⟩,
  ⟨11, "EAGAIN", "Try again", some "Resource temporarily unavailable"⟩,
  ⟨12, "ENOMEM", "Out of memory", some "Cannot allocate memory"⟩,
  ⟨13, "EACCES", "Permission denied", none⟩,
  ⟨14, "EFAULT", "Bad address", none⟩,
  ⟨15, "ENOTBLK", "Block device required", none⟩,
  ⟨16, "EBUSY", "Device or resource busy", none⟩,
  ⟨17, "EEXIST", "File exists", none⟩,
  ⟨18, "EXDEV", "Cross-device link", some "Invalid cross-device link"⟩,
  ⟨19, "ENODEV", "No such device", none⟩,
  ⟨20, "ENOTDIR", "Not a directory", none⟩,
  ⟨21, "EISDIR", "Is a directory", none⟩,
  ⟨22, "EINVAL", "Invalid argument", none⟩,
  ⟨23, "ENFILE", "File table overflow", some "Too many open files in system"⟩,
  ⟨24, "EMFILE", "Too many open files", none⟩,
  ⟨25, "ENOTTY", "Not a typewriter", some "Inappropriate ioctl for device"⟩,
  ⟨26, "ETXTBSY", "Text file busy", none⟩,
  ⟨27, "EFBIG", "File too large", none⟩,
  ⟨28, "ENOSPC", "No space left on device", none⟩,
  ⟨29, "ESPIPE", "Illegal seek", none⟩,
  ⟨30, "EROFS", "Read-only file system", none⟩,
  ⟨31, "EMLINK", "Too many links", none⟩,
  ⟨32, "EPIPE", "Broken pipe", none⟩,
  ⟨33, "EDOM", "Math argument out of domain of func", some "Numerical argument out of domain"⟩,
  ⟨34, "ERANGE", "Math result not representable", some "Numerical result out of range"⟩,
  ⟨35, "EDEADLK", "Resource deadlock would occur", some "Resource deadlock avoided"⟩,
  ⟨36, "ENAMETOOLONG", "File name too long", none⟩,
  ⟨37, "ENOLCK", "No record locks available", some "No locks available"⟩,
  ⟨38, "ENOSYS", "Function not implemented", none⟩,
  ⟨39, "ENOTEMPTY", "Directory not empty", none⟩,
  ⟨40, "ELOOP", "Too many symbolic links encountered", some "Too many levels of symbolic links"⟩,
  ⟨42, "ENOMSG", "No message of desired type", none⟩,
  ⟨43, "EIDRM", "Identifier removed", none⟩,
  ⟨44, "ECHRNG", "Channel number out of range", none⟩,
  ⟨45, "EL2NSYNC", "Level 2 not synchronized", none⟩,
  ⟨46, "EL3HLT", "Level 3 halted", none⟩,
  ⟨47, "EL3RST", "Level 3 reset", none⟩,
  ⟨48, "ELNRNG", "Link number out of range", none⟩,
  ⟨49, "EUNATCH", "Protocol driver not attached", none⟩,
  ⟨50, "ENOCSI", "No CSI structure available", none⟩,
  ⟨51, "EL2HLT", "Level 2 halted", none⟩,
  ⟨52, "EBADE", "Invalid exchange", none⟩,
  ⟨53, "EBADR", "Invalid request descriptor", none⟩,
  ⟨54, "EXFULL", "Exchange full", none⟩,
  ⟨55, "ENOANO", "No anode", none⟩,
  ⟨56, "EBADRQC", "Invalid request code", none⟩,
  ⟨57, "EBADSLT", "Invalid slot", none⟩,
  ⟨59, "EBFONT", "Bad font file format", none⟩,
  ⟨60, "ENOSTR", "Device not a stream", none⟩,
  ⟨61, "ENODATA", "No data available", none⟩,
  ⟨62, "ETIME", "Timer expired", none⟩,
  ⟨63, "ENOSR", "Out of streams resources", none⟩,
  ⟨64, "ENONET", "Machine is not on the network", none⟩,
  ⟨65, "ENOPKG", "Package not installed", none⟩,
  ⟨66, "EREMOTE", "Object is remote", none⟩,
  ⟨67, "ENOLINK", "Link has been severed", none⟩,
  ⟨68, "EADV", "Advertise error", none⟩,
  ⟨69, "ESRMNT", "Srmount error", none⟩,
  ⟨70, "ECOMM", "Communication error on send", none⟩,
  ⟨71, "EPROTO", "Protocol error", none⟩,
  ⟨72, "EMULTIHOP", "Multihop attempted", none⟩,
  ⟨73, "EDOTDOT", "RFS specific error", none⟩,
  ⟨74, "EBADMSG", "Not a data message", some "Bad message"⟩,
  ⟨75, "EOVERFLOW", "Value too large for defined data type", none⟩,
  ⟨76, "ENOTUNIQ", "Name not unique on network", none⟩,
  ⟨77, "EBADFD", "File descriptor in bad state", none⟩,
  ⟨78, "EREMCHG", "Remote address changed", none⟩,
  ⟨79, "ELIBACC", "Can not access a needed shared library", none⟩,
  ⟨80, "ELIBBAD", "Accessing a corrupted shared library", none⟩,
  ⟨81, "ELIBSCN", ".lib section in a.out corrupted", none⟩,
  ⟨82, "ELIBMAX", "Attempting to link in too many shared libraries", none⟩,
  ⟨83, "ELIBEXEC", "Cannot exec a shared library directly", none⟩,
  ⟨84, "EILSEQ", "Illegal byte sequence", some "Invalid or incomplete multibyte or wide character"⟩,
  ⟨85, "ERESTART", "Interrupted system call should be restarted", none⟩,
  ⟨86, "ESTRPIPE", "Streams pipe error", none⟩,
  ⟨87, "EUSERS", "Too many users", none⟩,
  ⟨88, "ENOTSOCK", "Socket operation on non-socket", none⟩,
  ⟨89, "EDESTADDRREQ", "Destination address required", none⟩,
  ⟨90, "EMSGSIZE", "Message too long", none⟩,
  ⟨91, "EPROTOTYPE", "Protocol wrong type for socket", none⟩,
  ⟨92, "ENOPROTOOPT", "Protocol not available", none⟩,
  ⟨93, "EPROTONOSUPPORT", "Protocol not supported", none⟩,
  ⟨94, "ESOCKTNOSUPPORT", "Socket type not supported", none⟩,
  ⟨95, "EOPNOTSUPP", "Operation not supported on transport endpoint",
    some "Operation not supported"⟩,
  ⟨96, "EPFNOSUPPORT", "Protocol family not supported", none⟩,
  ⟨97, "EAFNOSUPPORT", "Address family not supported by protocol", none⟩,
  ⟨98, "EADDRINUSE", "Address already in use", none⟩,
  ⟨99, "EADDRNOTAVAIL", "Cannot assign requested address", none⟩,
  ⟨100, "ENETDOWN", "Network is down", none⟩,
  ⟨101, "ENETUNREACH", "Network is unreachable", none⟩,
  ⟨102, "ENETRESET", "Network dropped connection because of reset",
    some "Network dropped connection on reset"⟩,
  ⟨103, "ECONNABORTED", "Software caused connection abort", none⟩,
  ⟨104, "ECONNRESET", "Connection reset by peer", none⟩,
  ⟨105, "ENOBUFS", "No buffer space available", none⟩,
  ⟨106, "EISCONN", "Transport endpoint is already connected", none⟩,
  ⟨107, "ENOTCONN", "Transport endpoint is not connected", none⟩,
  ⟨108, "ESHUTDOWN", "Cannot send after transport endpoint shutdown", none⟩,
  ⟨109, "ETOOMANYREFS", "Too many references: cannot splice", none⟩,
  ⟨110, "ETIMEDOUT", "Connection timed out", none⟩,
  ⟨111, "ECONNREFUSED", "Connection refused", none⟩,
  ⟨112, "EHOSTDOWN", "Host is down", none⟩,
  ⟨113, "EHOSTUNREACH", "No route to host", none⟩,
  ⟨114, "EALREADY", "Operation already in progress", none⟩,
  ⟨115, "EINPROGRESS", "Operation now in progress", none⟩,
  ⟨116, "ESTALE", "Stale file handle", none⟩,
  ⟨117, "EUCLEAN", "Structure needs cleaning", none⟩,
  ⟨118, "ENOTNAM", "Not a XENIX named type file", none⟩,
  ⟨119, "ENAVAIL", "No XENIX semaphores available", none⟩,
  ⟨120, "EISNAM", "Is a named type file", none⟩,
  ⟨121, "EREMOTEIO", "Remote I/O error", none⟩,
  ⟨122, "EDQUOT", "Quota exceeded", some "Disk quota exceeded"⟩,
  ⟨123, "ENOMEDIUM", "No medium found", none⟩,
  ⟨124, "EMEDIUMTYPE", "Wrong medium type", none⟩,
  ⟨125, "ECANCELED", "Operation canceled", none⟩,
  ⟨126, "ENOKEY", "Required key not available", none⟩,
  ⟨127, "EKEYEXPIRED", "Key has expired", none⟩,
  ⟨128, "EKEYREVOKED", "Key has been revoked", none⟩,
  ⟨129, "EKEYREJECTED", "Key was rejected by service", none⟩,
  ⟨130, "EOWNERDEAD", "Owner died", none⟩,
  ⟨131, "ENOTRECOVERABLE", "State not recoverable", none⟩,
  ⟨132, "ERFKILL", "Operation not possible due to RF-kill", none⟩,
  ⟨133, "EHWPOISON", "Memory page has hardware error", none⟩
]

/-- The entry of an error number, if the platform has it. -/
def entry? (e : Errno) : Option Entry := entries.find? (·.number == e.number)

/-- The symbolic name. -/
def name (e : Errno) : String :=
  match e.entry? with
  | some entry => entry.name
  | none => "UnknownErrno"

/-- The short description. -/
def description (e : Errno) : String :=
  match e.entry? with
  | some entry => entry.description
  | none => "Unknown errno"

/-- The wording of the message catalogue, without the number. -/
def catalogue (e : Errno) : String :=
  match e.entry? with
  | some entry => entry.catalogue.getD entry.description
  | none => if e.number = 0 then "Success" else "Unknown error " ++ toString e.number

/-- Name and description, as a failed request is reported. -/
def named (e : Errno) : String := e.name ++ ": " ++ e.description

/-- The catalogue's wording with the number behind it. -/
def systemText (e : Errno) : String :=
  e.catalogue ++ " (os error " ++ toString e.number ++ ")"

/-- The process is not allowed to do something. -/
def notPermitted : Errno := ⟨1⟩

/-- No such file or directory. -/
def noEntry : Errno := ⟨2⟩

/-- No such process. -/
def noProcess : Errno := ⟨3⟩

/-- A request was interrupted before it did anything. -/
def interrupted : Errno := ⟨4⟩

/-- The arguments of a program are too long. -/
def argumentsTooLong : Errno := ⟨7⟩

/-- A file is not in a format that can be run. -/
def unknownFormat : Errno := ⟨8⟩

/-- A descriptor is not open for what was asked. -/
def badDescriptor : Errno := ⟨9⟩

/-- A device is not there. -/
def noDevice : Errno := ⟨6⟩

/-- There is no child to wait for. -/
def noChild : Errno := ⟨10⟩

/-- What was asked for could only be had by waiting. -/
def tryAgain : Errno := ⟨11⟩

/-- Permission denied. -/
def accessDenied : Errno := ⟨13⟩

/-- Something is in use. -/
def busy : Errno := ⟨16⟩

/-- The error of a file that must not exist. -/
def fileExists : Errno := ⟨17⟩

/-- A path leads through something that is not a directory. -/
def notDirectory : Errno := ⟨20⟩

/-- A directory stands where a file is needed. -/
def isDirectory : Errno := ⟨21⟩

/-- An argument makes no sense. -/
def invalid : Errno := ⟨22⟩

/-- The process has no descriptor left. -/
def tooManyOpen : Errno := ⟨24⟩

/-- The size of a file is limited. -/
def fileTooLarge : Errno := ⟨27⟩

/-- A program cannot be run while it is being written. -/
def textBusy : Errno := ⟨26⟩

/-- A device is full. -/
def noSpace : Errno := ⟨28⟩

/-- A position was asked of something that has none. -/
def illegalSeek : Errno := ⟨29⟩

/-- Nobody will read what was written. -/
def brokenPipe : Errno := ⟨32⟩

/-- A number is too great to be expressed. -/
def outOfRange : Errno := ⟨34⟩

/-- A name or a path is too long. -/
def nameTooLong : Errno := ⟨36⟩

/-- A directory is not empty. -/
def notEmpty : Errno := ⟨39⟩

/-- A path leads through too many symbolic links. -/
def linkLoop : Errno := ⟨40⟩

/-- A value has no room in its type. -/
def tooLarge : Errno := ⟨75⟩

/-- The number of values that four bytes can have. -/
def wordSize : Int := 4294967296

/-- The four bytes of a number, least significant first. -/
def bytesOfWord (n : Nat) : Bytes := [n, n / 256, n / 65536, n / 16777216].map UInt8.ofNat

/-- The number that four bytes stand for. One in the upper half of the range is negative. -/
def ofWord (n : Nat) : Errno := ⟨if n < 2147483648 then n else n - wordSize⟩

/-- The four bytes of an error number, least significant first. -/
def toBytes (e : Errno) : Bytes := bytesOfWord (e.number % wordSize).toNat

/-- The error number in the first four bytes, if there are as many. -/
def ofBytes? : Bytes → Option Errno
  | a :: b :: c :: d :: _ =>
    some (ofWord (a.toNat + b.toNat * 256 + c.toNat * 65536 + d.toNat * 16777216))
  | _ => none

/-- Four bytes are read back as the number that they were made of. -/
theorem ofBytes?_bytesOfWord (n : Nat) (rest : Bytes) (h : n < 4294967296) :
    ofBytes? (bytesOfWord n ++ rest) = some (ofWord n) := by
  simp only [bytesOfWord, List.map_cons, List.map_nil, List.cons_append, List.nil_append, ofBytes?,
    UInt8.toNat_ofNat', Option.some.injEq]
  congr 1
  omega

/-- A number of at most 32 bits is read back as it was written, whatever follows it. -/
theorem ofBytes?_toBytes (e : Errno) (rest : Bytes) (h : -2147483648 ≤ e.number)
    (h' : e.number < 2147483648) : ofBytes? (e.toBytes ++ rest) = some e := by
  obtain ⟨n⟩ := e
  simp only [] at h h'
  have hw : (n % wordSize).toNat < 4294967296 := by simp only [wordSize]; omega
  rw [toBytes, ofBytes?_bytesOfWord _ _ hw, ofWord, Option.some.injEq, Errno.mk.injEq]
  by_cases hn : (n % wordSize).toNat < 2147483648
  · rw [if_pos hn]; simp only [wordSize] at *; omega
  · rw [if_neg hn]; simp only [wordSize] at *; omega

end Errno

end CommandShell

/-! # Input and output errors

What a failed system call or stream operation reports: a bare kind, a kind with its own text, or
the number of an operating system error.  `IoError.kind` classifies all three, `IoError.message`
words them.
-/

namespace TimeServer

inductive IoKind
  | notFound | permissionDenied | connectionRefused | connectionReset | connectionAborted
  | hostUnreachable | networkUnreachable | networkDown | notConnected | addrInUse | addrNotAvailable
  | brokenPipe | alreadyExists | wouldBlock | notADirectory | isADirectory | directoryNotEmpty
  | readOnlyFilesystem | storageFull | fileTooLarge | resourceBusy | invalidFilename | invalidInput
  | invalidData | timedOut | writeZero | interrupted | unsupported | unexpectedEof | outOfMemory
  | other | uncategorized
  deriving DecidableEq, Repr

namespace IoKind

def description : IoKind → String
  | notFound => "entity not found"
  | permissionDenied => "permission denied"
  | connectionRefused => "connection refused"
  | connectionReset => "connection reset"
  | connectionAborted => "connection aborted"
  | hostUnreachable => "host unreachable"
  | networkUnreachable => "network unreachable"
  | networkDown => "network down"
  | notConnected => "not connected"
  | addrInUse => "address in use"
  | addrNotAvailable => "address not available"
  | brokenPipe => "broken pipe"
  | alreadyExists => "entity already exists"
  | wouldBlock => "operation would block"
  | notADirectory => "not a directory"
  | isADirectory => "is a directory"
  | directoryNotEmpty => "directory not empty"
  | readOnlyFilesystem => "read-only filesystem or storage medium"
  | storageFull => "no storage space"
  | fileTooLarge => "file too large"
  | resourceBusy => "resource busy"
  | invalidFilename => "invalid filename"
  | invalidInput => "invalid input parameter"
  | invalidData => "invalid data"
  | timedOut => "timed out"
  | writeZero => "write zero"
  | interrupted => "operation interrupted"
  | unsupported => "unsupported"
  | unexpectedEof => "unexpected end of file"
  | outOfMemory => "out of memory"
  | other => "other error"
  | uncategorized => "uncategorized error"

end IoKind

def osError : Nat → IoKind × String
  | 1 => (.permissionDenied, "Operation not permitted")
  | 2 => (.notFound, "No such file or directory")
  | 4 => (.interrupted, "Interrupted system call")
  | 5 => (.uncategorized, "Input/output error")
  | 9 => (.uncategorized, "Bad file descriptor")
  | 11 => (.wouldBlock, "Resource temporarily unavailable")
  | 12 => (.outOfMemory, "Cannot allocate memory")
  | 13 => (.permissionDenied, "Permission denied")
  | 16 => (.resourceBusy, "Device or resource busy")
  | 17 => (.alreadyExists, "File exists")
  | 20 => (.notADirectory, "Not a directory")
  | 21 => (.isADirectory, "Is a directory")
  | 22 => (.invalidInput, "Invalid argument")
  | 23 => (.uncategorized, "Too many open files in system")
  | 24 => (.uncategorized, "Too many open files")
  | 27 => (.fileTooLarge, "File too large")
  | 28 => (.storageFull, "No space left on device")
  | 30 => (.readOnlyFilesystem, "Read-only file system")
  | 32 => (.brokenPipe, "Broken pipe")
  | 36 => (.invalidFilename, "File name too long")
  | 39 => (.directoryNotEmpty, "Directory not empty")
  | 71 => (.uncategorized, "Protocol error")
  | 88 => (.uncategorized, "Socket operation on non-socket")
  | 95 => (.unsupported, "Operation not supported")
  | 97 => (.uncategorized, "Address family not supported by protocol")
  | 98 => (.addrInUse, "Address already in use")
  | 99 => (.addrNotAvailable, "Cannot assign requested address")
  | 100 => (.networkDown, "Network is down")
  | 101 => (.networkUnreachable, "Network is unreachable")
  | 103 => (.connectionAborted, "Software caused connection abort")
  | 104 => (.connectionReset, "Connection reset by peer")
  | 105 => (.uncategorized, "No buffer space available")
  | 107 => (.notConnected, "Transport endpoint is not connected")
  | 110 => (.timedOut, "Connection timed out")
  | 111 => (.connectionRefused, "Connection refused")
  | 113 => (.hostUnreachable, "No route to host")
  | n => (.uncategorized, s!"Unknown error {n}")

inductive IoError
  | plain (kind : IoKind)
  | custom (kind : IoKind) (text : String)
  | os (code : Nat)
  deriving DecidableEq, Repr

namespace IoError

def kind : IoError → IoKind
  | plain k => k
  | custom k _ => k
  | os code => (osError code).1

def message : IoError → String
  | plain k => k.description
  | custom _ text => text
  | os code => s!"{(osError code).2} (os error {code})"

/-- Whether the call was merely interrupted and may be made again. -/
def isInterrupted (e : IoError) : Bool := e.kind == .interrupted

end IoError

end TimeServer

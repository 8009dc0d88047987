import AttributePrinter.SystemError.Codes

/-!
# Failures of reading and writing

What can go wrong between the program and the system below it: an error code of a system call,
a failure known only by its kind, a failure with a text of its own, or a writer that takes no
more bytes. Only the first has a code to report.
-/

namespace AttributePrinter

inductive FailureKind where
  | addressInUse
  | addressNotAvailable
  | alreadyExists
  | argumentListTooLong
  | brokenPipe
  | connectionAborted
  | connectionRefused
  | connectionReset
  | crossesDevices
  | deadlock
  | directoryNotEmpty
  | executableFileBusy
  | fileTooLarge
  | filesystemLoop
  | hostUnreachable
  | inProgress
  | interrupted
  | invalidData
  | invalidFilename
  | invalidInput
  | isADirectory
  | networkDown
  | networkUnreachable
  | notADirectory
  | notConnected
  | notFound
  | notSeekable
  | other
  | outOfMemory
  | permissionDenied
  | quotaExceeded
  | readOnlyFilesystem
  | resourceBusy
  | staleNetworkFileHandle
  | storageFull
  | timedOut
  | tooManyLinks
  | uncategorized
  | unexpectedEnd
  | unsupported
  | wouldBlock
  | writeZero
  deriving DecidableEq, Repr

def FailureKind.description : FailureKind → String
  | .addressInUse => "address in use"
  | .addressNotAvailable => "address not available"
  | .alreadyExists => "entity already exists"
  | .argumentListTooLong => "argument list too long"
  | .brokenPipe => "broken pipe"
  | .connectionAborted => "connection aborted"
  | .connectionRefused => "connection refused"
  | .connectionReset => "connection reset"
  | .crossesDevices => "cross-device link or rename"
  | .deadlock => "deadlock"
  | .directoryNotEmpty => "directory not empty"
  | .executableFileBusy => "executable file busy"
  | .fileTooLarge => "file too large"
  | .filesystemLoop => "filesystem loop or indirection limit (e.g. symlink loop)"
  | .hostUnreachable => "host unreachable"
  | .inProgress => "in progress"
  | .interrupted => "operation interrupted"
  | .invalidData => "invalid data"
  | .invalidFilename => "invalid filename"
  | .invalidInput => "invalid input parameter"
  | .isADirectory => "is a directory"
  | .networkDown => "network down"
  | .networkUnreachable => "network unreachable"
  | .notADirectory => "not a directory"
  | .notConnected => "not connected"
  | .notFound => "entity not found"
  | .notSeekable => "seek on unseekable file"
  | .other => "other error"
  | .outOfMemory => "out of memory"
  | .permissionDenied => "permission denied"
  | .quotaExceeded => "quota exceeded"
  | .readOnlyFilesystem => "read-only filesystem or storage medium"
  | .resourceBusy => "resource busy"
  | .staleNetworkFileHandle => "stale network file handle"
  | .storageFull => "no storage space"
  | .timedOut => "timed out"
  | .tooManyLinks => "too many links"
  | .uncategorized => "uncategorized error"
  | .unexpectedEnd => "unexpected end of file"
  | .unsupported => "unsupported"
  | .wouldBlock => "operation would block"
  | .writeZero => "write zero"

inductive SystemError where
  | code (n : Int)
  | kind (k : FailureKind)
  | custom (text : String)
  | nothingTaken
  deriving DecidableEq, Repr

namespace SystemError

def message : SystemError → String
  | .code n => s!"{codeText n} (os error {n})"
  | .kind k => k.description
  | .custom text => text
  | .nothingTaken => "failed to write whole buffer"

def code? : SystemError → Option Int
  | .code n => some n
  | _ => none

def notPermitted : SystemError := .code 1
def noEntry : SystemError := .code 2
def listTooLong : SystemError := .code 7
def notDirectory : SystemError := .code 20
def invalidArgument : SystemError := .code 22
def noSpace : SystemError := .code 28
def outOfRange : SystemError := .code 34
def nameTooLong : SystemError := .code 36
def tooManyLinks : SystemError := .code 40
def noData : SystemError := .code 61
def notSupported : SystemError := .code 95

end SystemError

end AttributePrinter

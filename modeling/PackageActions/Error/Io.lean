/-!
# Input and output failures

A failed operation leaves a kind and a message. The kinds have names; a written failure is read back with
its kind if that is one of a few, and under a general kind otherwise.
-/

namespace PackageActions

/-- What kind of failure an input or output operation met. -/
inductive IoKind where
  | notFound | permissionDenied | connectionRefused | connectionReset | hostUnreachable
  | networkUnreachable | connectionAborted | notConnected | addrInUse | addrNotAvailable
  | networkDown | brokenPipe | alreadyExists | wouldBlock | notADirectory | isADirectory
  | directoryNotEmpty | readOnlyFilesystem | filesystemLoop | staleNetworkFileHandle
  | invalidInput | invalidData | timedOut | writeZero | storageFull | notSeekable
  | quotaExceeded | fileTooLarge | resourceBusy | executableFileBusy | deadlock
  | crossesDevices | tooManyLinks | invalidFilename | argumentListTooLong | interrupted
  | unsupported | unexpectedEof | outOfMemory | inProgress | tooManyOpenFiles | other
  | uncategorized
deriving DecidableEq, Inhabited

namespace IoKind

/-- The name of a kind. -/
def name : IoKind → String
  | .notFound => "NotFound"
  | .permissionDenied => "PermissionDenied"
  | .connectionRefused => "ConnectionRefused"
  | .connectionReset => "ConnectionReset"
  | .hostUnreachable => "HostUnreachable"
  | .networkUnreachable => "NetworkUnreachable"
  | .connectionAborted => "ConnectionAborted"
  | .notConnected => "NotConnected"
  | .addrInUse => "AddrInUse"
  | .addrNotAvailable => "AddrNotAvailable"
  | .networkDown => "NetworkDown"
  | .brokenPipe => "BrokenPipe"
  | .alreadyExists => "AlreadyExists"
  | .wouldBlock => "WouldBlock"
  | .notADirectory => "NotADirectory"
  | .isADirectory => "IsADirectory"
  | .directoryNotEmpty => "DirectoryNotEmpty"
  | .readOnlyFilesystem => "ReadOnlyFilesystem"
  | .filesystemLoop => "FilesystemLoop"
  | .staleNetworkFileHandle => "StaleNetworkFileHandle"
  | .invalidInput => "InvalidInput"
  | .invalidData => "InvalidData"
  | .timedOut => "TimedOut"
  | .writeZero => "WriteZero"
  | .storageFull => "StorageFull"
  | .notSeekable => "NotSeekable"
  | .quotaExceeded => "QuotaExceeded"
  | .fileTooLarge => "FileTooLarge"
  | .resourceBusy => "ResourceBusy"
  | .executableFileBusy => "ExecutableFileBusy"
  | .deadlock => "Deadlock"
  | .crossesDevices => "CrossesDevices"
  | .tooManyLinks => "TooManyLinks"
  | .invalidFilename => "InvalidFilename"
  | .argumentListTooLong => "ArgumentListTooLong"
  | .interrupted => "Interrupted"
  | .unsupported => "Unsupported"
  | .unexpectedEof => "UnexpectedEof"
  | .outOfMemory => "OutOfMemory"
  | .inProgress => "InProgress"
  | .tooManyOpenFiles => "TooManyOpenFiles"
  | .other => "Other"
  | .uncategorized => "Uncategorized"

/-- Every kind. -/
def all : List IoKind :=
  [.notFound, .permissionDenied, .connectionRefused, .connectionReset, .hostUnreachable,
    .networkUnreachable, .connectionAborted, .notConnected, .addrInUse, .addrNotAvailable,
    .networkDown, .brokenPipe, .alreadyExists, .wouldBlock, .notADirectory, .isADirectory,
    .directoryNotEmpty, .readOnlyFilesystem, .filesystemLoop, .staleNetworkFileHandle,
    .invalidInput, .invalidData, .timedOut, .writeZero, .storageFull, .notSeekable,
    .quotaExceeded, .fileTooLarge, .resourceBusy, .executableFileBusy, .deadlock,
    .crossesDevices, .tooManyLinks, .invalidFilename, .argumentListTooLong, .interrupted,
    .unsupported, .unexpectedEof, .outOfMemory, .inProgress, .tooManyOpenFiles, .other,
    .uncategorized]

/-- The kind of a name. -/
def ofName? (name : String) : Option IoKind := all.find? fun kind => kind.name = name

/-- The kinds that keep their identity when a failure is read back from its written form. -/
def readable : List IoKind :=
  [.notFound, .permissionDenied, .alreadyExists, .invalidInput, .invalidData, .unexpectedEof]

/-- The kind read back from a written name: one of the readable kinds, or else `other`. -/
def ofWritten (name : String) : IoKind :=
  (readable.find? fun kind => kind.name = name).getD .other

end IoKind

/-- A failure of an input or output operation. -/
structure IoFailure where
  kind : IoKind
  message : String
deriving DecidableEq, Inhabited

namespace IoFailure

/-- A path with a zero byte in it. -/
def zeroByte : IoFailure := ⟨.invalidInput, "file name contained an unexpected NUL byte"⟩

/-- A file that is no text. -/
def notUtf8 : IoFailure := ⟨.invalidData, "stream did not contain valid UTF-8"⟩

end IoFailure

end PackageActions

import FlakeImage.Image
import FlakeImage.Path

/-! # Errors

What can go wrong in a build, by cause: an operation of the system (`SystemError`), a call to the
container runtime (`RuntimeError`), one attempt to load an archive (`LoadError`), the build as a whole
(`BuildError`). An error that comes from another one of these holds it; `message` ends with the message of the
error held, and `causes` lists the causes from the outermost on. -/

namespace FlakeImage

/-- What an operation of the system reports: a number of the system, or a text. The text may be that of an error
from elsewhere, which is passed on in its place; the causes are then those of that error, by their texts. -/
inductive SystemError
  | code (n : Int)
  | text (s : String) (causes : List String := [])
  deriving DecidableEq, Repr

namespace SystemError

/-- The system's words for an error number; 41 and 58 are not in use. -/
def describe : Nat → String
  | 0 => "Success"
  | 1 => "Operation not permitted"
  | 2 => "No such file or directory"
  | 3 => "No such process"
  | 4 => "Interrupted system call"
  | 5 => "Input/output error"
  | 6 => "No such device or address"
  | 7 => "Argument list too long"
  | 8 => "Exec format error"
  | 9 => "Bad file descriptor"
  | 10 => "No child processes"
  | 11 => "Resource temporarily unavailable"
  | 12 => "Cannot allocate memory"
  | 13 => "Permission denied"
  | 14 => "Bad address"
  | 15 => "Block device required"
  | 16 => "Device or resource busy"
  | 17 => "File exists"
  | 18 => "Invalid cross-device link"
  | 19 => "No such device"
  | 20 => "Not a directory"
  | 21 => "Is a directory"
  | 22 => "Invalid argument"
  | 23 => "Too many open files in system"
  | 24 => "Too many open files"
  | 25 => "Inappropriate ioctl for device"
  | 26 => "Text file busy"
  | 27 => "File too large"
  | 28 => "No space left on device"
  | 29 => "Illegal seek"
  | 30 => "Read-only file system"
  | 31 => "Too many links"
  | 32 => "Broken pipe"
  | 33 => "Numerical argument out of domain"
  | 34 => "Numerical result out of range"
  | 35 => "Resource deadlock avoided"
  | 36 => "File name too long"
  | 37 => "No locks available"
  | 38 => "Function not implemented"
  | 39 => "Directory not empty"
  | 40 => "Too many levels of symbolic links"
  | 42 => "No message of desired type"
  | 43 => "Identifier removed"
  | 44 => "Channel number out of range"
  | 45 => "Level 2 not synchronized"
  | 46 => "Level 3 halted"
  | 47 => "Level 3 reset"
  | 48 => "Link number out of range"
  | 49 => "Protocol driver not attached"
  | 50 => "No CSI structure available"
  | 51 => "Level 2 halted"
  | 52 => "Invalid exchange"
  | 53 => "Invalid request descriptor"
  | 54 => "Exchange full"
  | 55 => "No anode"
  | 56 => "Invalid request code"
  | 57 => "Invalid slot"
  | 59 => "Bad font file format"
  | 60 => "Device not a stream"
  | 61 => "No data available"
  | 62 => "Timer expired"
  | 63 => "Out of streams resources"
  | 64 => "Machine is not on the network"
  | 65 => "Package not installed"
  | 66 => "Object is remote"
  | 67 => "Link has been severed"
  | 68 => "Advertise error"
  | 69 => "Srmount error"
  | 70 => "Communication error on send"
  | 71 => "Protocol error"
  | 72 => "Multihop attempted"
  | 73 => "RFS specific error"
  | 74 => "Bad message"
  | 75 => "Value too large for defined data type"
  | 76 => "Name not unique on network"
  | 77 => "File descriptor in bad state"
  | 78 => "Remote address changed"
  | 79 => "Can not access a needed shared library"
  | 80 => "Accessing a corrupted shared library"
  | 81 => ".lib section in a.out corrupted"
  | 82 => "Attempting to link in too many shared libraries"
  | 83 => "Cannot exec a shared library directly"
  | 84 => "Invalid or incomplete multibyte or wide character"
  | 85 => "Interrupted system call should be restarted"
  | 86 => "Streams pipe error"
  | 87 => "Too many users"
  | 88 => "Socket operation on non-socket"
  | 89 => "Destination address required"
  | 90 => "Message too long"
  | 91 => "Protocol wrong type for socket"
  | 92 => "Protocol not available"
  | 93 => "Protocol not supported"
  | 94 => "Socket type not supported"
  | 95 => "Operation not supported"
  | 96 => "Protocol family not supported"
  | 97 => "Address family not supported by protocol"
  | 98 => "Address already in use"
  | 99 => "Cannot assign requested address"
  | 100 => "Network is down"
  | 101 => "Network is unreachable"
  | 102 => "Network dropped connection on reset"
  | 103 => "Software caused connection abort"
  | 104 => "Connection reset by peer"
  | 105 => "No buffer space available"
  | 106 => "Transport endpoint is already connected"
  | 107 => "Transport endpoint is not connected"
  | 108 => "Cannot send after transport endpoint shutdown"
  | 109 => "Too many references: cannot splice"
  | 110 => "Connection timed out"
  | 111 => "Connection refused"
  | 112 => "Host is down"
  | 113 => "No route to host"
  | 114 => "Operation already in progress"
  | 115 => "Operation now in progress"
  | 116 => "Stale file handle"
  | 117 => "Structure needs cleaning"
  | 118 => "Not a XENIX named type file"
  | 119 => "No XENIX semaphores available"
  | 120 => "Is a named type file"
  | 121 => "Remote I/O error"
  | 122 => "Disk quota exceeded"
  | 123 => "No medium found"
  | 124 => "Wrong medium type"
  | 125 => "Operation canceled"
  | 126 => "Required key not available"
  | 127 => "Key has expired"
  | 128 => "Key has been revoked"
  | 129 => "Key was rejected by service"
  | 130 => "Owner died"
  | 131 => "State not recoverable"
  | 132 => "Operation not possible due to RF-kill"
  | 133 => "Memory page has hardware error"
  | n => "Unknown error " ++ toString n

/-- The system's words for any number; no error has a number below zero. -/
def describeAny : Int → String
  | .ofNat n => describe n
  | n => "Unknown error " ++ toString n

/-- The text of a system error. -/
def message : SystemError → String
  | .code n => describeAny n ++ " (os error " ++ toString n ++ ")"
  | .text s _ => s

/-- The texts of the causes. An error that is passed on is none of them: its text is that of this one. -/
def causes : SystemError → List String
  | .code _ => []
  | .text _ causes => causes

/-- There is no such file. -/
def notFound : SystemError := .code 2

/-- The file may not be used like this. -/
def denied : SystemError := .code 13

/-- A part of the path leads through a file. -/
def notDirectory : SystemError := .code 20

/-- A directory cannot be read as a file. -/
def isDirectory : SystemError := .code 21

/-- The reader of a pipe is gone. -/
def brokenPipe : SystemError := .code 32

def nameTooLong : SystemError := .code 36

end SystemError

/-- Why a call to the container runtime failed. -/
inductive RuntimeError
  /-- The runtime's program could not be started. -/
  | spawn (program : String) (source : SystemError)
  /-- A command of the runtime ended without success. -/
  | command (line status stderr : String)
  /-- The runtime does not serve requests. -/
  | unavailable (text : String)
  /-- Data could not be passed to the runtime or read from it. -/
  | system (source : SystemError)
  deriving DecidableEq, Repr

namespace RuntimeError

def message : RuntimeError → String
  | .spawn program source => "failed to start " ++ program ++ ": " ++ source.message
  | .command line status stderr => "`" ++ line ++ "` failed: " ++ status ++ "\n" ++ stderr
  | .unavailable text => "container runtime unavailable: " ++ text
  | .system source => "IO error: " ++ source.message

def causes : RuntimeError → List String
  | .spawn _ source => source.message :: source.causes
  | .system source => source.message :: source.causes
  | .command .. | .unavailable _ => []

end RuntimeError

/-- Why one attempt to load an archive failed. -/
inductive LoadError
  /-- The archive could not be opened. -/
  | unreadable (path : Path) (source : SystemError)
  /-- The runtime did not take the archive. -/
  | ingestion (source : RuntimeError)
  /-- The response broke off. -/
  | response (source : SystemError)
  /-- The runtime answered with an error. -/
  | rejected (text : String)
  /-- The last line of the response names no tag. -/
  | unrecognised (line : String)
  deriving DecidableEq, Repr

namespace LoadError

def message : LoadError → String
  | .unreadable path source => "couldn't open image archive " ++ path.display ++ ": " ++ source.message
  | .ingestion source => "docker image load failed: " ++ source.message
  | .response source => "couldn't read docker image load response: " ++ source.message
  | .rejected text => "docker image load rejected: " ++ text
  | .unrecognised line => "unrecognised docker image load response: " ++ Text.quote line

def causes : LoadError → List String
  | .unreadable _ source => source.message :: source.causes
  | .ingestion source => source.message :: source.causes
  | .response source => source.message :: source.causes
  | .rejected _ | .unrecognised _ => []

end LoadError

/-- Why JSON text gave no configuration: it is no JSON, it ends too early, or it has another shape. The first two
are told of in words of their own, any other failure in its text. -/
inductive JsonError
  | malformed
  | truncated
  | mismatch (text : String)
  deriving DecidableEq, Repr

namespace JsonError

def message : JsonError → String
  | .malformed => "malformed JSON text"
  | .truncated => "unexpected end of JSON text"
  | .mismatch text => text

end JsonError

/-- Why a build, or another request to the builder, failed. -/
inductive BuildError
  /-- The configuration is meant for another builder. -/
  | otherBuilder (found : String)
  /-- There is no system for the processor of the host. -/
  | unsupportedArchitecture (arch : String)
  /-- The build tool could not be started. -/
  | toolSpawn (program : String) (source : SystemError)
  /-- The build tool ended without success. -/
  | toolFailed (status stderr : String)
  /-- The build tool named no archive. -/
  | noOutput
  /-- Every attempt to load the archive failed. -/
  | loadExhausted (attempts : Nat) (last : LoadError)
  /-- The runtime knows no image for a tag that it has just given. -/
  | unknownTag (tag : String)
  /-- The image is loaded, but could not be tagged. -/
  | tagFailed (image : ImageId) (tag : String) (source : RuntimeError)
  /-- The runtime failed outside of loading and tagging. -/
  | runtime (source : RuntimeError)
  /-- The build was cancelled. -/
  | cancelled
  /-- The builder cannot remove what it has built. -/
  | purgeUnsupported (builder : String)
  /-- The system failed. -/
  | system (source : SystemError)
  /-- The configuration could not be read. -/
  | json (source : JsonError)
  deriving DecidableEq, Repr

namespace BuildError

def message : BuildError → String
  | .otherBuilder found => "expected configuration type DockerNixConfig, was: " ++ found
  | .unsupportedArchitecture arch => "unsupported architecture: " ++ arch
  | .toolSpawn program source => "failed to start " ++ program ++ ": " ++ source.message
  | .toolFailed status stderr => "nix build failed: " ++ status ++ "\n" ++ stderr
  | .noOutput => "nix build succeeded but printed no output path"
  | .loadExhausted attempts last =>
    "image archive failed to load after " ++ toString attempts ++ " attempt(s): " ++ last.message
  | .unknownTag tag => "couldn't get docker image id for tag: " ++ tag
  | .tagFailed _ tag source => "couldn't tag image as " ++ tag ++ ": " ++ source.message
  | .runtime source => "container runtime error: " ++ source.message
  | .cancelled => "build cancelled"
  | .purgeUnsupported builder => "purge not implemented for " ++ builder
  | .system source => "IO error: " ++ source.message
  | .json source => "JSON parsing error: " ++ source.message

def causes : BuildError → List String
  | .toolSpawn _ source => source.message :: source.causes
  | .loadExhausted _ last => last.message :: last.causes
  | .tagFailed _ _ source => source.message :: source.causes
  | .runtime source => source.message :: source.causes
  | .system source => source.message :: source.causes
  | .json source => [source.message]
  | .otherBuilder _ | .unsupportedArchitecture _ | .toolFailed .. | .noOutput | .unknownTag _
  | .cancelled | .purgeUnsupported _ => []

/-- The image that exists although the build failed. -/
def partialImage? : BuildError → Option ImageId
  | .tagFailed image _ _ => some image
  | _ => none

end BuildError

end FlakeImage

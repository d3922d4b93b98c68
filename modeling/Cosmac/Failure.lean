import Cosmac.Text.Numeral

/-!
# Cosmac — failures

Unlike a fault, a failure ends what was asked for: a machine that cannot be built, a program that
cannot be loaded, a host that refuses. Every failure is a cause, with the data that its wording
needs; `message` is its wording for a reader, `diagnostic` the form in which a command line reports
it.

* `ConfigError` — what is wrong with a configuration or a memory layout.

* `FileError` and `HostError` — what the system says about a file, and what else the surroundings
  can refuse.

* `Failure` — any of these, or a program that is too large.

A `Crash` is worse: an operation that its caller promised to make possible, and that has no answer
at all. Crashes have no wording. What an operation can come to other than an answer is `Stopped`: a
failure or a crash.
-/

namespace Cosmac

/-- What is wrong with a configuration or a memory layout. -/
inductive ConfigError
  | emptyDisplay
  | emptyBatch
  | zeroRate
  | programOutsideMemory
  | glyphsOutsideMemory
  | glyphsAboveProgram
  | loadOutsideMemory
  deriving Repr, DecidableEq

namespace ConfigError

def reason : ConfigError → String
  | .emptyDisplay => "display must be at least 1x1"
  | .emptyBatch => "cycles per batch must be non-zero"
  | .zeroRate => "rates must be non-zero"
  | .programOutsideMemory => "program address outside memory"
  | .glyphsOutsideMemory => "glyph table does not fit in memory"
  | .glyphsAboveProgram => "glyph table must sit below the program"
  | .loadOutsideMemory => "load address outside memory"

end ConfigError

/-- What the operating system says about a file. -/
inductive FileError
  | notFound
  | permissionDenied
  | notADirectory
  | isADirectory
  /-- The path has too many bytes, or one of its names has. -/
  | nameTooLong
  /-- Anything else that it may say, by its number, its kind and its words. -/
  | other (code : Nat) (kind text : String)
  deriving Repr, DecidableEq

namespace FileError

def code : FileError → Nat
  | .notFound => 2
  | .permissionDenied => 13
  | .notADirectory => 20
  | .isADirectory => 21
  | .nameTooLong => 36
  | .other code _ _ => code

def kind : FileError → String
  | .notFound => "NotFound"
  | .permissionDenied => "PermissionDenied"
  | .notADirectory => "NotADirectory"
  | .isADirectory => "IsADirectory"
  | .nameTooLong => "InvalidFilename"
  | .other _ kind _ => kind

def text : FileError → String
  | .notFound => "No such file or directory"
  | .permissionDenied => "Permission denied"
  | .notADirectory => "Not a directory"
  | .isADirectory => "Is a directory"
  | .nameTooLong => "File name too long"
  | .other _ _ text => text

end FileError

/-- What the surroundings of the machine can refuse. -/
inductive HostError
  /-- The call of this name was made and failed. -/
  | refused (call : String)
  /-- A frame was shown on a display of another size. -/
  | frameSize
  | file (cause : FileError)
  deriving Repr, DecidableEq

namespace HostError

def message : HostError → String
  | .refused call => call ++ " failed"
  | .frameSize => "MonoTermDisplay must have correct-sized frame to draw"
  | .file cause => cause.text ++ " (os error " ++ toString cause.code ++ ")"

/-- A brace-delimited record in a diagnostic. -/
private def record (name fields : String) : String :=
  name ++ " \x7b " ++ fields ++ " \x7d"

def diagnostic : HostError → String
  | .refused call => record "Custom" ("kind: Other, error: \"" ++ call ++ " failed\"")
  | .frameSize =>
    record "Custom" ("kind: InvalidInput, error: \"" ++ HostError.frameSize.message ++ "\"")
  | .file cause =>
    record "Os" ("code: " ++ toString cause.code ++ ", kind: " ++ cause.kind
      ++ ", message: \"" ++ cause.text ++ "\"")

end HostError

/-- Why a machine does not start, or a session does not go on. -/
inductive Failure
  | invalidConfig (cause : ConfigError)
  /-- `size` bytes do not fit the `available` ones from `base` on. -/
  | programTooLarge (size : Nat) (base : UInt16) (available : Nat)
  | io (cause : HostError)
  deriving Repr, DecidableEq

namespace Failure

def message : Failure → String
  | .invalidConfig cause => "invalid configuration: " ++ cause.reason
  | .programTooLarge size base available =>
    "program is " ++ toString size ++ " bytes but only " ++ toString available
      ++ " bytes are free from " ++ Hex.address base
  | .io cause => "io error: " ++ cause.message

def diagnostic : Failure → String
  | .invalidConfig cause => "InvalidConfig(\"" ++ cause.reason ++ "\")"
  | .programTooLarge size base available =>
    "ProgramTooLarge \x7b size: " ++ toString size ++ ", base: " ++ toString base.toNat
      ++ ", available: " ++ toString available ++ " \x7d"
  | .io cause => "Io(" ++ cause.diagnostic ++ ")"

end Failure

/-- An operation without an answer. -/
inductive Crash
  /-- The program image starts past the end of memory. -/
  | programOutsideMemory
  /-- A sprite is drawn on a frame that has no pixels. -/
  | emptyFrame
  /-- A frame has more pixels than there can be. -/
  | frameTooLarge
  /-- Frames are due at intervals of no length. -/
  | frameInterval
  /-- Timers tick at intervals of no length, so they never catch up. -/
  | timerInterval
  /-- A time has more seconds than a word can hold. -/
  | timeTooLong
  /-- The timers tick more often in a batch than a word can count. -/
  | tooManyTicks
  /-- A text is cut inside a character. -/
  | cutCharacter
  /-- A number is taken for a register and names none. -/
  | noSuchRegister
  /-- A number is taken for a key of the pad and names none. -/
  | noSuchKey
  /-- A jump goes past what an address can hold. -/
  | jumpTarget
  /-- A picture is too wide or too high for a terminal, once it has a border. -/
  | pictureTooLarge
  deriving Repr, DecidableEq

/-- Why something did not come to its end: it failed, or it crashed. -/
inductive Stopped (ε : Type)
  | failed (e : ε)
  | crashed (c : Crash)
  deriving Repr, DecidableEq

end Cosmac

/-!
Errors of the host, with their numbers and words.
-/

namespace BulkLoad.Host

/-- Why the host refuses something. -/
inductive SystemError where
  | noEntry
  | noDevice
  | badFormat
  | badHandle
  | denied
  | taken
  | notDirectory
  | isDirectory
  | invalid
  | brokenPipe
  | nameTooLong
  | argumentsTooLong
  /-- A path may not hold the character that ends paths. -/
  | nulInPath
  /-- Nor may the words of a command. -/
  | nulInCommand
  deriving DecidableEq, Repr

namespace SystemError

/-- The number of an error; some are found before the host is asked, and have none. -/
def number? : SystemError → Option Nat
  | noEntry => some 2
  | noDevice => some 6
  | argumentsTooLong => some 7
  | badFormat => some 8
  | badHandle => some 9
  | denied => some 13
  | taken => some 17
  | notDirectory => some 20
  | isDirectory => some 21
  | invalid => some 22
  | brokenPipe => some 32
  | nameTooLong => some 36
  | nulInPath | nulInCommand => none

def words : SystemError → String
  | noEntry => "No such file or directory"
  | noDevice => "No such device or address"
  | badFormat => "Exec format error"
  | badHandle => "Bad file descriptor"
  | denied => "Permission denied"
  | taken => "File exists"
  | notDirectory => "Not a directory"
  | isDirectory => "Is a directory"
  | invalid => "Invalid argument"
  | brokenPipe => "Broken pipe"
  | nameTooLong => "File name too long"
  | argumentsTooLong => "Argument list too long"
  | nulInPath => "file name contained an unexpected NUL byte"
  | nulInCommand => "nul byte found in provided data"

/-- The errors that have numbers. -/
def numbered : List SystemError :=
  [noEntry, noDevice, argumentsTooLong, badFormat, badHandle, denied, taken, notDirectory,
    isDirectory, invalid, brokenPipe, nameTooLong]

/-- The error with a number. -/
def ofNumber? (n : Nat) : Option SystemError := numbered.find? fun e => e.number? == some n

def message (e : SystemError) : String :=
  match e.number? with
  | some n => e.words ++ " (os error " ++ toString n ++ ")"
  | none => e.words

end SystemError
end BulkLoad.Host

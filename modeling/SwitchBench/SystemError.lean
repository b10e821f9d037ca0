/-! Failures that the operating system reports. -/
namespace SwitchBench

inductive SystemError where
  | notFound
  | notADirectory
  | isADirectory
  | invalidArgument
  | nameTooLong
  | addressInUse
  | networkUnreachable
  | connectionRefused
  /-- There are no more threads to be had. -/
  | exhausted
  /-- A name with a NUL character in it. -/
  | nulInName
  /-- A name that stands for no address. -/
  | unknownHost
  /-- A text that is not UTF-8. -/
  | invalidText
deriving DecidableEq

namespace SystemError

def message : SystemError → String
  | notFound => "No such file or directory (os error 2)"
  | notADirectory => "Not a directory (os error 20)"
  | isADirectory => "Is a directory (os error 21)"
  | invalidArgument => "Invalid argument (os error 22)"
  | nameTooLong => "File name too long (os error 36)"
  | addressInUse => "Address already in use (os error 98)"
  | networkUnreachable => "Network is unreachable (os error 101)"
  | connectionRefused => "Connection refused (os error 111)"
  | exhausted => "Resource temporarily unavailable (os error 11)"
  | nulInName => "file name contained an unexpected NUL byte"
  | unknownHost => "failed to lookup address information: Temporary failure in name resolution"
  | invalidText => "stream did not contain valid UTF-8"

end SystemError

end SwitchBench

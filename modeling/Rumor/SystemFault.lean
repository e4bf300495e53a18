namespace Rumor

-- What the operating system says when it cannot do something.
inductive SystemFault
  | notFound
  | exists
  | noDevice
  | notDirectory
  | isDirectory
  | invalidArgument
  | nameTooLong
  | notText
  | nulInName
  | addressInUse
  | addressUnavailable
  | unreachable
  | refused
  | malformedAddress
  | malformedPort
  | unknownHost
  | noNameService
  | other (text : String)
deriving DecidableEq, Repr

def SystemFault.message : SystemFault → String
  | .notFound => "No such file or directory (os error 2)"
  | .exists => "File exists (os error 17)"
  | .noDevice => "No such device (os error 19)"
  | .notDirectory => "Not a directory (os error 20)"
  | .isDirectory => "Is a directory (os error 21)"
  | .invalidArgument => "Invalid argument (os error 22)"
  | .nameTooLong => "File name too long (os error 36)"
  | .notText => "stream did not contain valid UTF-8"
  | .nulInName => "file name contained an unexpected NUL byte"
  | .addressInUse => "Address already in use (os error 98)"
  | .addressUnavailable => "Cannot assign requested address (os error 99)"
  | .unreachable => "Network is unreachable (os error 101)"
  | .refused => "Connection refused (os error 111)"
  | .malformedAddress => "invalid socket address"
  | .malformedPort => "invalid port value"
  | .unknownHost => "failed to lookup address information: Name or service not known"
  | .noNameService =>
      "failed to lookup address information: Temporary failure in name resolution"
  | .other text => text

-- The fault that goes by a number of the operating system.
def SystemFault.ofCode? : Nat → Option SystemFault
  | 2 => some .notFound
  | 17 => some .exists
  | 19 => some .noDevice
  | 20 => some .notDirectory
  | 21 => some .isDirectory
  | 22 => some .invalidArgument
  | 36 => some .nameTooLong
  | 98 => some .addressInUse
  | 99 => some .addressUnavailable
  | 101 => some .unreachable
  | 111 => some .refused
  | _ => none

-- What becomes of an attempt to connect.
inductive Route
  | connected
  | failed (fault : SystemFault)
deriving DecidableEq, Repr

end Rumor

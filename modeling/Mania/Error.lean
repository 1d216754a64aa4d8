/-
`core/error.rs`, and the texts errors are displayed as. The error of
another crate, and of an event's own `build` and `parse`, is its text.
-/
import Mania.Business
import Mania.HwFrameCodec

namespace Mania

inductive ManiaError where
  | networkError (e : String)
  | genericError (message : String)
  | internalEventDowncastError
  | internalBusinessError (e : BusinessError String)
  | highWayError (e : HighwayError)
  deriving DecidableEq

def EventError.display : EventError String → String
  | unsupportedEvent command => "unsupported event, commend: " ++ command
  | parse e => e

def BusinessError.display : BusinessError String → String
  | networkError e => "Network error: " ++ e
  | invalidServerResponse message => "Invalid server response: " ++ message
  | genericError message => "An mania error occurred: " ++ message
  | internalEventError e => e.display

def HighwayError.display : HighwayError → String
  | invalidFrame => "Invalid frame!"
  | ioError e => "IO error: " ++ e
  | uploadError code => "Upload error! code=" ++ toString code
  | hexError => "Hex decode error!"
  | otherError text => "An error occurred in highway: " ++ text

def ManiaError.display : ManiaError → String
  | networkError e => "An mania network error occurred: " ++ e
  | genericError message => "An mania error occurred: " ++ message
  | internalEventDowncastError => "An mania internal event downcast error occurred"
  | internalBusinessError e => "An mania internal business error occurred: " ++ e.display
  | highWayError e => "An mania internal highway error occurred: " ++ e.display

end Mania

import HeaderScan.Url.ParseError

/-!
# Reasons why a request has no response

A request fails either before it is sent, because of its URL, or on the wire.
-/

namespace HeaderScan.Http

/-- What went wrong between sending a request and reading the head of its response. -/
inductive TransportError where
  | connectionRefused
  | networkUnreachable
  | closedEarly
  | badVersion
  | badStatusCode
  | badField
  | badContentLength
  | headTooLarge
deriving DecidableEq

/-- The failure in words. -/
def TransportError.message : TransportError → String
  | connectionRefused =>
    "error trying to connect: tcp connect error: Connection refused (os error 111)"
  | networkUnreachable =>
    "error trying to connect: tcp connect error: Network is unreachable (os error 101)"
  | closedEarly => "connection closed before message completed"
  | badVersion => "invalid HTTP version parsed"
  | badStatusCode => "invalid HTTP status-code parsed"
  | badField => "invalid HTTP header parsed"
  | badContentLength => "invalid content-length parsed"
  | headTooLarge => "message head is too large"

/-- Why a request got no response. -/
inductive RequestError where
  /-- The target is no URL. -/
  | notUrl (cause : Url.ParseError)
  /-- The target is a URL of a scheme that is not requested. -/
  | schemeNotAllowed (url : String)
  /-- The exchange with the server failed. -/
  | sending (url : String) (cause : TransportError)
  /-- The server redirected too often. -/
  | tooManyRedirects (url : String)
  /-- The server did not answer in time. -/
  | timedOut (url : String)
deriving DecidableEq

namespace RequestError

/-- The error in words. -/
def message : RequestError → String
  | notUrl cause => "builder error: " ++ cause.message
  | schemeNotAllowed url => "builder error for url (" ++ url ++ "): URL scheme is not allowed"
  | sending url cause => "error sending request for url (" ++ url ++ "): " ++ cause.message
  | tooManyRedirects url => "error following redirect for url (" ++ url ++ "): too many redirects"
  | timedOut url => "error sending request for url (" ++ url ++ "): operation timed out"

instance : ToString RequestError := ⟨message⟩

/-- The request failed because time ran out. -/
def isTimeout : RequestError → Bool
  | timedOut _ => true
  | _ => false

end RequestError

end HeaderScan.Http

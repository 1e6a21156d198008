import Soliscope.Explorer.Header

/-! # Response status

Only a status from 200 to 299 is a success.  Any other is told by its number and standard phrase,
the address asked for, and the address that a redirection points to.
-/

namespace Soliscope.Explorer

/-- The standard phrases. -/
def statusPhrases : List (Nat × String) := [
  (100, "Continue"), (101, "Switching Protocols"), (102, "Processing"), (103, "Early Hints"),
  (200, "OK"), (201, "Created"), (202, "Accepted"), (203, "Non-Authoritative Information"),
  (204, "No Content"), (205, "Reset Content"), (206, "Partial Content"), (207, "Multi-Status"),
  (208, "Already Reported"), (226, "IM Used"),
  (300, "Multiple Choices"), (301, "Moved Permanently"), (302, "Found"), (303, "See Other"),
  (304, "Not Modified"), (305, "Use Proxy"), (307, "Temporary Redirect"),
  (308, "Permanent Redirect"),
  (400, "Bad Request"), (401, "Unauthorized"), (402, "Payment Required"), (403, "Forbidden"),
  (404, "Not Found"), (405, "Method Not Allowed"), (406, "Not Acceptable"),
  (407, "Proxy Authentication Required"), (408, "Request Timeout"), (409, "Conflict"),
  (410, "Gone"), (411, "Length Required"), (412, "Precondition Failed"),
  (413, "Request Entity Too Large"), (414, "Request-URI Too Long"),
  (415, "Unsupported Media Type"), (416, "Requested Range Not Satisfiable"),
  (417, "Expectation Failed"), (418, "I'm a teapot"), (421, "Misdirected Request"),
  (422, "Unprocessable Entity"), (423, "Locked"), (424, "Failed Dependency"), (425, "Too Early"),
  (426, "Upgrade Required"), (428, "Precondition Required"), (429, "Too Many Requests"),
  (431, "Request Header Fields Too Large"), (451, "Unavailable For Legal Reasons"),
  (500, "Internal Server Error"), (501, "Not Implemented"), (502, "Bad Gateway"),
  (503, "Service Unavailable"), (504, "Gateway Timeout"), (505, "HTTP Version Not Supported"),
  (506, "Variant Also Negotiates"), (507, "Insufficient Storage"), (508, "Loop Detected"),
  (510, "Not Extended"), (511, "Network Authentication Required")]

/-- The phrase of a status; an unknown status has none. -/
def statusPhrase (status : Nat) : String :=
  (statusPhrases.lookup status).getD ""

/-- The status is a success. -/
def isSuccess (status : Nat) : Bool :=
  200 ≤ status && status < 300

/-- The class of a status that is no success. -/
def statusClass (status : Nat) : String :=
  match status / 100 with
  | 1 => "Informational response"
  | 3 => "Redirect response"
  | 4 => "Client error"
  | 5 => "Server error"
  | _ => "Invalid status code"

/-- The statuses that come with an address to go to. -/
def redirectingStatuses : List Nat := [301, 302, 303, 307, 308]

/-- A response that is no success. -/
structure StatusError where
  status : Nat
  url : String
  location : Option String
  deriving DecidableEq, Repr

/-- The text about a response that is no success. -/
def StatusError.message (error : StatusError) : String :=
  statusClass error.status ++ " '" ++ toString error.status ++ " " ++ statusPhrase error.status ++
    "' for url '" ++ error.url ++ "'\n" ++
    (match error.location with
      | some location => "Redirect location: '" ++ location ++ "'\n"
      | none => "") ++
    "For more information check: https://developer.mozilla.org/en-US/docs/Web/HTTP/Status/" ++
    toString error.status

/-- Where a response points to, if it is a redirection. -/
def redirection? (status : Nat) (headers : Headers) : Option String :=
  if redirectingStatuses.contains status then headers.value? "location" else none

end Soliscope.Explorer

import PageComposer.Access
import PageComposer.Value.Equality

/-!
# Statuses

The status of an answer is a number, usually a whole one.  Where it is taken from data that
nobody has checked, it can be any value, so the functions here take values.
-/

namespace PageComposer.Http.Status

/-- The whole number that a status is. -/
def code? (status : Value) : Option Int := status.quantity?.bind Number.toInt?

/-- The name of a status in reports. -/
def name (status : Value) : String :=
  match code? status with
  | some 400 => "Bad Request"
  | some 404 => "Not Found"
  | some 405 => "Method Not Allowed"
  | some 422 => "Validation Error"
  | some 500 => "Internal Server Error"
  | _ => "Error"

/-- The name of a status, which is looked up under it. -/
def lookup (status : Value) : Outcome String := do
  status.asKey
  return name status

/-- The statuses that are in use, each with its phrase. -/
def phrases : List (Int × String) := [
  (100, "Continue"), (101, "Switching Protocols"), (102, "Processing"), (103, "Early Hints"),
  (200, "OK"), (201, "Created"), (202, "Accepted"), (203, "Non-Authoritative Information"),
  (204, "No Content"), (205, "Reset Content"), (206, "Partial Content"),
  (207, "Multi-Status"), (208, "Already Reported"), (226, "IM Used"),
  (300, "Multiple Choices"), (301, "Moved Permanently"), (302, "Found"), (303, "See Other"),
  (304, "Not Modified"), (305, "Use Proxy"), (307, "Temporary Redirect"),
  (308, "Permanent Redirect"), (400, "Bad Request"), (401, "Unauthorized"),
  (402, "Payment Required"), (403, "Forbidden"), (404, "Not Found"),
  (405, "Method Not Allowed"), (406, "Not Acceptable"),
  (407, "Proxy Authentication Required"), (408, "Request Timeout"), (409, "Conflict"),
  (410, "Gone"), (411, "Length Required"), (412, "Precondition Failed"),
  (413, "Request Entity Too Large"), (414, "Request-URI Too Long"),
  (415, "Unsupported Media Type"), (416, "Requested Range Not Satisfiable"),
  (417, "Expectation Failed"), (418, "I'm a Teapot"), (421, "Misdirected Request"),
  (422, "Unprocessable Entity"), (423, "Locked"), (424, "Failed Dependency"),
  (425, "Too Early"), (426, "Upgrade Required"), (428, "Precondition Required"),
  (429, "Too Many Requests"), (431, "Request Header Fields Too Large"),
  (451, "Unavailable For Legal Reasons"), (500, "Internal Server Error"),
  (501, "Not Implemented"), (502, "Bad Gateway"), (503, "Service Unavailable"),
  (504, "Gateway Timeout"), (505, "HTTP Version Not Supported"),
  (506, "Variant Also Negotiates"), (507, "Insufficient Storage"), (508, "Loop Detected"),
  (510, "Not Extended"), (511, "Network Authentication Required")]

/-- The phrase of a status. -/
def phrase? (status : Value) : Option String :=
  (phrases.find? fun entry => code? status = some entry.1).map Prod.snd

/-- A status is a number that another one is at most. -/
def isAtLeast (status : Value) (bound : Int) : Bool :=
  status.quantity?.any fun number => (Number.int bound).atMost number

/-- The HTTP error with a status and a detail; without a detail it has the phrase of its
status. -/
def fault (status detail : Value) : Fault :=
  match detail, phrase? status with
  | .null, some phrase => .http status phrase
  | .null, none => .refusal (.unknownStatus status)
  | detail, _ => .http status detail.display

end PageComposer.Http.Status

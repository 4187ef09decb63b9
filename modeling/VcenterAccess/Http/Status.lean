import VcenterAccess.Text.Inspection

/-!
# HTTP statuses

A status is a number with a usual reason.
-/

namespace VcenterAccess

/-- The status of an HTTP response. -/
structure HttpStatus where
  /-- Its number. -/
  code : Nat
deriving DecidableEq, Repr

namespace HttpStatus

/-- The only status of a response that holds what was asked for. -/
def ok : HttpStatus := ⟨200⟩

/-- The usual reasons. -/
def reasons : List (Nat × String) := [
  (100, "Continue"), (101, "Switching Protocols"), (102, "Processing"), (103, "Early Hints"),
  (200, "OK"), (201, "Created"), (202, "Accepted"), (203, "Non Authoritative Information"),
  (204, "No Content"), (205, "Reset Content"), (206, "Partial Content"), (207, "Multi-Status"),
  (208, "Already Reported"), (226, "IM Used"), (300, "Multiple Choices"),
  (301, "Moved Permanently"), (302, "Found"), (303, "See Other"), (304, "Not Modified"),
  (305, "Use Proxy"), (307, "Temporary Redirect"), (308, "Permanent Redirect"),
  (400, "Bad Request"), (401, "Unauthorized"), (402, "Payment Required"), (403, "Forbidden"),
  (404, "Not Found"), (405, "Method Not Allowed"), (406, "Not Acceptable"),
  (407, "Proxy Authentication Required"), (408, "Request Timeout"), (409, "Conflict"),
  (410, "Gone"), (411, "Length Required"), (412, "Precondition Failed"),
  (413, "Payload Too Large"), (414, "URI Too Long"), (415, "Unsupported Media Type"),
  (416, "Range Not Satisfiable"), (417, "Expectation Failed"), (418, "I'm a teapot"),
  (421, "Misdirected Request"), (422, "Unprocessable Entity"), (423, "Locked"),
  (424, "Failed Dependency"), (425, "Too Early"), (426, "Upgrade Required"),
  (428, "Precondition Required"), (429, "Too Many Requests"),
  (431, "Request Header Fields Too Large"), (451, "Unavailable For Legal Reasons"),
  (500, "Internal Server Error"), (501, "Not Implemented"), (502, "Bad Gateway"),
  (503, "Service Unavailable"), (504, "Gateway Timeout"), (505, "HTTP Version Not Supported"),
  (506, "Variant Also Negotiates"), (507, "Insufficient Storage"), (508, "Loop Detected"),
  (510, "Not Extended"), (511, "Network Authentication Required")]

/-- The usual reason of a status. -/
def reason (s : HttpStatus) : String :=
  ((reasons.find? fun r => r.1 == s.code).map Prod.snd).getD "<unknown status code>"

/-- Number and reason. -/
def text (s : HttpStatus) : String := toString s.code ++ " " ++ s.reason

/-- Whether the response may name another place for what was asked for. -/
def isRedirect (s : HttpStatus) : Bool := [301, 302, 303, 307, 308].contains s.code

example : text ⟨403⟩ = "403 Forbidden" := by decide
example : text ⟨600⟩ = "600 <unknown status code>" := by decide

end HttpStatus

end VcenterAccess

import JdkFinder.Error
import JdkFinder.Url

/-!
# The web

What the web answers to a request for a document, and what becomes of the answer.  Only answers
with a status of success have a text; the name of a status is added to its number in messages.
-/

namespace JdkFinder

/-! ## §1 Status -/

/-- The names of the known statuses. -/
def statusNames : List (Nat × String) :=
  [(100, "Continue"), (101, "Switching Protocols"), (102, "Processing"), (200, "OK"),
   (201, "Created"), (202, "Accepted"), (203, "Non Authoritative Information"),
   (204, "No Content"), (205, "Reset Content"), (206, "Partial Content"), (207, "Multi-Status"),
   (208, "Already Reported"), (226, "IM Used"), (300, "Multiple Choices"),
   (301, "Moved Permanently"), (302, "Found"), (303, "See Other"), (304, "Not Modified"),
   (305, "Use Proxy"), (307, "Temporary Redirect"), (308, "Permanent Redirect"),
   (400, "Bad Request"), (401, "Unauthorized"), (402, "Payment Required"), (403, "Forbidden"),
   (404, "Not Found"), (405, "Method Not Allowed"), (406, "Not Acceptable"),
   (407, "Proxy Authentication Required"), (408, "Request Timeout"), (409, "Conflict"),
   (410, "Gone"), (411, "Length Required"), (412, "Precondition Failed"),
   (413, "Payload Too Large"), (414, "URI Too Long"), (415, "Unsupported Media Type"),
   (416, "Range Not Satisfiable"), (417, "Expectation Failed"), (418, "I'm a teapot"),
   (421, "Misdirected Request"), (422, "Unprocessable Entity"), (423, "Locked"),
   (424, "Failed Dependency"), (426, "Upgrade Required"), (428, "Precondition Required"),
   (429, "Too Many Requests"), (431, "Request Header Fields Too Large"),
   (451, "Unavailable For Legal Reasons"), (500, "Internal Server Error"),
   (501, "Not Implemented"), (502, "Bad Gateway"), (503, "Service Unavailable"),
   (504, "Gateway Timeout"), (505, "HTTP Version Not Supported"),
   (506, "Variant Also Negotiates"), (507, "Insufficient Storage"), (508, "Loop Detected"),
   (510, "Not Extended"), (511, "Network Authentication Required")]

/-- The number of a status and its name. -/
def statusLine (status : Nat) : String :=
  toString status ++ " " ++ (statusNames.lookup status).getD "<unknown status code>"

/-! ## §2 Answers -/

/-- What the web answers to a request. -/
inductive WebReply where
  /-- Nothing, for the given reason. -/
  | silent (detail : String)
  /-- A document, or the reason why it broke off. -/
  | answered (status : Nat) (body : Except String String)

/-- The web: what it answers to a request for a URL. -/
abbrev Web := Url → WebReply

/-- The text of an answer to a request for a URL that is written as given. -/
def WebReply.text (url : String) : WebReply → Except NetworkError String
  | silent detail => .error (.requestFailed url detail)
  | answered status body =>
    if 200 ≤ status ∧ status < 300 then
      match body with
      | .ok text => .ok text
      | .error detail => .error (.brokenBody url detail)
    else .error (.refused url (statusLine status))

/-- The text that the web gives for a URL, which must be one of its own.  A request states user and
password apart from the URL. -/
def Web.fetchText (web : Web) (url : String) (parsed : Url) : Except NetworkError String :=
  let scheme := String.ofList parsed.scheme
  let asked := parsed.withoutUser
  if scheme = "http" ∨ scheme = "https" then (web asked).text url
  else
    .error (.requestFailed url
      ("builder error for url (" ++ asked.text ++ "): URL scheme is not allowed"))

end JdkFinder

import CallAtlas.Failure
import CallAtlas.Json.Printing
import CallAtlas.Json.Reading
import CallAtlas.Text.Basic
import CallAtlas.Text.Encoding

namespace CallAtlas.Http

inductive Endpoint
  | index
  | health
  | healthDb
  | queries
  | search
  | functionDetail
  | source
  | file
  | files
  | fileFunctions
  | neighborhood
  | callChain
  | callers
  | path
deriving DecidableEq, Inhabited

namespace Endpoint

def all : List Endpoint :=
  [index, health, healthDb, queries, search, functionDetail, source, file, files, fileFunctions,
    neighborhood, callChain, callers, path]

def name : Endpoint → String
  | index => ""
  | health => "health"
  | healthDb => "db"
  | queries => "queries"
  | search => "search"
  | functionDetail => "function-detail"
  | source => "source"
  | file => "file"
  | files => "files"
  | fileFunctions => "file-functions"
  | neighborhood => "neighborhood"
  | callChain => "call-chain"
  | callers => "callers"
  | path => "path"

def location (e : Endpoint) : String :=
  match e with
  | index => "/"
  | health => "/health"
  | healthDb => "/health/db"
  | queries => "/queries"
  | _ => "/call-graph/" ++ e.name

def usage : Endpoint → String
  | search => "?q=<query>"
  | functionDetail | source | neighborhood | callChain | callers => "?functionId=<id>"
  | file | fileFunctions => "?file=<path>"
  | files => "?path=<dir>"
  | path => "?startFunctionId=<id>&endFunctionId=<id>"
  | _ => ""

/-- The endpoint at a path. A line end behind it does not count. -/
private def atPath? (path : List Char) : Option Endpoint :=
  let path := if path.getLast? = some '\n' then path.dropLast else path
  all.find? (·.location.toList == path)

/-- Slashes too many at the end are no fault. -/
def ofPath? (path : String) : Option Endpoint :=
  (atPath? path.toList).or (atPath? (Text.dropTrailing (· == '/') path.toList))

end Endpoint

structure Request where
  path : String
  params : List (String × String) := []
deriving DecidableEq, Inhabited

namespace Request

/-- Of several values of one parameter the last counts; an absent one is null. -/
def param (r : Request) (name : String) : Json :=
  .ofOption ((r.params.reverse.find? (·.1 == name)).map (·.2))

end Request

structure Reply where
  status : Nat
  text : String
  payload : Except Failure Json
deriving Inhabited

namespace Reply

/-- Numbers without a finite value are sent as null. -/
def ofJson (status : Nat) (payload : Json) : Reply :=
  let sent := payload.finite
  ⟨status, sent.line, pure sent⟩

def ofText (status : Nat) (text : String) : Reply :=
  ⟨status, text, do Json.read (← Text.Encoding.reread text)⟩

def isError (r : Reply) : Bool :=
  decide (400 ≤ r.status ∧ r.status ≤ 599)

end Reply

def phrase : Nat → String
  | 400 => "Bad Request"
  | 401 => "Unauthorized"
  | 402 => "Payment Required"
  | 403 => "Forbidden"
  | 404 => "Not Found"
  | 405 => "Method Not Allowed"
  | 406 => "Not Acceptable"
  | 407 => "Proxy Authentication Required"
  | 408 => "Request Timeout"
  | 409 => "Conflict"
  | 410 => "Gone"
  | 411 => "Length Required"
  | 412 => "Precondition Failed"
  | 413 => "Request Entity Too Large"
  | 414 => "Request-URI Too Long"
  | 415 => "Unsupported Media Type"
  | 416 => "Requested Range Not Satisfiable"
  | 417 => "Expectation Failed"
  | 418 => "I'm a teapot"
  | 421 => "Misdirected Request"
  | 422 => "Unprocessable Entity"
  | 423 => "Locked"
  | 424 => "Failed Dependency"
  | 425 => "Too Early"
  | 426 => "Upgrade Required"
  | 428 => "Precondition Required"
  | 429 => "Too Many Requests"
  | 431 => "Request Header Fields Too Large"
  | 451 => "Unavailable For Legal Reasons"
  | 500 => "Internal Server Error"
  | 501 => "Not Implemented"
  | 502 => "Bad Gateway"
  | 503 => "Service Unavailable"
  | 504 => "Gateway Timeout"
  | 505 => "HTTP Version Not Supported"
  | 506 => "Variant Also Negotiates"
  | 507 => "Insufficient Storage"
  | 508 => "Loop Detected"
  | 510 => "Not Extended"
  | 511 => "Network Authentication Required"
  | _ => ""

end CallAtlas.Http

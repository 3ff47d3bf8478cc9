import WordingAudit.Json.Decode

/-!
Everything that can go wrong in an audit, by cause, and the texts that say so.
-/

namespace WordingAudit

/-- A setting that is missing or that contradicts the others. -/
inductive SettingsProblem
  | tooDeep
  | noRules
  | noProjectPath
  | noProjectParser
  | noWordingsSource
deriving DecidableEq, Repr

/-- Why a file or directory cannot be read. -/
inductive FileProblem
  | notFound
  | notDirectory
  | isDirectory
  | tooManyLinks
  | notText
  | rootNotDirectory
deriving DecidableEq, Repr

/-- Why a resource cannot be fetched. -/
inductive FetchProblem
  | badUrl
  | notSent (url : Text)
  | status (code : Nat)
  | cutShort
deriving DecidableEq, Repr

/-- Why a JSON text is refused: it is malformed, or it does not hold what it should. -/
inductive JsonProblem
  | syntaxError
  | content (cause : DecodeError)
deriving DecidableEq, Repr

/-- What can go wrong in one step of an audit. -/
inductive AuditError
  | settings (problem : SettingsProblem)
  | unsupportedFormat (source : Text)
  | pattern (source : Text)
  | file (path : Text) (problem : FileProblem)
  | fetch (url : Text) (problem : FetchProblem)
  | json (source : Text) (problem : JsonProblem)
deriving DecidableEq, Repr

/-- What can end an audit: a configuration file that cannot be read, parsed or used, or a step
that fails. -/
inductive RunError
  | readConfig (path : Text) (problem : FileProblem)
  | parseConfig (path : Text) (problem : JsonProblem)
  | invalidConfig (path : Text) (cause : AuditError)
  | projectKeys (cause : AuditError)
  | fileKeys (cause : AuditError)
  | step (cause : AuditError)
deriving DecidableEq, Repr

/-- The kinds of errors. -/
inductive ErrorKind
  | configuration
  | unsupportedFormat
  | patternSyntax
  | io
  | http
  | json
deriving DecidableEq, Repr

namespace SettingsProblem

def message : SettingsProblem → Text
  | tooDeep => Text.of "extraction rule nested deeper than 64 levels"
  | noRules => Text.of "project source parser has no rules"
  | noProjectPath => Text.of "no project source path"
  | noProjectParser => Text.of "no project source parser"
  | noWordingsSource => Text.of "no wordings source"

end SettingsProblem

namespace FileProblem

def message : FileProblem → Text
  | notFound => Text.of "No such file or directory (os error 2)"
  | notDirectory => Text.of "Not a directory (os error 20)"
  | isDirectory => Text.of "Is a directory (os error 21)"
  | tooManyLinks => Text.of "Too many levels of symbolic links (os error 40)"
  | notText => Text.of "stream did not contain valid UTF-8"
  | rootNotDirectory => Text.of "project source path is not a directory"

end FileProblem

/-- The standard phrase for a status code. -/
def statusPhrase (code : Nat) : Text :=
  Text.of <| match code with
  | 100 => "Continue"
  | 101 => "Switching Protocols"
  | 102 => "Processing"
  | 103 => "Early Hints"
  | 200 => "OK"
  | 201 => "Created"
  | 202 => "Accepted"
  | 203 => "Non Authoritative Information"
  | 204 => "No Content"
  | 205 => "Reset Content"
  | 206 => "Partial Content"
  | 207 => "Multi-Status"
  | 208 => "Already Reported"
  | 226 => "IM Used"
  | 300 => "Multiple Choices"
  | 301 => "Moved Permanently"
  | 302 => "Found"
  | 303 => "See Other"
  | 304 => "Not Modified"
  | 305 => "Use Proxy"
  | 307 => "Temporary Redirect"
  | 308 => "Permanent Redirect"
  | 400 => "Bad Request"
  | 401 => "Unauthorized"
  | 402 => "Payment Required"
  | 403 => "Forbidden"
  | 404 => "Not Found"
  | 405 => "Method Not Allowed"
  | 406 => "Not Acceptable"
  | 407 => "Proxy Authentication Required"
  | 408 => "Request Timeout"
  | 409 => "Conflict"
  | 410 => "Gone"
  | 411 => "Length Required"
  | 412 => "Precondition Failed"
  | 413 => "Payload Too Large"
  | 414 => "URI Too Long"
  | 415 => "Unsupported Media Type"
  | 416 => "Range Not Satisfiable"
  | 417 => "Expectation Failed"
  | 418 => "I'm a teapot"
  | 421 => "Misdirected Request"
  | 422 => "Unprocessable Entity"
  | 423 => "Locked"
  | 424 => "Failed Dependency"
  | 425 => "Too Early"
  | 426 => "Upgrade Required"
  | 428 => "Precondition Required"
  | 429 => "Too Many Requests"
  | 431 => "Request Header Fields Too Large"
  | 451 => "Unavailable For Legal Reasons"
  | 500 => "Internal Server Error"
  | 501 => "Not Implemented"
  | 502 => "Bad Gateway"
  | 503 => "Service Unavailable"
  | 504 => "Gateway Timeout"
  | 505 => "HTTP Version Not Supported"
  | 506 => "Variant Also Negotiates"
  | 507 => "Insufficient Storage"
  | 508 => "Loop Detected"
  | 510 => "Not Extended"
  | 511 => "Network Authentication Required"
  | _ => "<unknown status code>"

namespace FetchProblem

def message : FetchProblem → Text
  | badUrl => Text.of "builder error"
  | notSent url => Text.of "error sending request for url (" ++ url ++ [')']
  | status code => Text.of "server returned " ++ Text.ofNat code ++ [' '] ++ statusPhrase code
  | cutShort => Text.of "failed to read body: error decoding response body"

end FetchProblem

namespace JsonProblem

def ofDecode : DecodeError → JsonProblem
  | .malformed => syntaxError
  | .surplus _ => syntaxError
  | e => content e

def message : JsonProblem → Text
  | syntaxError => Text.of "json syntax"
  | content cause => Text.of "json data: " ++ cause.message

end JsonProblem

namespace AuditError

def kind : AuditError → ErrorKind
  | settings _ => .configuration
  | unsupportedFormat _ => .unsupportedFormat
  | pattern _ => .patternSyntax
  | file .. => .io
  | fetch .. => .http
  | json .. => .json

def message : AuditError → Text
  | settings problem => Text.of "configuration error: " ++ problem.message
  | unsupportedFormat source => Text.of "unsupported wordings format: " ++ source ++
      Text.of " (only .arb, .json and http(s) URLs are supported)"
  | pattern source => Text.of "invalid pattern \"" ++ source ++ ['"']
  | file path problem => Text.of "failed to read " ++ path ++ Text.of ": " ++ problem.message
  | fetch url problem => Text.of "failed to fetch " ++ url ++ Text.of ": " ++ problem.message
  | json source problem => Text.of "failed to parse " ++ source ++ Text.of " as JSON: " ++
      problem.message

/-- The pattern that was refused, when that is the error. -/
def pattern? : AuditError → Option Text
  | pattern source => some source
  | _ => none

end AuditError

namespace RunError

/-- The error of a step that failed. -/
def cause? : RunError → Option AuditError
  | invalidConfig _ cause => some cause
  | projectKeys cause => some cause
  | fileKeys cause => some cause
  | step cause => some cause
  | _ => none

def kind : RunError → ErrorKind
  | readConfig .. => .io
  | parseConfig .. => .json
  | invalidConfig _ cause => cause.kind
  | projectKeys cause => cause.kind
  | fileKeys cause => cause.kind
  | step cause => cause.kind

def message : RunError → Text
  | readConfig path problem => Text.of "Failed to read config file: " ++ Quoted.encodePath path ++
      Text.of ": " ++ problem.message
  | parseConfig path problem => Text.of "Failed to parse config file: " ++
      Quoted.encodePath path ++ Text.of ": " ++ problem.message
  | invalidConfig path cause => Text.of "Invalid config file: " ++ Quoted.encodePath path ++
      Text.of ": " ++ cause.message
  | projectKeys cause => Text.of "Failed to collect project wording keys: " ++ cause.message
  | fileKeys cause => Text.of "Failed to collect file wording keys: " ++ cause.message
  | step cause => cause.message

end RunError

end WordingAudit

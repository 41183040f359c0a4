import Evidence.Json.Printer
import Evidence.Text.Quoted

/-!
# Refusals of a server

What a server says when it refuses an answer, and how that is shown.

Main definitions:

- `Status` and `Status.ofValue?`: what a refusal says, read from its body.
- `reasonPhrase?`: the standard phrase for a code.
- `Status.ofAnswer`: the refusal that a code and a body make up.
- `Status.summary` and `Status.details`: a refusal in words.
-/

namespace Evidence.Kubernetes

open Yaml (Value)

/-- What a server says when it refuses an answer. -/
structure Status where
  state : Text
  code : Nat
  reason : Text
  message : Text
deriving DecidableEq, Repr

/-! ## Codes -/

/-- The standard phrases for the codes of refusals. -/
def reasonPhrases : List (Nat × String) :=
  [(400, "Bad Request"), (401, "Unauthorized"), (402, "Payment Required"), (403, "Forbidden"),
    (404, "Not Found"), (405, "Method Not Allowed"), (406, "Not Acceptable"),
    (407, "Proxy Authentication Required"), (408, "Request Timeout"), (409, "Conflict"),
    (410, "Gone"), (411, "Length Required"), (412, "Precondition Failed"),
    (413, "Payload Too Large"), (414, "URI Too Long"), (415, "Unsupported Media Type"),
    (416, "Range Not Satisfiable"), (417, "Expectation Failed"), (418, "I'm a teapot"),
    (421, "Misdirected Request"), (422, "Unprocessable Entity"), (423, "Locked"),
    (424, "Failed Dependency"), (425, "Too Early"), (426, "Upgrade Required"),
    (428, "Precondition Required"), (429, "Too Many Requests"),
    (431, "Request Header Fields Too Large"), (451, "Unavailable For Legal Reasons"),
    (500, "Internal Server Error"), (501, "Not Implemented"), (502, "Bad Gateway"),
    (503, "Service Unavailable"), (504, "Gateway Timeout"),
    (505, "HTTP Version Not Supported"), (506, "Variant Also Negotiates"),
    (507, "Insufficient Storage"), (508, "Loop Detected"), (510, "Not Extended"),
    (511, "Network Authentication Required")]

/-- The standard phrase for a code, if it has one. -/
def reasonPhrase? (code : Nat) : Option String :=
  (reasonPhrases.find? (·.1 == code)).map (·.2)

/-- A code with its phrase. -/
def codeText (code : Nat) : Text :=
  Decimal.ofNat code ++ ' ' :: ((reasonPhrase? code).getD "<unknown status code>").toList

/-! ## Bodies -/

namespace Status

/-- A field that is a text; one that is missing is empty. -/
def textField? (entries : List (Text × Value)) (name : String) : Option Text :=
  match entries.find? (·.1 == name.toList) with
  | none => some []
  | some e => e.2.text?

/-- An integer that is a code. -/
def code? : Value → Option Nat
  | .int n => if 0 ≤ n ∧ n < Nat.pow 2 16 then some n.toNat else none
  | _ => none

/-- What the body of a refusal says.  Its status and its code must be there, its message and its
reason may be missing.  In a list all four stand without their names. -/
def ofValue? : Value → Option Status
  | .record entries => do
    let body : Value := .record entries
    let state ← (body.field "status".toList).text?
    let message ← textField? entries "message"
    let reason ← textField? entries "reason"
    let code ← code? (body.field "code".toList)
    return { state, code, reason, message }
  | .list [.text state, .text message, .text reason, code] =>
    (code? code).map fun code => { state, code, reason, message }
  | _ => none

/-- A refusal with a body that says nothing readable. -/
def unreadable (code : Nat) (body : Value) : Status where
  state := codeText code
  code := code
  reason := "Failed to parse error data".toList
  message := Quoted.write (Json.write body)

/-- The refusal that a code and a body make up. -/
def ofAnswer (code : Nat) (body : Value) : Status :=
  (ofValue? body).getD (unreadable code body)

/-! ## Words -/

/-- A refusal in short. -/
def summary (s : Status) : Text :=
  s.message ++ ": ".toList ++ s.reason

/-- A refusal with all its parts. -/
def details (s : Status) : Text :=
  "ErrorResponse \x7b status: ".toList ++ Quoted.write s.state
    ++ ", message: ".toList ++ Quoted.write s.message
    ++ ", reason: ".toList ++ Quoted.write s.reason
    ++ ", code: ".toList ++ Decimal.ofNat s.code ++ " \x7d".toList

end Status

end Evidence.Kubernetes

import AssistedDialing.Value.Display

/-!
# Exceptions in log records

A log record may report an exception, by its class and its arguments. `Exception.line` shows it on
one line. An attribute of the record can take the place of the exception; `lineOfValue` shows that.
-/

namespace AssistedDialing.Log

/-- A reported exception. -/
structure Exception where
  className : String
  arguments : List Value
  deriving Repr, Inhabited

namespace Exception

/-- `report.text` is the text of the exception: its argument, or a list of several. The lone
argument of a `KeyError` is shown as a literal. -/
def text (report : Exception) : String :=
  match report.arguments with
  | [] => ""
  | [value] => if report.className = "KeyError" then value.literal else value.display
  | values => "(" ++ Value.literalItems values ++ ")"

/-- `report.line` is the class of the exception and its text, if that is not empty. -/
def line (report : Exception) : String :=
  if report.text = "" then report.className else report.className ++ ": " ++ report.text

end Exception

/-- Why a value shows no exception. -/
inductive TraceError where
  | notSubscriptable (kind : String)
  | textTooShort
  | listTooShort
  | noItem
  | noFrame (kind : String)
  | noContext (kind : String)
  deriving DecidableEq, Repr, Inhabited

namespace TraceError

/-- `error.message` says what is wrong. -/
def message : TraceError → String
  | notSubscriptable kind => "'" ++ kind ++ "' object is not subscriptable"
  | textTooShort => "string index out of range"
  | listTooShort => "list index out of range"
  | noItem => "2"
  | noFrame kind => "'" ++ kind ++ "' object has no attribute 'tb_frame'"
  | noContext kind => "'" ++ kind ++ "' object has no attribute '__suppress_context__'"

end TraceError

/-- `lineOfValue value` shows the exception that a value stands for: a list of a class, an exception
and a trace. No value is an exception or a trace, so both must be null. -/
def lineOfValue : Value → Except TraceError String
  | .list (_ :: .null :: .null :: _) => .ok "NoneType: None"
  | .list (_ :: report :: .null :: _) => .error (.noContext report.kind)
  | .list (_ :: _ :: trace :: _) => .error (.noFrame trace.kind)
  | .list _ => .error .listTooShort
  | .text s => if s.length < 3 then .error .textTooShort else .error (.noFrame "str")
  | .reason _ => .error (.noFrame "str")
  | .object _ => .error .noItem
  | value => .error (.notSubscriptable value.kind)

end AssistedDialing.Log

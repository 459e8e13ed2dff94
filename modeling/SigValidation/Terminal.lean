import SigValidation.Journal
/-!
# What a terminal shows

Log lines and the report of a panic, coloured by escape sequences. Only warnings and errors are
logged. What is logged cannot command the terminal: the controls that could are written by their
code. A panic's message stands as it is.
-/
namespace SigValidation.Terminal

/-- An escape sequence that selects a graphic rendition. -/
def rendition (code : Nat) : String := "\x1b[" ++ Nat.repr code ++ "m"

/-- The colour of a severity: red, yellow, green, blue or purple. -/
def severityColour : Severity → Nat
  | .error => 31
  | .warn => 33
  | .info => 32
  | .debug => 34
  | .trace => 35

def isLogged : Severity → Bool
  | .error | .warn => true
  | .info | .debug | .trace => false

/-- The name of a severity, five characters wide, standing to the right. -/
def severityLabel (severity : Severity) : String :=
  let label := severity.label
  String.ofList (List.replicate (5 - label.length) ' ') ++ label

/-- The controls below 128 that can command a terminal: bell, backspace, form feed, escape and
delete. -/
def commandControls : List Char := ['\x07', '\x08', '\x0c', '\x1b', '\x7f']

/-- A character as it stands in a log. -/
def loggedChar (c : Char) : String :=
  if c ∈ commandControls then "\\x" ++ Bytes.toHex [UInt8.ofNat c.toNat]
  else if 0x80 ≤ c.toNat ∧ c.toNat < 0xa0 then
    "\\u\x7b" ++ Bytes.toHex [UInt8.ofNat c.toNat] ++ "\x7d"
  else String.singleton c

/-- A log entry: the time, dimmed, then the coloured severity and the text. -/
def logEntry (time : String) (severity : Severity) (text : String) : String :=
  rendition 2 ++ time ++ rendition 0 ++ " " ++ rendition (severityColour severity) ++
    severityLabel severity
    ++ rendition 0 ++ " " ++ String.join (text.toList.map loggedChar)

/-- The lines of a log entry; a line feed follows it. -/
def logLines (time : String) (severity : Severity) (text : String) : List String :=
  (Text.lines ((logEntry time severity text).toList ++ ['\n'])).dropLast.map String.ofList

/-- The lines of an event; none if it is not logged. The events that are logged have no fields. -/
def eventLines (time : String) (event : LogEvent) : List String :=
  match event.severity? with
  | some severity => if isLogged severity then logLines time severity event.message else []
  | none => []

/-- The first lines of a panic's report. -/
inductive CrashReport where
  /-- A test ended with an error, which has been written already. -/
  | testEnd
  /-- The message of the panic; its location follows. -/
  | message (text : String)
  deriving DecidableEq, Repr

namespace CrashReport

/-- The panic message of a test that ended with an error. -/
def testEndMessage : String := "the test returned a termination value with a non-zero status code"

def hasInfix (part : List Char) : List Char → Bool
  | [] => part.isEmpty
  | c :: rest => part.isPrefixOf (c :: rest) || hasInfix part rest

/-- The report of a panic whose payload is a text or something else. -/
def ofPayload (payload : Option String) : CrashReport :=
  let text := payload.getD "<non string panic payload>"
  if hasInfix testEndMessage.toList text.toList then testEnd else message text

def text : CrashReport → String
  | testEnd => "---- end of test output ----"
  | message text =>
    rendition 31 ++ "\nThe application panicked (crashed)." ++ rendition 39 ++
      "\nMessage:  " ++ rendition 36 ++ text
      ++ rendition 39 ++ "\n"

/-- Whether the location of the panic follows. -/
def hasLocation : CrashReport → Bool
  | testEnd => false
  | message _ => true

end CrashReport

end SigValidation.Terminal

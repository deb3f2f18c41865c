import SignedAccess.Json.Writer
import SignedAccess.Log.Entry
import SignedAccess.Settings

/-!
# Log lines

An event is logged by a call that bears the name of a level.  Its entry is completed by a value of
the context, its level and a time stamp, and printed either as one JSON object or as a line for a
console.

Main definitions:

* `Log.threshold` — the least rank that is printed;
* `LogCall` — a call that logs, and `LogCall.entry` — the entry that it makes;
* `Log.complete` — the values of an entry, completed;
* `Log.jsonLine`, `Log.consoleLine` — the two forms of a line;
* `Log.lines` — the lines that calls print.
-/

namespace SignedAccess

/-- Why nothing can be logged. -/
inductive LogFault where
  /-- The settings name the table of styles in the place of a level. -/
  | stylesAsLevel
  /-- The settings name the format of lines in the place of a level. -/
  | formatAsLevel
  /-- There is no level of that name to log under. -/
  | unknownLevel
  /-- A value has a name that the call itself uses. -/
  | takenName
  /-- What is printed below the line is no text. -/
  | noText
  /-- An integer is too long to be printed. -/
  | tooLong
  deriving DecidableEq, Repr

/-- A call that logs an event under the name of a level. -/
structure LogCall where
  name : Text
  event : Text
  fields : List (Text × Json)

namespace Log

/-! ## Levels -/

/-- The ranks of the level names. -/
def ranks : List (String × Nat) :=
  [("CRITICAL", 50), ("FATAL", 50), ("ERROR", 40), ("WARNING", 30), ("WARN", 30), ("INFO", 20),
   ("DEBUG", 10), ("NOTSET", 0)]

/-- The rank of a level name in any case; an unknown name stands for that of `info`. -/
def threshold (level : Text) : Except LogFault Nat :=
  let name := Text.upper level
  if name = "_STYLES".toList then .error .stylesAsLevel
  else if name = "BASIC_FORMAT".toList then .error .formatAsLevel
  else match ranks.find? fun r => r.1.toList = name with
    | some r => .ok r.2
    | none => .ok LogLevel.info.rank

def callLevels : List (String × LogLevel) :=
  [("debug", .debug), ("info", .info), ("msg", .info), ("warning", .warning), ("warn", .warning),
   ("error", .error), ("fatal", .error), ("exception", .error), ("critical", .critical)]

/-! ## Calls -/

/-- The values of a call.  One that reports an exception says so unless a value does. -/
def callFields (call : LogCall) : List (Text × Json) :=
  if call.name = "exception".toList && (Json.fieldOf? "exc_info".toList call.fields).isNone then
    call.fields ++ [("exc_info".toList, .bool true)]
  else call.fields

/-- Whether a call has a value of one of some names. -/
def hasField (call : LogCall) (names : List String) : Bool :=
  call.fields.any fun f => names.any fun name => name.toList = f.1

/-- The name under which there is no level, and which nothing can be printed under. -/
def unsetName : Text := "notset".toList

end Log

/-- The entry of a call; none if its rank is below the least one. -/
def LogCall.entry (call : LogCall) (least : Nat) : Except LogFault (Option LogEntry) :=
  let level := (Log.callLevels.find? fun l => l.1.toList = call.name).map Prod.snd
  if level.isNone ∧ call.name ≠ Log.unsetName then .error .unknownLevel
  else if Log.hasField call ["self", "event"] then .error .takenName
  else match level with
    | none => if least = 0 then .error .unknownLevel else .ok none
    | some level =>
      if level.rank < least then .ok none
      else if Log.hasField call ["method_name"] then .error .takenName
      else .ok (some ⟨level, call.event, Log.callFields call⟩)

namespace Log

/-! ## Values -/

/-- Adds a value of the context unless the key is taken. -/
def addContext (context : Option (Text × Json)) (fields : List (Text × Json)) :
    List (Text × Json) :=
  match context with
  | some (key, value) =>
    if (Json.fieldOf? key fields).isSome then fields else fields ++ [(key, value)]
  | none => fields

/-- Values without those of some keys. -/
def without (keys : List String) (fields : List (Text × Json)) : List (Text × Json) :=
  fields.filter fun f => !keys.any fun key => key.toList = f.1

/-- The values of an entry: its own, the event, the context, the level and the time stamp.  Whether
the stack is asked for is no value of its own. -/
def complete (context : Option (Text × Json)) (stamp : Text) (entry : LogEntry) :
    List (Text × Json) :=
  Json.insertField "timestamp".toList (.text stamp)
    (without ["stack_info"]
      (Json.insertField "level".toList (.text entry.level.name)
        (addContext context (Json.insertField "event".toList (.text entry.event) entry.fields))))

/-! ## JSON -/

/-- The values as one JSON object. -/
def jsonLine (fields : List (Text × Json)) : Text := Json.write .wide (.object fields)

/-! ## Console -/

/-- A terminal escape that selects a style. -/
def style (code : String) : Text := '\x1B' :: '[' :: code.toList ++ ['m']

def reset : Text := style "0"
def bright : Text := style "1"
def dim : Text := style "2"

def levelStyle : LogLevel → Text
  | .debug | .info => style "32" ++ bright
  | .warning => style "33" ++ bright
  | .error | .critical => style "31" ++ bright

def shownReal : Binary64 → Text
  | .finite negative m e => Shortest.text negative m e
  | .infinite negative => (if negative then "-inf" else "inf").toList
  | .notNumber => "nan".toList

mutual

/-- A value as it is shown within a list or a mapping. -/
def shown : Json → Text
  | .null => "None".toList
  | .bool b => (if b then "True" else "False").toList
  | .int n => Decimal.ofInt n
  | .real x => shownReal x
  | .text t => Text.quoted t
  | .unpaired t => Text.quoted t.shown
  | .array items => '[' :: Text.joined ", ".toList (shownItems items) ++ [']']
  | .object fields => '{' :: Text.joined ", ".toList (shownFields fields) ++ ['}']

/-- The members of a list as they are shown. -/
def shownItems : List Json → List Text
  | [] => []
  | j :: rest => shown j :: shownItems rest

/-- The members of a mapping as they are shown. -/
def shownFields : List (Text × Json) → List Text
  | [] => []
  | (key, j) :: rest => (Text.quoted key ++ ": ".toList ++ shown j) :: shownFields rest

end

/-- A value as it is printed: a text as it is. -/
def printed : Json → Text
  | .text t => t
  | .unpaired t => t.shown
  | j => shown j

/-- A key and its value. -/
def pair (f : Text × Json) : Text :=
  style "36" ++ f.1 ++ reset ++ '=' :: style "35" ++ printed f.2 ++ reset

/-- Sorts fields by key. -/
def insertByKey (f : Text × Json) : List (Text × Json) → List (Text × Json)
  | [] => [f]
  | g :: rest => if Text.precedes f.1 g.1 then f :: g :: rest else g :: insertByKey f rest

def loggerName (value : Json) : Text :=
  '[' :: reset ++ bright ++ style "34" ++ printed value ++ reset ++ ']' :: reset

/-- The keys that have a place of their own, in the line or below it. -/
def placed : List String :=
  ["timestamp", "level", "event", "logger", "logger_name", "stack", "exception", "exc_info"]

/-- The completed values as one line for a console. -/
def consoleLine (level : LogLevel) (fields : List (Text × Json)) : Text :=
  let value (key : String) : Text := ((Json.fieldOf? key.toList fields).map printed).getD []
  let loggers := ["logger", "logger_name"].filterMap fun key => Json.fieldOf? key.toList fields
  let others := (without placed fields).foldr insertByKey []
  dim ++ value "timestamp" ++ reset
    ++ " [".toList ++ levelStyle level ++ Text.padRight 9 (value "level") ++ reset ++ "] ".toList
    ++ bright ++ Text.padRight 30 (value "event") ++ reset
    ++ (loggers.flatMap fun name => ' ' :: loggerName name)
    ++ others.flatMap fun f => ' ' :: pair f

/-- The text of a value that may be missing. -/
def textOrNone : Option Json → Except LogFault (Option Text)
  | none | some .null => .ok none
  | some (.text t) => .ok (some t)
  | some _ => .error .noText

/-- What stands between a stack and an exception. -/
def rule : Text := "\n\n".toList ++ List.replicate 79 '=' ++ ['\n']

/-- What stands in the place of an exception that is not there. -/
def missingException : Text := "MISSING".toList

/-- What is printed below the line: a stack, and an exception, behind a rule if there is a stack. -/
def below (fields : List (Text × Json)) : Except LogFault Text := do
  let stack ← textOrNone (Json.fieldOf? "stack".toList fields)
  let exception ←
    if (Json.fieldOf? "exc_info".toList fields).any Json.isTruthy then .ok (some missingException)
    else textOrNone (Json.fieldOf? "exception".toList fields)
  let stackText := match stack with
    | some stack => '\n' :: stack ++ if exception.isSome then rule else []
    | none => []
  let exceptionText := match exception with
    | some exception => '\n' :: exception
    | none => []
  return stackText ++ exceptionText

/-! ## Lines -/

def endsLine (c : Char) : Bool :=
  let n := c.toNat
  (0x0A ≤ n && n ≤ 0x0D) || (0x1C ≤ n && n ≤ 0x1E) || n = 0x85 || n = 0x2028 || n = 0x2029

/-- The lines of a printed text, of which `line` has been read in reverse.  A carriage return and a
line feed together end one line. -/
def splitFrom (line : Text) : Text → List Text
  | [] => if line = [] then [] else [line.reverse]
  | '\r' :: '\n' :: rest => line.reverse :: splitFrom [] rest
  | c :: rest =>
    if endsLine c then line.reverse :: splitFrom [] rest else splitFrom (c :: line) rest

def linesOf (json : Bool) (context : Option (Text × Json)) (stamp : Text) (entry : LogEntry) :
    Except LogFault (List Text) := do
  let fields := complete context stamp entry
  if !Json.areFieldsWritable fields then throw .tooLong
  if json then return [jsonLine fields]
  else return splitFrom [] (consoleLine entry.level fields ++ (← below fields) ++ ['\n'])

def linesOfCall (least : Nat) (json : Bool) (context : Option (Text × Json)) (stamp : Text)
    (call : LogCall) : Except LogFault (List Text) := do
  match ← call.entry least with
  | some entry => linesOf json context stamp entry
  | none => return []

def lines (settings : LogSettings) (context : Option (Text × Json)) (stamp : Text)
    (calls : List LogCall) : Except LogFault (List Text) := do
  let least ← threshold settings.level
  return (← calls.mapM (linesOfCall least settings.jsonOutput context stamp)).flatten

/-! ## Steps -/

/-- A step that an event passes before it is printed. -/
inductive Step where
  | mergeContext
  | addLevel
  | renderStack
  | markException
  | stamp
  | renderJson
  | renderConsole
  deriving DecidableEq, Repr

/-- The steps that an event passes, in order. -/
def steps (json : Bool) : List Step :=
  [.mergeContext, .addLevel, .renderStack, .markException, .stamp,
   if json then .renderJson else .renderConsole]

end Log

end SignedAccess

import Judge.Host.Condition
import Judge.Host.Machine.Signal
import Judge.Host.Utility.Words

/-!
Utilities that ask or tell the system something: the variables, the directory, the time, processes
and conditions.
-/

namespace Judge.Host.Utility

/-- Ends well. -/
def succeed (_ : List Raw) : Program := return 0

/-- Ends badly. -/
def fail (_ : List Raw) : Program := return 1

/-- The nanoseconds of a time that a text tells. -/
def interval? (text : Raw) : Option Nat := do
  let (negative, result) ← Numeral.readReal? text
  if negative then none
  let unit ← match result.rest with
    | [] | ['s'] => some 1
    | ['m'] => some 60
    | ['h'] => some 3600
    | ['d'] => some 86400
    | _ => none
  match result.value with
  | .finite _ steps => some (steps * unit * 1000000000 / Judge.Decimal.Binary64.one)
  | .infinite _ => some 1000000000000000000
  | .nan => none

/-- Waits. -/
def sleep : List Raw → Program :=
  withOptions [] false 1 fun name _ operands => do
    if operands.isEmpty then missingOperand name 1
    else
      let bad := operands.filter fun operand => (interval? operand).isNone
      if bad.isEmpty then
        let _ ← ask (.sleep ((operands.filterMap interval?).foldl (· + ·) 0))
        return 0
      else
        let _ ← worst (fun operand => do
          complain name ("invalid time interval ".toList ++ quoted operand)
          return 0) bad
        tell 2 ("Try '".toList ++ name ++ " --help' for more information.\n".toList)
        return 1

/-- A setting as one text. -/
def showSetting (setting : Raw × Raw) : Raw := setting.1 ++ '=' :: setting.2

/-- Settings with another value of one of them. -/
def setIn (settings : Settings) (name value : Raw) : Settings :=
  if settings.any (·.1 == name) then
    settings.map fun s => if s.1 == name then (name, value) else s
  else settings ++ [(name, value)]

/-- The assignments in front of a command, taken into the settings. -/
def assignAll (settings : Settings) : List Raw → Settings × List Raw
  | [] => (settings, [])
  | word :: rest =>
    match Text.cut '=' word with
    | some (name, value) => assignAll (setIn settings name value) rest
    | none => (settings, word :: rest)

/-- Becomes the first program among paths that can be run. -/
def becomeFirst (arguments : List Raw) (settings : Settings) (cause : IoError) :
    List Raw → Act IoError
  | [] => return cause
  | path :: rest => do
    match ← ask (.execute path arguments settings) with
    | .missing | .notDirectory => becomeFirst arguments settings cause rest
    | .permission => becomeFirst arguments settings .permission rest
    | other => return other

/-- Runs a command with other settings, or writes the settings. -/
def env (arguments : List Raw) (settings : Settings) : Program :=
  withOptions [⟨'i', "ignore-environment", false⟩, ⟨'u', "unset", true⟩, ⟨'0', "null", false⟩,
    ⟨'C', "chdir", true⟩] true 125 (fun name options operands => do
      let (clear, operands) := match operands with
        | ['-'] :: rest => (true, rest)
        | rest => (has options 'i', rest)
      let settings := if clear then [] else settings
      let settings := options.foldl (fun settings o =>
        if o.letter == 'u' then settings.filter (·.1 != o.value) else settings) settings
      let (settings, command) := assignAll settings operands
      let place := valueOf? options 'C'
      match command with
      | [] =>
        if place.isSome then misuse name "must specify command with --chdir (-C)".toList 125
        else
          let ending := if has options '0' then ['\x00'] else ['\n']
          putAll name (settings.flatMap fun s => showSetting s ++ ending) 0
      | program :: _ =>
        if has options '0' then misuse name "cannot specify --null (-0) with command".toList 125
        else
          let entered ← match place with
            | none => pure (.ok ())
            | some path => ask (.enter path)
          match entered with
          | .error cause =>
            complainOf name ("cannot change directory to ".toList ++ quoted (place.getD [])) cause
            return 125
          | .ok _ =>
            let cause ← becomeFirst command settings .missing
              (pathsOf ((settings.lookup "PATH".toList).getD "/bin:/usr/bin".toList) program)
            complainOf name (quoted program) cause
            return if cause = .missing then 127 else 126) arguments

/-- Writes values of settings. -/
def printenv (arguments : List Raw) (settings : Settings) : Program :=
  withOptions [⟨'0', "null", false⟩] true 2 (fun name options operands => do
    let ending := if has options '0' then ['\x00'] else ['\n']
    if operands.isEmpty then putAll name (settings.flatMap fun s => showSetting s ++ ending) 0
    else
      let values := operands.filterMap (settings.lookup ·)
      putAll name (values.flatMap (· ++ ending))
        (if values.length = operands.length then 0 else 1)) arguments

/-- Writes the directory. -/
def pwd : List Raw → Program :=
  withOptions [⟨'L', "logical", false⟩, ⟨'P', "physical", false⟩] false 1 fun name _ operands => do
    if !operands.isEmpty then complain name "ignoring non-option arguments".toList
    match ← ask .directory with
    | .ok place => putAll name (place ++ ['\n']) 0
    | .error cause =>
      complain name ("couldn't find directory entry in '..' with matching i-node".toList)
      return if cause = .missing then 1 else 1

/-- The complaint about a condition. -/
def conditionFault : Condition.Fault → Raw
  | .missingArgument operator => "missing argument after ".toList ++ quoted operator
  | .noClosing => "')' expected".toList
  | .unexpected _ next => "extra argument ".toList ++ quoted next
  | .badNumber word => "invalid integer ".toList ++ quoted word

/-- Works out a condition. -/
def check (name : Raw) (words : List Raw) : Program := do
  match ← (Condition.evaluate false 4 words).run with
  | .ok holds => return if holds then 0 else 1
  | .error fault =>
    complain name (conditionFault fault)
    return 2

/-- Works out a condition. -/
def test (arguments : List Raw) : Program := check (arguments.headD []) (arguments.drop 1)

/-- Works out a condition up to its closing bracket. -/
def bracket (arguments : List Raw) : Program := do
  let name := arguments.headD []
  let words := arguments.drop 1
  if words.getLast? == some [']'] then check name words.dropLast
  else
    complain name "missing ']'".toList
    return 2

/-- The number of the signal that a text tells. -/
def signal? (text : Raw) : Option Nat :=
  match digits? text with
  | some n => if n ≤ Signal.last then some n else none
  | none =>
    let name := if "SIG".toList.isPrefixOf text then text.drop 3 else text
    (Signal.names.findIdx? (·.toList == name)).map (· + 1)

/-- Sends a signal to processes. -/
def sendAll (name : Raw) (signal : Nat) (operands : List Raw) : Program :=
  worst (fun operand => do
    match Numeral.whole? 10 operand with
    | none =>
      complain name ("failed to parse argument: ".toList ++ quoted operand)
      return 1
    | some target =>
      match ← ask (.kill target signal) with
      | .ok _ => return 0
      | .error cause =>
        complain name ('(' :: operand ++ "): ".toList ++ wording cause)
        return 1) operands

/-- Sends a signal to processes. -/
def kill (arguments : List Raw) : Program := do
  let name := arguments.headD []
  let send (signal : Raw) (operands : List Raw) : Program :=
    match signal? signal with
    | some n => sendAll name n operands
    | none => do
      complain name ("unknown signal name ".toList ++ signal)
      return 1
  match arguments.drop 1 with
  | ['-', 's'] :: signal :: operands => send signal operands
  | ['-', '-'] :: operands => sendAll name Signal.terminate operands
  | ('-' :: signal) :: operands => send signal operands
  | operands => sendAll name Signal.terminate operands

end Judge.Host.Utility

import CommandScript.Scanner.Chain

/-!
# Executing built-in lines

Each built-in expands its payload first. What it does to the store and to the
outside is an action; what it means for the scanner that executes it is its
effect. An optional resource may be missing, but only the resource itself: what
it names in turn must be there.
-/

namespace CommandScript

/-- What executing a line means for the scanner. -/
inductive Effect where
  | done
  | replayRequested
  /-- An included source is to be read next. -/
  | entered (frame : Frame)

section

variable (resources : Resources) (settings : Settings)

def expandPayload (t : Text) : Act Store Text :=
  Store.expand settings.expander settings.options.verbose t

def debugIfVerbose (channel : LogChannel) (message : Text) : Act Store Unit :=
  Act.onlyIf settings.options.verbose (Act.debug channel message)

/-- Opens what an `include` line names; `place` is where the line stands, in
words. A missing optional source counts as one without lines. -/
def executeInclude (place reference : Text) : Act Store Effect := do
  let (optional, reference) := Text.splitOptional (← expandPayload settings reference)
  let frame ← (do
    match ← Act.attempt (openFrame resources settings (.text reference)) with
    | .ok frame => return frame
    | .error (.notFound _ _) =>
      if optional then
        Act.debug .builtins ("Optional include '" ++ reference ++ "' is missing; skipping")
        return {}
      else Act.fail (.notFound reference (some place))
    | .error e => Act.fail e)
  debugIfVerbose settings .builtins
    ("include " ++ reference ++ ": " ++ Text.ofNat frame.cursor.lines.length ++ " line(s)")
  return .entered frame

/-- What an expression prints: a final `\n` becomes a line feed, otherwise a space
follows. -/
def printed (expression : Text) : Text :=
  if Text.endsWith expression "\\n" then expression.take (expression.length - 2) ++ ['\n']
  else expression ++ [' ']

/-- Prints, or requests the last output again where the expression is a dash. -/
def executePrint (expression : Text) : Act Store Effect := do
  let expression ← expandPayload settings expression
  if expression = ['-'] then
    Act.emitAll (if settings.replays then [.replayed] else [])
    return .replayRequested
  else
    Act.emit (.wrote (printed expression))
    return .done

/-- Pauses, if the clock can keep so long a pause. -/
def pauseFor {σ : Type} (seconds : Nat) : Act σ Unit :=
  if resources.keeps seconds then Act.emit (.paused seconds)
  else Act.fail (.numeralTooLong .seconds)

def executeSleep (digits : Text) : Act Store Effect := do
  if digitLimit < digits.length then Act.fail (.numeralTooLong (.digits digits.length))
  else
    let seconds := Text.decimalValue digits
    Act.log .info .script ("sleeping for (seconds) " ++ Text.ofNat seconds)
    pauseFor resources seconds
    return .done

/-- Sets a script variable. The guard is part of the key as written. -/
def executeSetProperty (key value : Text) : Act Store Effect := do
  let (guarded, key) := Text.splitOptional key
  let key ← expandPayload settings key
  let value ← expandPayload settings (Text.trim value)
  debugIfVerbose settings .script
    ("setProperty " ++ (if guarded then ['?'] else []) ++ key ++ "=" ++ value)
  let _ ← Store.setGlobal key value guarded
  return .done

/-- Loads a properties source and merges it under a label. -/
def executeProperties (load : Text → Act Store Table) (place label reference : Text) :
    Act Store Effect := do
  let label ← expandPayload settings label
  let (optional, reference) := Text.splitOptional (← expandPayload settings reference)
  let source := Text.asFileReference reference
  let values ← (do
    match ← Act.attempt (load source) with
    | .ok values => return values
    | .error (.notFound missing state) =>
      if missing ≠ source then Act.fail (.notFound missing state)
      else if optional then
        Act.debug .script ("Optional properties file '" ++ reference ++
          "' is missing; label '" ++ label ++ "' gets nothing")
        return ∅
      else Act.fail (.notFound reference (some place))
    | .error e => Act.fail e)
  let _ ← Store.merge label values
  debugIfVerbose settings .script
    ("properties label=[" ++ label ++ "] file=[" ++ reference ++ "]: "
      ++ Text.ofNat values.size ++ " entries")
  return .done

def executeRecord (key : Text) (value : WrittenValue) : Act Store Effect := do
  let key ← expandPayload settings key
  let value ← expandPayload settings value.text
  Act.modify fun s => { s with target := s.target.insert key value }
  debugIfVerbose settings .properties ("Added KV-Pair: " ++ key ++ " = " ++ value)
  return .done

/-- Executes a built-in line that stands at a place; `load` reads a properties
source. -/
def execute (load : Text → Act Store Table) (place : Text) : Builtin → Act Store Effect
  | .includeSource reference => executeInclude resources settings place reference
  | .print expression => executePrint settings expression
  | .sleep digits => executeSleep resources digits
  | .setProperty key value => executeSetProperty settings key value
  | .properties label reference => executeProperties settings load place label reference
  | .record key value => executeRecord settings key value

end

end CommandScript

import CommandScript.CommandLine.Word
import CommandScript.Reader

/-!
# Requests

A command line asks for one thing: a command on a script, the version, or help.
Options in front of the command are the program's own; everything behind the
command belongs to it. What is asked for first is answered, even where a later
word is wrong, but a word that could name several options spoils the whole line.
-/

namespace CommandScript.CommandLine

/-- The script that a command works on, and how it is read. -/
structure Script where
  /-- A file name, or the text of the script itself. -/
  text : Text
  inline : Bool
  options : Options
  deriving DecidableEq, Repr

/-- A script to execute, and what it finds in the registry. -/
structure Execution where
  script : Script
  /-- The environment variables are a table of the registry. -/
  environment : Bool
  /-- Script variables to set beforehand, each as a key, an equals sign and a
  value. -/
  definitions : List Text
  /-- References that no table defines are errors. -/
  strict : Bool
  deriving DecidableEq, Repr

inductive Job where
  /-- Lists the lines that the script surfaces. -/
  | run (execution : Execution)
  /-- Shows the registry after the script. -/
  | vars (execution : Execution) (showEnvironment : Bool)
  /-- Lists every line with its command. -/
  | classify (script : Script)
  deriving DecidableEq, Repr

inductive Request where
  | perform (job : Job)
  /-- No command was given. -/
  | overview
  | help
  | commandHelp
  | version
  /-- The command line is wrong. -/
  | refused
  deriving DecidableEq, Repr

/-- The settings that options of a command make. -/
inductive Setting where
  | help
  | inline
  | keepEnds
  | keepRuns
  | verbose
  | environment
  | definition (text : Text)
  | strict
  | showEnvironment
  deriving DecidableEq, Repr

inductive JobName where
  | run
  | vars
  | classify
  deriving DecidableEq, Repr

namespace JobName

def ofText? (t : Text) : Option JobName :=
  if t = "run".toList then some run
  else if t = "vars".toList then some vars
  else if t = "classify".toList then some classify
  else none

private def scriptOptions : OptionTable Setting :=
  [("-h".toList, .flag .help), ("--help".toList, .flag .help),
    ("--inline".toList, .flag .inline), ("--no-trim".toList, .flag .keepEnds),
    ("--no-compress".toList, .flag .keepRuns), ("--verbose".toList, .flag .verbose)]

private def executionOptions : OptionTable Setting :=
  [("--env".toList, .flag .environment), ("-D".toList, .valued .definition),
    ("--strict-macros".toList, .flag .strict)]

def options : JobName → OptionTable Setting
  | run => scriptOptions ++ executionOptions
  | vars => scriptOptions ++ executionOptions ++
    [("--show-env".toList, .flag .showEnvironment)]
  | classify => scriptOptions

end JobName

namespace Setting

def script (settings : List Setting) (text : Text) : Script where
  text := text
  inline := settings.contains inline
  options :=
    { trim := !settings.contains keepEnds
      compress := !settings.contains keepRuns
      verbose := settings.contains verbose }

def execution (settings : List Setting) (text : Text) : Execution where
  script := script settings text
  environment := settings.contains environment
  definitions := settings.filterMap fun
    | definition text => some text
    | _ => none
  strict := settings.contains strict

def job (settings : List Setting) (text : Text) : JobName → Job
  | .run => .run (execution settings text)
  | .vars => .vars (execution settings text) (settings.contains showEnvironment)
  | .classify => .classify (script settings text)

end Setting

/-- What the words read so far have come to. -/
structure Progress where
  script : Option Text := none
  settings : List Setting := []
  /-- A word was no part of the command. -/
  surplus : Bool := false
  /-- The last word was the script. -/
  atScript : Bool := false

namespace Progress

def withSettings (p : Progress) (settings : List Setting) : Progress :=
  { p with settings := p.settings ++ settings, atScript := false }

def withSurplus (p : Progress) : Progress := { p with surplus := true, atScript := false }

/-- An operand is the script, if there is none. -/
def withOperand (p : Progress) (text : Text) : Progress :=
  match p.script with
  | none => { p with script := some text, atScript := true }
  | some _ => p.withSurplus

/-- The separator belongs in front of the script or right behind it. -/
def withSeparator (p : Progress) : Progress :=
  if p.script.isSome && !p.atScript then p.withSurplus else { p with atScript := false }

/-- The request after the last word. -/
def finish (p : Progress) (name : JobName) : Request :=
  match p.script, p.surplus with
  | some text, false => .perform (Setting.job p.settings text name)
  | _, _ => .refused

end Progress

namespace JobName

/-- Reads the words behind the command. -/
def requestFrom (name : JobName) (p : Progress) : List (Word Setting × Text) → Request
  | [] => p.finish name
  | (.operand text, _) :: rest => name.requestFrom (p.withOperand text) rest
  | (.unknown, _) :: rest => name.requestFrom p.withSurplus rest
  | (.separator, _) :: rest => name.requestFrom p.withSeparator rest
  | (.option use attached, _) :: rest =>
    match name.options.named? use attached with
    | none => .refused
    | some ⟨meanings, none, surplus⟩ =>
      if meanings.contains .help then .commandHelp
      else if surplus then name.requestFrom (p.withSettings meanings).withSurplus rest
      else name.requestFrom (p.withSettings meanings) rest
    | some ⟨meanings, some awaiting, _⟩ =>
      match rest with
      | (.operand value, _) :: rest =>
        if meanings.contains .help then .commandHelp
        else name.requestFrom (p.withSettings (meanings ++ [awaiting value])) rest
      | _ => .refused

def request (name : JobName) (words : List Text) : Request :=
  match name.options.readAll? words with
  | none => .refused
  | some words => name.requestFrom {} words

end JobName

namespace Request

/-- The program's own options. -/
def programOptions : OptionTable Request :=
  [("-h".toList, .flag help), ("--help".toList, .flag help),
    ("-V".toList, .flag version), ("--version".toList, .flag version)]

/-- Unknown options in front of the command spoil a request for work. -/
def unlessSurplus (surplus : Bool) (r : Request) : Request :=
  match r with
  | commandHelp => commandHelp
  | r => if surplus then refused else r

/-- Reads the words up to the command. -/
def ofWordsFrom (surplus : Bool) : List (Word Request × Text) → Request
  | [] => if surplus then refused else overview
  | (.operand name, _) :: rest =>
    match JobName.ofText? name with
    | none => refused
    | some name => unlessSurplus surplus (name.request (rest.map (·.2)))
  | (.unknown, _) :: rest => ofWordsFrom true rest
  | (.separator, _) :: _ => refused
  | (.option use attached, _) :: _ =>
    match programOptions.named? use attached with
    | some ⟨first :: _, _, _⟩ => first
    | _ => refused

def ofWords (words : List Text) : Request :=
  match programOptions.readAll? words with
  | none => refused
  | some words => ofWordsFrom false words

end Request
end CommandScript.CommandLine

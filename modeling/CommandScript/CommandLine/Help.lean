import CommandScript.Text.Blank

/-!
# What the program says about itself
-/

namespace CommandScript.CommandLine

def versionText : Text := "linescribe v0.3.0\n".toList

def helpText : Text :=
  ("usage: linescribe [-h] [-V] Command ...\n" ++
    "\n" ++
    "LineScribe - line-oriented script scanner with built-in commands\n" ++
    "\n" ++
    "positional arguments:\n" ++
    "  Command\n" ++
    "    run          Execute built-ins and list the surfaced lines\n" ++
    "    vars         Execute the script and dump the resulting properties\n" ++
    "    classify     Show the command type of every line\n" ++
    "\n" ++
    "options:\n" ++
    "  -h, --help     show this help message and exit\n" ++
    "  -V, --version  show program's version number and exit\n").toList

end CommandScript.CommandLine

import RegexSubst.CommandLine.Argument

/-!
# `RegexSubst.CommandLine.Help`: the texts of the command line

* `usageText` and `helpText` are what is shown for an error of usage and on request.
* `usageErrorLine` is the line that follows the usage after an error.
-/

set_option autoImplicit false

namespace RegexSubst.CommandLine

/-- The name of the program. -/
def programName : Text := "pcresub"

/-- The version that is shown on request. -/
def versionLine : Text := programName ++ " version 1.0.0\n"

/-- How the program is called. -/
def usageText : Text :=
  Text.joinWith "\n" [
    "usage: pcresub [-h] [-v] [-i] [-m] [-s] [-n COUNT] [-x]",
    "               pattern replacement [file ...]",
    ""]

/-- What the program does and what its arguments mean. -/
def helpText : Text :=
  usageText ++ Text.joinWith "\n" [
    "",
    "Substitute regex matches using PCRE replacement syntax, writing the result to",
    "standard output.",
    "",
    "positional arguments:",
    "  pattern               regex to search for (Python \x60re\x60 syntax)",
    "  replacement           replacement pattern (supports \\0 to \\9, \\g\x7bname\x7d,",
    "                        \\g<name>, \\xhh, \\x\x7bhhhh\x7d, \\l, \\u, \\L, \\U, \\E)",
    "  file                  name of file to be read (standard input if omitted)",
    "",
    "options:",
    "  -h, --help            show this help message and exit",
    "  -v, --version         show program's version number and exit",
    "  -i, --ignore-case     match case-insensitively",
    "  -m, --multiline       make \x60^\x60 and \x60$\x60 match at line boundaries",
    "  -s, --dotall          make \x60.\x60 match newlines",
    "  -n COUNT, --count COUNT",
    "                        maximum number of replacements per input (default 0,",
    "                        meaning all)",
    "  -x, --verbose         run in verbose mode (prints every input before and",
    "                        after substitution to standard error)",
    ""]

/-- The line that reports an error of usage. -/
def usageErrorLine (e : UsageError) : Text :=
  programName ++ ": error: " ++ e.message ++ "\n"

end RegexSubst.CommandLine

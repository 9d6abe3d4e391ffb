import HeaderScan.CommandLine.Item
import HeaderScan.Text.Similarity

/-!
# Why a command line is not carried out

Some switches ask for information only, and some command lines are wrong. Most
errors end with the usage, cut down to the items that were mentioned.
-/

namespace HeaderScan.CommandLine

/-- The name and version of the program. -/
def versionText : String := "hdrscan 0.1.0"

/-- The usage in general. -/
def generalUsage : String := "hdrscan [FLAGS] [OPTIONS] [--] [hosts]..."

/-- What the program does and all that can be given to it. -/
def helpText : String :=
  versionText ++ "
Scan hosts for an HTTP response header.

Prints `Found on host <host> <value>` for every host whose response carries the header, then `All done`.

USAGE:
    " ++ generalUsage ++ "

FLAGS:
    -h, --help       Prints help information
    -V, --version    Prints version information
    -v, --verbose    Verbose program output (prints a summary before exiting)

OPTIONS:
    -c, --config <config-file>                   Configuration file to use [default: ./hdrscan.toml]
    -H, --header <header>
            Response header to look for (case-insensitive) [default: x-forwarded-for]

    -f, --hosts-file <hosts-file>                File with hosts to scan, one per line
        --request-header <request-headers>...    Custom request headers, e.g. `accept=text/html`
    -T, --threads <threads>
            Number of runtime threads to utilize. Defaults to number of cores available to the system

    -t, --timeout <timeout>                      Request timeout in seconds. Without it, requests never time out
    -u, --user-agent <user-agent>                User agent [default: hdrscan/0.1.0]
    -w, --workers <workers>                      Number of concurrent workers [default: 256]

ARGS:
    <hosts>...    Hosts to scan, as URLs (e.g. `http://10.0.0.1`). Without any hosts (here, in the config file, or
                  via `--hosts-file`), a small built-in list is scanned"

/-- The usage of the mentioned items, or the usage in general if there are none. -/
def usage (mentioned : List Item) : String :=
  match Item.all.filter (· ∈ mentioned) with
  | [] => generalUsage
  | items => "hdrscan " ++ " ".intercalate (items.map Item.text)

/-- Why a command line is not carried out. -/
inductive Refusal where
  /-- It asks for help. -/
  | help
  /-- It asks for the version. -/
  | version
  /-- An argument is no item; the items before it were mentioned. -/
  | unknown (argument : String) (alike : Option Item) (mentioned : List Item)
  /-- A parameter has no value. -/
  | missingValue (parameter : Parameter) (mentioned : List Item)
  /-- An item was given more than once. -/
  | repeated (item : Item) (mentioned : List Item)
  /-- A value is no count. -/
  | badCount (parameter : Parameter) (fault : Count.Fault)
  /-- An argument that should be text is not. -/
  | notText

namespace Refusal

/-- The item that is most like an unknown name, if any is like it at all. -/
def alike? (name : String) : Option Item :=
  let better (best : Option (Float × Item)) (item : Item) :=
    let score := Text.similarity name item.long
    match best with
    | some (top, _) => if top < score then some (score, item) else best
    | none => if 0.8 < score then some (score, item) else none
  (Item.all.foldl better none).map Prod.snd

/-- The suggestion of an item, its name in green. -/
def suggestion (item : Item) : String :=
  let green (text : String) := "\x1b[32m" ++ text ++ "\x1b[0m"
  "\tDid you mean " ++ green "--" ++ green item.long ++ "?\n"

/-- The end of most errors. -/
def ending (mentioned : List Item) : String :=
  "\nUSAGE:\n    " ++ usage mentioned ++ "\n\nFor more information try --help"

/-- The answer in words. -/
def message : Refusal → String
  | help => helpText
  | version => versionText
  | unknown argument alike mentioned =>
    "error: Found argument '" ++ argument ++
      "' which wasn't expected, or isn't valid in this context\n" ++
      alike.elim "" suggestion ++ ending (mentioned ++ alike.toList)
  | missingValue parameter mentioned =>
    "error: The argument '" ++ (Item.parameter parameter).text ++
      "' requires a value but none was supplied\n" ++ ending mentioned
  | repeated item mentioned =>
    "error: The argument '" ++ item.text ++
      "' was provided more than once, but cannot be used multiple times\n" ++ ending mentioned
  | badCount parameter fault =>
    "error: Invalid value for '" ++ (Item.parameter parameter).text ++ "': " ++ fault.message
  | notText => "unexpected invalid UTF-8 code point"

end Refusal

end HeaderScan.CommandLine

import HeaderScan.Config.Basic

/-!
# Switches and parameters

On a command line stand hosts, switches, which take no value, and parameters,
which take a value. Switches and parameters have long names, and all but one have
a letter.
-/

namespace HeaderScan.CommandLine

/-- What can be switched on. -/
inductive Switch where
  | help
  | version
  | verbose
deriving DecidableEq

/-- The long name of a switch. -/
def Switch.long : Switch → String
  | help => "help"
  | version => "version"
  | verbose => "verbose"

/-- The letter of a switch. -/
def Switch.letter : Switch → Char
  | help => 'h'
  | version => 'V'
  | verbose => 'v'

/-- What can be given a value. -/
inductive Parameter where
  | configFile
  | header
  | hostsFile
  | requestHeaders
  | threads
  | timeout
  | userAgent
  | workers
deriving DecidableEq

namespace Parameter

/-- The long name. -/
def long : Parameter → String
  | configFile => "config"
  | header => "header"
  | hostsFile => "hosts-file"
  | requestHeaders => "request-header"
  | threads => "threads"
  | timeout => "timeout"
  | userAgent => "user-agent"
  | workers => "workers"

/-- The letter, if there is one. -/
def letter? : Parameter → Option Char
  | configFile => some 'c'
  | header => some 'H'
  | hostsFile => some 'f'
  | requestHeaders => none
  | threads => some 'T'
  | timeout => some 't'
  | userAgent => some 'u'
  | workers => some 'w'

/-- The placeholder for the value. -/
def placeholder : Parameter → String
  | configFile => "<config-file>"
  | requestHeaders => "<request-headers>..."
  | parameter => "<" ++ parameter.long ++ ">"

/-- The parameter may have more than one value. -/
def isRepeatable (parameter : Parameter) : Bool := parameter = requestHeaders

/-- The value has to be a count. -/
def isCount : Parameter → Bool
  | threads | timeout | workers => true
  | _ => false

/-- The value where none is given, if there is one. -/
def standard? : Parameter → Option String
  | configFile => some "./hdrscan.toml"
  | header => some Config.standard.header
  | userAgent => some Config.standard.userAgent
  | workers => some Config.standard.workers.repr
  | _ => none

end Parameter

/-- A switch or a parameter. -/
inductive Item where
  | switch (switch : Switch)
  | parameter (parameter : Parameter)
deriving DecidableEq

namespace Item

/-- All items, in the order in which a usage names them. -/
def all : List Item :=
  [.parameter .configFile, .switch .help, .parameter .header, .parameter .hostsFile,
    .parameter .requestHeaders, .parameter .threads, .parameter .timeout, .parameter .userAgent,
    .switch .version, .switch .verbose, .parameter .workers]

/-- The items that have a value also if none is given. -/
def withStandard : List Item :=
  [.parameter .configFile, .parameter .header, .parameter .userAgent, .parameter .workers]

/-- The long name. -/
def long : Item → String
  | switch s => s.long
  | parameter p => p.long

/-- The item has this letter. -/
def hasLetter (c : Char) : Item → Bool
  | switch s => s.letter == c
  | parameter p => p.letter? == some c

/-- The item as messages show it. -/
def text : Item → String
  | switch s => "--" ++ s.long
  | parameter p => "--" ++ p.long ++ " " ++ p.placeholder

/-- The item with this long name. -/
def ofLong? (name : List UInt8) : Option Item :=
  all.find? fun item => Text.encodeUtf8 item.long == name

/-- The item with this letter. -/
def ofLetter? (letter : UInt8) : Option Item :=
  all.find? (hasLetter (Char.ofNat letter.toNat))

end Item

end HeaderScan.CommandLine

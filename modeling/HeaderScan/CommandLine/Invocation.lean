import HeaderScan.CommandLine.Mention

/-!
# Command lines

A command line is sound if its counts are counts, every parameter has a value, and
nothing but the repeatable parameter is given twice. It then names a configuration
file and hosts, and is a configuration itself.
-/

namespace HeaderScan

open CommandLine

/-- A command line that can be carried out. -/
structure Invocation where
  /-- The configuration file to read. -/
  configFile : String
  /-- The hosts to scan. -/
  hosts : List String
  /-- All other settings. -/
  config : Config

namespace CommandLine

/-- The hosts that are mentioned. -/
def hostsIn (mentions : List Mention) : List (List UInt8) :=
  mentions.filterMap fun
    | .host bytes => some bytes
    | _ => none

/-- The values of a parameter that are mentioned. -/
def valuesIn (mentions : List Mention) (parameter : Parameter) : List (List UInt8) :=
  mentions.filterMap fun
    | .value p bytes => if p = parameter then some bytes else none
    | _ => none

/-- How often an item is mentioned. -/
def timesIn (mentions : List Mention) (item : Item) : Nat :=
  (mentions.filterMap Mention.item?).count item

/-- The values of a parameter, or the one it has without. -/
def effectiveValues (mentions : List Mention) (parameter : Parameter) : List (List UInt8) :=
  match valuesIn mentions parameter with
  | [] => (parameter.standard?.map Text.encodeUtf8).toList
  | values => values

/-- The item is mentioned without a value that it needs. -/
def lacksValue (mentions : List Mention) : Item → Bool
  | .switch _ => false
  | .parameter p => effectiveValues mentions p == []

/-- The items of the usage once the whole command line has been read. -/
def itemsOf (mentions : List Mention) : List Item :=
  mentions.filterMap Mention.item? ++ Item.withStandard

/-- Every parameter that is mentioned has a value; of several that have none, the
last one mentioned is reported. -/
def checkValues (mentions : List Mention) : Except Refusal Unit :=
  match (mentions.filterMap Mention.item?).reverse.find? (lacksValue mentions) with
  | some (.parameter p) => .error (.missingValue p (itemsOf mentions))
  | _ => .ok ()

/-- A count that is given as a value. -/
def readCount (parameter : Parameter) (bytes : List UInt8) : Except Refusal Nat :=
  (Count.ofText (Text.decodeUtf8Lossy bytes)).mapError (.badCount parameter)

/-- The item may be mentioned more than once. -/
def isRepeatable : Item → Bool
  | .switch _ => false
  | .parameter p => p.isRepeatable

/-- The values of an item are counts where they should be, and it is not repeated
unless it may be. -/
def checkItem (mentions : List Mention) (item : Item) : Except Refusal Unit := do
  match item with
  | .switch _ => pure ()
  | .parameter p => if p.isCount then discard ((valuesIn mentions p).mapM (readCount p))
  if 1 < timesIn mentions item && !isRepeatable item then
    throw (.repeated item (itemsOf mentions))

/-- The text that bytes hold, or the refusal to take them for text. -/
def textOf (bytes : List UInt8) : Except Refusal String :=
  (Text.decodeUtf8 bytes).mapError fun _ => .notText

/-- The value of a text parameter that always has one. -/
def textValue (mentions : List Mention) (parameter : Parameter) : Except Refusal String :=
  textOf ((effectiveValues mentions parameter).headD [])

/-- The count that a parameter is given, if it is. -/
def countValue (mentions : List Mention) (parameter : Parameter) : Except Refusal (Option Nat) :=
  (effectiveValues mentions parameter).head?.mapM (readCount parameter)

end CommandLine

namespace Invocation

/-- The invocation that sound mentions make. -/
def ofSound (mentions : List Mention) : Except Refusal Invocation := do
  let hosts ← (hostsIn mentions).mapM textOf
  let configFile ← textValue mentions .configFile
  let workers ← countValue mentions .workers
  let threads ← countValue mentions .threads
  let header ← textValue mentions .header
  let userAgent ← textValue mentions .userAgent
  let requestHeaders ← (valuesIn mentions .requestHeaders).mapM textOf
  let timeout ← countValue mentions .timeout
  let config := {
    verbose := 0 < timesIn mentions (.switch .verbose)
    workers := workers.getD Config.standard.workers
    threads
    header
    hostsFile := (valuesIn mentions .hostsFile).head?.map FilePath.mk
    hosts := []
    userAgent
    requestHeaders
    timeout }
  return ⟨configFile, hosts, config⟩

/-- The invocation that arguments make. -/
def ofArguments (arguments : List (List UInt8)) : Except Refusal Invocation := do
  let mentions ← CommandLine.mentions arguments
  checkValues mentions
  Item.all.forM (checkItem mentions)
  ofSound mentions

end Invocation

end HeaderScan

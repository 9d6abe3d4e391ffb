import HeaderScan.CommandLine.Refusal

/-!
# What a command line mentions

An argument is a long name after two dashes, a row of letters after one dash, or
plain. A value stands in the argument of its parameter or in the next one; a
repeatable parameter takes all plain arguments that follow. Other plain arguments
are hosts, and so is everything after a bare pair of dashes.
-/

namespace HeaderScan.CommandLine

/-- One thing that a command line mentions. -/
inductive Mention where
  /-- A host. -/
  | host (bytes : List UInt8)
  /-- A switch. -/
  | switch (switch : Switch)
  /-- A parameter, whose value may follow. -/
  | parameter (parameter : Parameter)
  /-- A value of a parameter. -/
  | value (parameter : Parameter) (bytes : List UInt8)
deriving DecidableEq

namespace Mention

/-- The item that is mentioned. -/
def item? : Mention → Option Item
  | switch s => some (.switch s)
  | parameter p => some (.parameter p)
  | _ => none

end Mention

/-- The byte of a dash. -/
def dash : UInt8 := 0x2D

/-- The byte of an equals sign. -/
def equalsSign : UInt8 := 0x3D

/-- The kinds of arguments. -/
inductive Argument where
  /-- Two dashes alone. -/
  | divider
  /-- A long name and the value in the same argument. -/
  | long (name : List UInt8) (value : Option (List UInt8))
  /-- A row of letters, of which the last may be followed by a value. -/
  | letters (letters : List UInt8)
  /-- A value or a host. -/
  | plain (bytes : List UInt8)

namespace Argument

/-- A long name, up to the first equals sign, and the value after it. -/
def ofLong (bytes : List UInt8) : Argument :=
  let name := bytes.takeWhile (· != equalsSign)
  match bytes.dropWhile (· != equalsSign) with
  | [] => .long name none
  | _ :: value => .long name (some value)

/-- The kind of an argument. -/
def ofBytes (bytes : List UInt8) : Argument :=
  match bytes with
  | 0x2D :: 0x2D :: [] => .divider
  | 0x2D :: 0x2D :: rest => ofLong (rest.dropWhile (· == dash))
  | 0x2D :: b :: rest => .letters (b :: rest)
  | _ => .plain bytes

end Argument

/-- What has been read of a command line. -/
structure Reading where
  /-- What was mentioned, the first first. -/
  mentions : List Mention
  /-- The parameter whose value a plain argument would be. -/
  awaiting : Option Parameter

namespace Reading

/-- Nothing has been read. -/
def start : Reading := ⟨[], none⟩

/-- The items that were mentioned. -/
def items (reading : Reading) : List Item := reading.mentions.filterMap Mention.item?

/-- Meet a switch; some are answered at once. -/
def meetSwitch (reading : Reading) : Switch → Except Refusal Reading
  | .help => .error .help
  | .version => .error .version
  | .verbose => .ok ⟨reading.mentions ++ [.switch .verbose], none⟩

/-- Meet a parameter and the value in the same argument, without equals signs before it. -/
def meetParameter (reading : Reading) (p : Parameter) : Option (List UInt8) → Reading
  | none => ⟨reading.mentions ++ [.parameter p], some p⟩
  | some value =>
    ⟨reading.mentions ++ [.parameter p, .value p (value.dropWhile (· == equalsSign))], none⟩

/-- Meet a plain argument. -/
def meetPlain (reading : Reading) (bytes : List UInt8) : Reading :=
  match reading.awaiting with
  | some p => ⟨reading.mentions ++ [.value p bytes], if p.isRepeatable then some p else none⟩
  | none => ⟨reading.mentions ++ [.host bytes], none⟩

/-- Meet a row of letters. -/
def meetLetters (reading : Reading) : List UInt8 → Except Refusal Reading
  | [] => .ok reading
  | letter :: rest =>
    match Item.ofLetter? letter with
    | some (.switch s) => do (← reading.meetSwitch s).meetLetters rest
    | some (.parameter p) => .ok (reading.meetParameter p (if rest = [] then none else some rest))
    | none =>
      let shown := (Text.decodeUtf8Lossy (letter :: rest)).toList.take 1
      .error (.unknown ("-" ++ String.ofList shown) none reading.items)

/-- The refusal of a long name that is none; all that follows has to be text. -/
def unknownLong (reading : Reading) (name : List UInt8) (rest : List (List UInt8)) : Refusal :=
  match Text.decodeUtf8 name, rest.mapM Text.decodeUtf8 with
  | .ok text, .ok _ => .unknown ("--" ++ text) (Refusal.alike? text) reading.items
  | _, _ => .notText

/-- Read the arguments that are left. -/
def readAll (reading : Reading) : List (List UInt8) → Except Refusal Reading
  | [] => .ok reading
  | argument :: rest =>
    match Argument.ofBytes argument with
    | .divider => .ok { reading with mentions := reading.mentions ++ rest.map .host }
    | .plain bytes => (reading.meetPlain bytes).readAll rest
    | .letters letters => do (← reading.meetLetters letters).readAll rest
    | .long name value =>
      match Item.ofLong? name with
      | some (.switch s) => do (← reading.meetSwitch s).readAll rest
      | some (.parameter p) => (reading.meetParameter p value).readAll rest
      | none => .error (reading.unknownLong name rest)

end Reading

/-- What a command line mentions. -/
def mentions (arguments : List (List UInt8)) : Except Refusal (List Mention) :=
  (Reading.start.readAll arguments).map Reading.mentions

end HeaderScan.CommandLine

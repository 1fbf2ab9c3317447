import CollectionArchive.Command.Report

/-!
# Command lines

* `Request`, `Command`: what is asked for.
* `Request.parse`: reads the words of a command line.
* `UsageFault`: why a command line asks for nothing.
-/

namespace CollectionArchive

/-- What is to be done. -/
inductive Command where
  /-- Check schemata and the links between them. -/
  | check (schemata : List String)
  /-- Build an archive from a manifest, at the manifest's path or at another. -/
  | build (manifest : String) (output : Option String)
  /-- Tell what is in an archive. -/
  | inspect (archive : String)
deriving DecidableEq

/-- What is asked for. -/
structure Request where
  format : ReportFormat
  command : Command
deriving DecidableEq

/-- Why a command line asks for nothing. -/
inductive UsageFault where
  | helpWanted
  | versionWanted
  /-- There is nothing at all on the command line. -/
  | nothingGiven
  | missingCommand
  | unknownCommand
  | unknownArgument
  | missingArgument
  | invalidValue
  /-- An option is given twice. -/
  | repeatedOption
  /-- An option without a value is given one. -/
  | unwantedValue
deriving DecidableEq

namespace CommandLine

/-- The options. -/
inductive Switch where
  | verbose
  | format
  | output
  | help
  | version
deriving DecidableEq

/-- A part of the command line: before the name of a command, or after it. -/
inductive Part where
  | general
  | check
  | build
  | inspect
deriving DecidableEq

namespace Part

/-- The part after the name of a command. -/
def ofName? : String → Option Part
  | "check" => some check
  | "build" => some build
  | "inspect" => some inspect
  | _ => none

/-- The options of a part, with a letter and a word for each. -/
def switches : Part → List (Switch × Option Char × String)
  | p =>
    [(.verbose, some 'v', "verbose"), (.format, none, "format"), (.help, some 'h', "help")] ++
      (if p == general then [(.version, some 'V', "version")] else []) ++
      (if p == build then [(.output, some 'o', "output")] else [])

/-- The option of a word. -/
def ofWord? (p : Part) (word : String) : Option Switch :=
  (p.switches.find? fun s => s.2.2 == word).map Prod.fst

/-- The option of a letter. -/
def ofLetter? (p : Part) (c : Char) : Option Switch :=
  (p.switches.find? fun s => s.2.1 == some c).map Prod.fst

/-- Whether so many operands are enough for there to be no more. -/
def isFull (p : Part) (count : Nat) : Bool :=
  match p with
  | general => true
  | check => false
  | build | inspect => 1 ≤ count

end Part

/-- What has been read of a part. -/
structure Reading where
  verbose : Bool := false
  format : Option ReportFormat := none
  output : Option String := none
  operands : List String := []
  /-- Operands that are still to be looked at. -/
  waiting : List String := []
  /-- An option whose value is still to be looked at, if it has been given. -/
  open? : Option (Switch × Option String) := none
  /-- Whether everything that follows is an operand. -/
  operandsOnly : Bool := false

/-- Whether the next word is the value of an option. -/
def Reading.wantsValue (r : Reading) : Bool :=
  r.open?.any fun o => o.2.isNone

/-- Takes a value of an option, which may be given once. -/
def takeValue (r : Reading) (s : Switch) (value : String) : Except UsageFault Reading :=
  match s with
  | .format =>
    if r.format.isSome then .error .repeatedOption
    else (ReportFormat.ofName? value).elim (.error .invalidValue) fun f =>
      .ok { r with format := some f }
  | _ =>
    if r.output.isSome then .error .repeatedOption
    else if value.isEmpty then .error .invalidValue
    else .ok { r with output := some value }

/-- Looks at what is still to be looked at. -/
def settle (r : Reading) : Except UsageFault Reading :=
  match r.open? with
  | some (_, none) => .error .invalidValue
  | some (s, some value) => takeValue { r with open? := none } s value
  | none =>
    if r.waiting.any String.isEmpty then .error .invalidValue
    else .ok { r with operands := r.operands ++ r.waiting, waiting := [] }

/-- Takes an option that has no value. -/
def takeFlag (r : Reading) (s : Switch) : Except UsageFault Reading := do
  let r ← settle r
  match s with
  | .help => .error .helpWanted
  | .version => .error .versionWanted
  | _ => if r.verbose then .error .repeatedOption else return { r with verbose := true }

/-- Takes an option and a value that is attached to it; without one it is yet to come. -/
def takeOption (r : Reading) (s : Switch) (attached : Option String) :
    Except UsageFault Reading := do
  let r ← settle r
  match attached with
  | some value => takeValue r s value
  | none => return { r with open? := some (s, none) }

/-- Whether an option has a value. -/
def Switch.hasValue : Switch → Bool
  | .format | .output => true
  | _ => false

/-- Takes a word after two dashes. -/
def takeLong (p : Part) (r : Reading) (cs : List Char) : Except UsageFault Reading :=
  let word := String.ofList (cs.takeWhile (· != '='))
  let attached := match cs.dropWhile (· != '=') with
    | [] => none
    | _ :: value => some (String.ofList value)
  match p.ofWord? word with
  | none => .error .unknownArgument
  | some s =>
    if s.hasValue then takeOption r s attached
    else if attached.isSome then .error .unwantedValue
    else takeFlag r s

/-- Takes letters after a dash. What follows an option with a value is its value. -/
def takeShort (p : Part) (r : Reading) : List Char → Except UsageFault Reading
  | [] => .ok r
  | c :: cs =>
    match p.ofLetter? c with
    | none => .error .unknownArgument
    | some s =>
      if s.hasValue then
        takeOption r s <|
          match cs with
          | [] => none
          | '=' :: value => some (String.ofList value)
          | value => some (String.ofList value)
      else do takeShort p (← takeFlag r s) cs

/-- Takes an operand. -/
def takeOperand (p : Part) (commands : List String) (r : Reading) (word : String) :
    Except UsageFault Reading :=
  if p.isFull (r.operands.length + r.waiting.length) then
    .error <| if p == .general && !(r.operandsOnly && commands.contains word) then .unknownCommand
      else .unknownArgument
  else do
    let r ← if r.open?.isSome then settle r else pure r
    return { r with waiting := r.waiting ++ [word] }

/-- The names that may stand for a command. -/
def commandNames : List String :=
  ["check", "build", "inspect", "help"]

/-- Takes a word that is no command. -/
def takeWord (p : Part) (r : Reading) (word : String) : Except UsageFault Reading :=
  if r.operandsOnly then takeOperand p commandNames r word
  else
    match word.toList with
    | ['-', '-'] => .ok { r with operandsOnly := true }
    | '-' :: '-' :: cs => takeLong p r cs
    | '-' :: c :: cs => takeShort p r (c :: cs)
    | _ =>
      match r.open? with
      | some (s, none) => .ok { r with open? := some (s, some word) }
      | _ => takeOperand p commandNames r word

/-- The words after the name of a command. -/
def readPart (p : Part) : Reading → List String → Except UsageFault Reading
  | r, [] => settle r
  | r, word :: words => do readPart p (← takeWord p r word) words

/-- The command that a part describes. -/
def commandOf (p : Part) (r : Reading) : Except UsageFault Command :=
  match p, r.operands with
  | .check, schema :: schemata => .ok (.check (schema :: schemata))
  | .build, manifest :: _ => .ok (.build manifest r.output)
  | .inspect, archive :: _ => .ok (.inspect archive)
  | _, _ => .error .missingArgument

/-- What help is asked for: at most one command may be named. -/
def helpFor : List String → UsageFault
  | [] => .helpWanted
  | [word] => if commandNames.contains word then .helpWanted else .unknownCommand
  | _ => .unknownCommand

/-- The words from the first one on. Options may stand before the name of the command and after it;
after it they count for more. -/
def read : Reading → List String → Except UsageFault Request
  | r, [] => do
    let r ← settle r
    .error <| if r.verbose || r.format.isSome then .missingCommand else .nothingGiven
  | r, word :: words =>
    if !r.operandsOnly && !r.wantsValue && word == "help" then .error (helpFor words)
    else
      match if r.operandsOnly || r.wantsValue then none else Part.ofName? word with
      | none => do read (← takeWord .general r word) words
      | some p => do
        let inner ← readPart p {} words
        let command ← commandOf p inner
        let outer ← settle r
        return ⟨(inner.format.or outer.format).getD .text, command⟩

end CommandLine

/-- Reads the words of a command line. -/
def Request.parse (words : List String) : Except UsageFault Request :=
  CommandLine.read {} words

end CollectionArchive

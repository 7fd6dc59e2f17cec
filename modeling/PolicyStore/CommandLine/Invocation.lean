import PolicyStore.CommandLine.Help

/-!
# From arguments to a command

Arguments are taken one at a time, at a level of the command line. What a parameter is given waits
until it is known to be complete and is read then: at the next option or place, or at the end of its
level. The name of a level is recognized where no option waits for its value. A level ends after the
levels below it; then the environment is looked at, and what is missing is told.
-/

namespace PolicyStore

inductive Word
  /-- Two dashes alone: everything that follows stands for itself. -/
  | divider
  | long (name : String) (value : Option String)
  | short (letter : Char) (rest : List Char)
  | plain
  deriving DecidableEq, Repr

namespace Word

/-- A long option with what follows the first `=`. -/
def ofLong (text : List Char) : Word :=
  match text.dropWhile (· != '=') with
  | [] => .long (String.ofList text) none
  | _ :: value => .long (String.ofList (text.takeWhile (· != '='))) (some (String.ofList value))

/-- How the characters of an argument read. A dash alone stands for itself. -/
def ofChars : List Char → Word
  | ['-', '-'] => .divider
  | '-' :: '-' :: text => ofLong text
  | '-' :: letter :: rest => .short letter rest
  | _ => .plain

/-- The value that follows the letter of an option in one argument. -/
def attached? : List Char → Option String
  | [] => none
  | '=' :: value => some (String.ofList value)
  | value => some (String.ofList value)

end Word

/-- What is known while the arguments of a level are taken. -/
structure Intake where
  given : Given
  /-- A parameter with what it has been given so far. -/
  pending : Option (Parameter × List String)
  /-- The parameters that are still to come by their places. -/
  places : List Parameter
  /-- Whether everything that follows stands for itself. -/
  literal : Bool

namespace Intake

def start (level : Level) : Intake := ⟨.nothing, none, level.places, false⟩

def waiting? (intake : Intake) : Option Parameter :=
  match intake.pending with
  | some (parameter, []) => some parameter
  | _ => none

/-- Reads what a parameter is given. One that takes a single value is given it once. -/
def accept (given : Given) : (parameter : Parameter) → List String → Except UsageFault Given
  | .names, texts => .ok (given.put .names ((given .names).getD [] ++ texts))
  | .nodes, texts => .ok (given.put .nodes ((given .nodes).getD [] ++ texts))
  | parameter, [] => .error (.missingValue parameter)
  | parameter, text :: _ =>
    if (given parameter).isSome then .error (.repeatedArgument parameter)
    else (parameter.read text).map (given.put parameter)

def settle (intake : Intake) : Except UsageFault Intake :=
  match intake.pending with
  | none => .ok intake
  | some (parameter, texts) =>
    (accept intake.given parameter texts).map fun given => { intake with given, pending := none }

def takeOption (intake : Intake) (parameter : Parameter) (value : Option String) :
    Except UsageFault Intake := do
  let intake ← intake.settle
  match value with
  | some text => return { intake with given := ← accept intake.given parameter [text] }
  | none => return { intake with pending := some (parameter, []) }

def takeValue (intake : Intake) (parameter : Parameter) (value : String) : Intake :=
  { intake with pending := some (parameter, [value]) }

/-- What is wrong with an argument that has no place at a level. -/
def misplaced (level : Level) (intake : Intake) (argument : String) : UsageFault :=
  if level.isGroup && !(intake.literal && (level.turn? argument).isSome) then
    .unknownCommand argument
  else .unknownArgument argument

def takePlaced (level : Level) (intake : Intake) (argument : String) : Except UsageFault Intake :=
  match intake.places with
  | [] => .error (misplaced level intake argument)
  | parameter :: later =>
    match parameter.isRepeatable, intake.pending with
    | true, some (before, texts) =>
      if before = parameter then
        .ok { intake with pending := some (parameter, texts ++ [argument]) }
      else intake.settle.map fun intake => { intake with pending := some (parameter, [argument]) }
    | true, none => .ok { intake with pending := some (parameter, [argument]) }
    | false, _ =>
      intake.settle.map fun intake =>
        { intake with pending := some (parameter, [argument]), places := later }

/-- Gives up to show a page of help, unless what is pending is at fault. -/
def showHelp (page : String) (intake : Intake) : Except UsageFault Intake :=
  intake.settle.bind fun _ => .error (.helpAsked page)

/-- Takes an argument that does not lead away from the level that the words of `path` lead to. -/
def take (environment : Environment) (path : List String) (level : Level) (intake : Intake)
    (argument : String) : Except UsageFault Intake :=
  if intake.literal then takePlaced level intake argument
  else
    match Word.ofChars argument.toList with
    | .divider => .ok { intake with literal := true }
    | .long name value =>
      match level.named? name with
      | some parameter => intake.takeOption parameter value
      | none =>
        if name = "help" then
          match value with
          | none => intake.showHelp (level.page environment path)
          | some text => .error (.unneededValue text)
        else .error (.unknownArgument ("--" ++ name))
    | .short letter rest =>
      match level.lettered? letter with
      | some parameter => intake.takeOption parameter (Word.attached? rest)
      | none =>
        if letter = 'h' then intake.showHelp (level.page environment path)
        else .error (.unknownArgument (String.ofList ['-', letter]))
    | .plain =>
      match intake.waiting? with
      | some parameter => .ok (intake.takeValue parameter argument)
      | none => takePlaced level intake argument

/-- What the environment gives to parameters that are not given otherwise. -/
def fromEnvironment (environment : Environment) (given : Given) : Except UsageFault Given :=
  Parameter.environmental.foldlM (fun found parameter =>
    match given parameter, parameter.source?.bind environment with
    | none, some value => (parameter.read value).map (found.put parameter)
    | _, _ => .ok found) .nothing

/-- Whether a level has been given any of the options that all levels take. -/
def isAnyGiven (given : Given) : Bool :=
  Parameter.globals.any fun (_, parameter) => (given parameter).isSome

end Intake

structure Invocation where
  command : Command
  options : Given

namespace Invocation

/-- Ends a level below which there is an invocation. The options of the lowest level count. -/
def above (environment : Environment) (intake : Intake) (inner : Invocation) :
    Except UsageFault Invocation := do
  let intake ← intake.settle
  let _ ← Intake.fromEnvironment environment intake.given
  return { inner with options := inner.options.orElse intake.given }

def lowest (environment : Environment) (level : Level) (intake : Intake) :
    Except UsageFault Invocation := do
  let intake ← intake.settle
  let found ← Intake.fromEnvironment environment intake.given
  match level with
  | .command _ _ _ build => return ⟨← build intake.given, intake.given⟩
  | .group _ _ =>
    if Intake.isAnyGiven (intake.given.orElse found) then throw .missingCommand
    else throw .nothingGiven

/-- Takes the arguments of the level that the words of `path` lead to, and of those below it. -/
def take (environment : Environment) (path : List String) (level : Level) (intake : Intake) :
    List String → Except UsageFault Invocation
  | [] => lowest environment level intake
  | argument :: later =>
    match if intake.literal || intake.waiting?.isSome then none else level.turn? argument with
    | some .help => .error (level.helpOn environment path later)
    | some (.level next) =>
      (take environment (path ++ [argument]) next (.start next) later).bind
        (above environment intake)
    | none =>
      match intake.take environment path level argument with
      | .error fault => .error fault
      | .ok intake => take environment path level intake later

/-- The invocation that arguments stand for, with options from the environment where the arguments
give none. -/
def parse (environment : Environment) (arguments : List String) :
    Except UsageFault Invocation := do
  let invocation ← take environment [] .root (.start .root) arguments
  let found ← Intake.fromEnvironment environment invocation.options
  return { invocation with options := invocation.options.orElse found }

def format (invocation : Invocation) : OutputFormat := (invocation.options .output).getD .table

def settings (invocation : Invocation) : Except StoreError Settings :=
  Settings.ofLookup fun source => invocation.options (.setting source)

end Invocation

end PolicyStore

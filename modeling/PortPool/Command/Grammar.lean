/-
# PortPool.Command.Grammar -- reading a command line

A command line is read against a grammar: at each level there are options, which
take a value or are switches, arguments without a name, and commands that lead to
a further level.

The words are read once, from left to right.  A word that the level does not know
is refused at once; the value of an option is only looked at when the next known
word, or the end, shows that it is complete.  At the end of a level the options
that were not given take their values from the environment; then it is checked
that a command was given where one is needed, that no two given options exclude
each other, and that what must be given is.  The innermost level is finished
first.
-/
namespace PortPool.Command

set_option autoImplicit false

/-- Why a command line is not carried out. -/
inductive Stop where
  | unknownArgument
  | invalidValue
  | valueValidation
  | tooManyValues
  | argumentConflict
  | missingRequiredArgument
  | invalidSubcommand
  | missingSubcommand
  | displayHelp
  | displayVersion
  | displayHelpOnMissing
deriving DecidableEq, Repr

namespace Stop

/-- What was asked for is information, so nothing is wrong. -/
def isRequest : Stop → Bool
  | .displayHelp | .displayVersion => true
  | _ => false

def message : Stop → String
  | .unknownArgument => "unknown argument"
  | .invalidValue => "invalid value"
  | .valueValidation => "a value is not of its kind"
  | .tooManyValues => "a switch takes no value"
  | .argumentConflict => "arguments exclude each other"
  | .missingRequiredArgument => "a required argument is missing"
  | .invalidSubcommand => "unknown command"
  | .missingSubcommand | .displayHelpOnMissing => "a command is missing"
  | .displayHelp => "help"
  | .displayVersion => "version"

end Stop

/-- The check of a value: how it is refused, if it is. -/
abbrev Check := String → Option Stop

/-- Any value will do. -/
def anyText : Check := fun _ => none

/-- An option: its name, the variable of the environment that may stand for it,
and the check of its value.  A switch takes no value on the command line, and
`true` or `false` from the environment. -/
structure Opt where
  name : String
  envName : Option String := none
  switch : Bool := false
  check : Check := anyText

/-- The arguments without a name that a level takes. -/
inductive Arguments where
  | none
  | one (required : Bool) (check : Check)
  | many (check : Check)

/-- A level of a grammar: its options, its arguments, pairs of options that
exclude each other, whether it can tell its version, and its commands. -/
inductive Level where
  | mk (options : List Opt) (arguments : Arguments) (exclusive : List (String × String))
      (version : Bool) (commands : List (String × Level))

namespace Level

def options : Level → List Opt
  | .mk os _ _ _ _ => os

def arguments : Level → Arguments
  | .mk _ as _ _ _ => as

def exclusive : Level → List (String × String)
  | .mk _ _ es _ _ => es

def version : Level → Bool
  | .mk _ _ _ v _ => v

def commands : Level → List (String × Level)
  | .mk _ _ _ _ cs => cs

/-- The level that a command leads to. -/
def command? (l : Level) (name : String) : Option Level :=
  (l.commands.find? fun c => c.1 == name).map (·.2)

/-- The variables of the environment that may stand for options. -/
def envNames (l : Level) : List String := l.options.filterMap (·.envName)

/-- The option of a name. -/
def option? (l : Level) (name : String) : Option Opt := l.options.find? fun o => o.name == name

end Level

/-- The variables that are set, and the home directory of the account. -/
structure Environment where
  lookup : String → Option String
  accountHome : Option String := none

/-- What a command line says: the commands, the options that it gives, those of
the innermost level first, the options that the environment gives, and the
arguments of the innermost level. -/
structure Parsed where
  commands : List String := []
  given : List (String × String) := []
  inherited : List (String × String) := []
  arguments : List String := []
deriving DecidableEq, Repr

namespace Parsed

/-- The value of an option: from the command line before the environment. -/
def value? (p : Parsed) (name : String) : Option String :=
  ((p.given ++ p.inherited).find? fun v => v.1 == name).map (·.2)

/-- The switch is on. -/
def isOn (p : Parsed) (name : String) : Bool := p.value? name == some "true"

end Parsed

/-! ## One level -/

/-- What is not complete yet: an option with or without its value, or arguments. -/
inductive Pending where
  | none
  | option (o : Opt) (value : Option String)
  | arguments (words : List String)

/-- What may come next: anything, the value of the last option, or one more of
many arguments. -/
inductive Next where
  | anything
  | value
  | moreArguments
deriving DecidableEq

/-- A level that is being read. -/
structure Progress where
  given : List (String × String) := []
  arguments : List String := []
  pending : Pending := .none
  next : Next := .anything
  onlyArguments : Bool := false

namespace Progress

/-- Take an option with its value. -/
def take (p : Progress) (name value : String) (check : Check) : Except Stop Progress :=
  if p.given.any fun g => g.1 == name then .error .argumentConflict
  else
    match check value with
    | some stop => .error stop
    | none => .ok { p with given := p.given ++ [(name, value)] }

/-- Take what is pending. -/
def settle (l : Level) (p : Progress) : Except Stop Progress :=
  match p.pending with
  | .none => .ok p
  | .option _ none => .error .invalidValue
  | .option o (some value) => { p with pending := .none }.take o.name value o.check
  | .arguments words =>
    let check : Check :=
      match l.arguments with
      | .none => anyText
      | .one _ check | .many check => check
    match words.findSome? check with
    | some stop => .error stop
    | none => .ok { p with pending := .none, arguments := p.arguments ++ words }

/-- A request for help, or for the version. -/
def tell (l : Level) (p : Progress) (stop : Stop) : Except Stop Progress := do
  let _ ← p.settle l
  .error stop

/-- Cut the value off a long option. -/
def cutValue (word : List Char) : String × Option String :=
  let name := word.takeWhile (· ≠ '=')
  match word.drop name.length with
  | _ :: value => (String.ofList name, some (String.ofList value))
  | [] => (String.ofList name, none)

/-- A word that begins with two hyphens. -/
def long (l : Level) (p : Progress) (word : List Char) : Except Stop Progress :=
  let (name, attached) := cutValue word
  let plain (stop : Stop) : Except Stop Progress :=
    if attached.isSome then .error .tooManyValues else p.tell l stop
  match l.option? name with
  | some o =>
    if o.switch then
      match attached with
      | some _ => .error .tooManyValues
      | none => do
        let p ← p.settle l
        let p ← p.take o.name "true" anyText
        pure { p with next := .anything }
    else
      match attached with
      | some value => do
        let p ← p.settle l
        let p ← p.take o.name value o.check
        pure { p with next := .anything }
      | none => do
        let p ← p.settle l
        pure { p with pending := .option o none, next := .value }
  | none =>
    if name = "help" then plain .displayHelp
    else if name = "version" && l.version then plain .displayVersion
    else .error .unknownArgument

/-- A word that begins with one hyphen. -/
def short (l : Level) (p : Progress) (word : List Char) : Except Stop Progress :=
  match word with
  | 'h' :: _ => p.tell l .displayHelp
  | 'V' :: _ => if l.version then p.tell l .displayVersion else .error .unknownArgument
  | _ => .error .unknownArgument

/-- A word that the level has no place for. -/
def refuse (l : Level) (p : Progress) (word : String) : Stop :=
  if l.commands.isEmpty then .unknownArgument
  else if p.onlyArguments && ((l.command? word).isSome || word == "help") then .unknownArgument
  else .invalidSubcommand

/-- A word without a name. -/
def argument (l : Level) (p : Progress) (word : String) : Except Stop Progress :=
  match l.arguments with
  | .none => .error (p.refuse l word)
  | .one _ _ =>
    let full :=
      match p.pending with
      | .arguments _ => true
      | _ => !p.arguments.isEmpty
    if full then .error (p.refuse l word)
    else do
      let p ← p.settle l
      pure { p with pending := .arguments [word], next := .anything }
  | .many _ =>
    match p.pending with
    | .arguments words =>
      .ok { p with pending := .arguments (words ++ [word]), next := .moreArguments }
    | _ => do
      let p ← p.settle l
      pure { p with pending := .arguments [word], next := .moreArguments }

/-- Read a word that is no command. -/
def read (l : Level) (p : Progress) (word : String) : Except Stop Progress :=
  if p.onlyArguments then p.argument l word
  else
    match word.toList with
    | ['-', '-'] => .ok { p with onlyArguments := true }
    | '-' :: '-' :: rest => p.long l rest
    | '-' :: c :: rest => p.short l (c :: rest)
    | _ =>
      match p.next, p.pending with
      | .value, .option o none =>
        .ok { p with pending := .option o (some word), next := .anything }
      | _, _ => p.argument l word

/-- The command that a word is, where one may stand. -/
def command? (l : Level) (p : Progress) (word : String) : Option Level :=
  if p.onlyArguments || p.next ≠ .anything then none else l.command? word

/-- The word asks for the help of a command. -/
def asksHelp (l : Level) (p : Progress) (word : String) : Bool :=
  !p.onlyArguments && p.next == .anything && !l.commands.isEmpty && word == "help"

end Progress

/-- The options that the environment gives, of those not on the command line. -/
def inherit (env : Environment) (given : List (String × String)) :
    List Opt → Except Stop (List (String × String))
  | [] => .ok []
  | o :: os =>
    match (if given.any fun g => g.1 == o.name then none else o.envName.bind env.lookup) with
    | none => inherit env given os
    | some value =>
      let refused :=
        if o.switch then if value = "true" || value = "false" then none else some .invalidValue
        else o.check value
      match refused with
      | some stop => .error stop
      | none => do
        let rest ← inherit env given os
        pure ((o.name, value) :: rest)

/-- A given option excludes another given one. -/
def excluded (l : Level) (p : Progress) : Bool :=
  let has (name : String) : Bool := p.given.any fun g => g.1 == name
  l.exclusive.any fun (a, b) => has a && has b

/-- An argument that is required is missing. -/
def lacksArgument (l : Level) (p : Progress) : Bool :=
  match l.arguments with
  | .none => false
  | .one required _ => required && p.arguments.isEmpty
  | .many _ => p.arguments.isEmpty

/-- The end of a level. -/
def finish (env : Environment) (l : Level) (p : Progress) (hasCommand : Bool) :
    Except Stop Parsed := do
  let p ← p.settle l
  let inherited ← inherit env p.given l.options
  if !hasCommand && !l.commands.isEmpty then
    if p.given.isEmpty && inherited.isEmpty then .error .displayHelpOnMissing
    else .error .missingSubcommand
  else if excluded l p then .error .argumentConflict
  else if lacksArgument l p then .error .missingRequiredArgument
  else pure ⟨[], p.given, inherited, p.arguments⟩

/-- The answer to `help` and the commands behind it. -/
def help : Level → List String → Stop
  | _, [] => .displayHelp
  | l, word :: words =>
    match l.command? word with
    | some next => help next words
    | none => if !l.commands.isEmpty && word == "help" && words.isEmpty then .displayHelp
              else .invalidSubcommand

/-- Read the words of a level and of those it leads to. -/
def parseLevel (env : Environment) : Level → Progress → List String → Except Stop Parsed
  | l, p, [] => finish env l p false
  | l, p, word :: words =>
    match p.command? l word with
    | some next => do
      let inner ← parseLevel env next {} words
      let outer ← finish env l p true
      pure ⟨word :: inner.commands, inner.given ++ outer.given,
        inner.inherited ++ outer.inherited, inner.arguments⟩
    | none =>
      if p.asksHelp l word then .error (help l words)
      else do
        let p ← p.read l word
        parseLevel env l p words

/-- Read a command line. -/
def parse (l : Level) (env : Environment) (words : List String) : Except Stop Parsed :=
  parseLevel env l {} words

end PortPool.Command

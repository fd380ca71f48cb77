import ContainerEntry.StopSignal
import ContainerEntry.Text.Utf8

/-!
# Grammars of command lines

A program takes options and, at most, one subcommand with options and positional arguments of its
own.  Words are read from the left.  An option's value may be attached to it or be the next word; it
is checked late, when the next option, positional argument or the end comes, and so an unknown word
behind it is reported first.

`--` makes every word behind it positional.  A positional argument may be reserved for the words
behind `--`, or may itself make everything behind its first word positional, options of unknown name
included.
-/

namespace ContainerEntry.CommandLine

open Bytes Text

/-- Why a command line is refused, or answered without a command. -/
inductive Refusal where
  /-- A word is no option or argument here. -/
  | unknownArgument
  /-- A word is no subcommand. -/
  | invalidSubcommand
  /-- An option is given twice. -/
  | argumentConflict
  /-- A value is missing, empty or none of the choices. -/
  | invalidValue
  /-- A value is out of range. -/
  | valueValidation
  /-- A value is no text. -/
  | invalidUtf8
  /-- A flag is given a value. -/
  | tooManyValues
  /-- An argument that has to be given is not. -/
  | missingRequiredArgument
  /-- There is no subcommand. -/
  | missingSubcommand
  /-- There is nothing at all. -/
  | nothingGiven
  /-- Help was asked for. -/
  | help
  /-- The version was asked for. -/
  | version
  deriving DecidableEq, Repr

namespace Refusal

/-- The name of a refusal. -/
def name : Refusal → String
  | .unknownArgument => "UnknownArgument"
  | .invalidSubcommand => "InvalidSubcommand"
  | .argumentConflict => "ArgumentConflict"
  | .invalidValue => "InvalidValue"
  | .valueValidation => "ValueValidation"
  | .invalidUtf8 => "InvalidUtf8"
  | .tooManyValues => "TooManyValues"
  | .missingRequiredArgument => "MissingRequiredArgument"
  | .missingSubcommand => "MissingSubcommand"
  | .nothingGiven => "DisplayHelpOnMissingArgumentOrSubcommand"
  | .help => "DisplayHelp"
  | .version => "DisplayVersion"

/-- Whether the refusal is an answer that was asked for. -/
def isAnswer : Refusal → Bool
  | .help | .version => true
  | _ => false

/-- The exit code of a program that refuses its command line. -/
def exitCode (r : Refusal) : Nat := if r.isAnswer then 0 else 2

end Refusal

/-- What a value has to be. -/
inductive Kind where
  /-- A path, which is not empty. -/
  | path
  /-- A text. -/
  | text
  /-- A user id. -/
  | uid
  /-- One of some words. -/
  | choice (words : List Bytes)
  deriving DecidableEq, Repr

/-- A user id as an option's value.  It is read as an integer, whose sign is its own matter. -/
def readUid? (value : Bytes) : Option UInt32 :=
  (readInt? value).bind fun n =>
    if 0 ≤ n && n < UInt32.size then some (UInt32.ofNat n.toNat) else none

/-- What is wrong with a value. -/
def Kind.refusal? : Kind → Bytes → Option Refusal
  | .path, value => if value.isEmpty then some .invalidValue else none
  | .text, value => if isUtf8 value then none else some .invalidUtf8
  | .uid, value =>
    if !isUtf8 value then some .invalidUtf8
    else if (readUid? value).isSome then none else some .valueValidation
  | .choice words, value => if words.contains value then none else some .invalidValue

/-- What an option does. -/
inductive Effect where
  /-- It is noted. -/
  | flag
  /-- It takes a value. -/
  | value (kind : Kind)
  /-- It asks for help. -/
  | help
  /-- It asks for the version. -/
  | version
  deriving DecidableEq, Repr

/-- An option. -/
structure Switch where
  /-- The long name, without hyphens. -/
  long : Bytes
  /-- The short name. -/
  short : Option UInt8
  /-- What it does. -/
  effect : Effect
  /-- Whether it has to be given. -/
  isRequired : Bool
  deriving DecidableEq, Repr

/-- How a positional argument takes words. -/
inductive Reach where
  /-- One word. -/
  | one
  /-- Any number of words. -/
  | many
  /-- Any number of words behind `--`. -/
  | afterDashes
  /-- Every word from its first on. -/
  | everything
  deriving DecidableEq, Repr

/-- A positional argument. -/
structure Positional where
  /-- The argument's name. -/
  name : Bytes
  /-- What its values have to be. -/
  kind : Kind
  /-- How it takes words. -/
  reach : Reach
  /-- Whether it has to be given. -/
  isRequired : Bool
  deriving DecidableEq, Repr

/-- What one level of a command line may hold. -/
structure Level where
  /-- The options. -/
  options : List Switch
  /-- The positional arguments, in order. -/
  positionals : List Positional
  /-- The names that lead to another level. -/
  subcommands : List Bytes
  deriving DecidableEq, Repr

/-- The values that were given, by the name of the option or argument. -/
abbrev Given := List (Bytes × List Bytes)

/-- Values that wait to be checked. -/
structure Pending where
  /-- The option or argument. -/
  name : Bytes
  /-- What the values have to be. -/
  kind : Kind
  /-- Whether the argument takes several words. -/
  isMany : Bool
  /-- The values so far. -/
  values : List Bytes
  deriving DecidableEq, Repr

/-- How far a level has been read. -/
structure Progress where
  /-- What was given and checked. -/
  given : Given
  /-- What waits to be checked. -/
  pending : Option Pending
  /-- Whether an option waits for the next word. -/
  awaitsValue : Bool
  /-- Whether the last word was an argument of many. -/
  inMany : Bool
  /-- Whether every word is positional from here on. -/
  isTrailing : Bool
  /-- The position of the next positional argument. -/
  position : Nat
  deriving DecidableEq, Repr

namespace Progress

/-- Nothing has been read. -/
def start : Progress := ⟨[], none, false, false, false, 0⟩

/-- Notes checked values; an option that was given before conflicts. -/
def record (p : Progress) (name : Bytes) (kind : Kind) (isMany : Bool) (values : List Bytes) :
    Except Refusal Progress :=
  if values.isEmpty then .error .invalidValue
  else if !isMany && (p.given.lookup name).isSome then .error .argumentConflict
  else match values.findSome? kind.refusal? with
    | some refusal => .error refusal
    | none => .ok { p with given := p.given ++ [(name, values)] }

/-- Checks what is pending. -/
def settle (p : Progress) : Except Refusal Progress :=
  match p.pending with
  | none => .ok p
  | some w => { p with pending := none }.record w.name w.kind w.isMany w.values

/-- Reads an option with the value attached to it. -/
def take (p : Progress) (o : Switch) (attached : Option Bytes) : Except Refusal Progress := do
  let settled := { ← p.settle with awaitsValue := false, inMany := false }
  match o.effect, attached with
  | .help, _ => .error .help
  | .version, _ => .error .version
  | .flag, _ =>
    if (settled.given.lookup o.long).isSome then .error .argumentConflict
    else .ok { settled with given := settled.given ++ [(o.long, [])] }
  | .value kind, some value => settled.record o.long kind false [value]
  | .value kind, none =>
    .ok { settled with pending := some ⟨o.long, kind, false, []⟩, awaitsValue := true }

/-- Takes a word as the value of the option that waits for it. -/
def feed (p : Progress) (word : Bytes) : Progress :=
  { p with
    awaitsValue := false
    pending := p.pending.map fun w => { w with values := w.values ++ [word] } }

end Progress

/-- A long option as it is written: its name and the value attached to it. -/
def splitLong (text : Bytes) : Bytes × Option Bytes :=
  match cut equals text with
  | some (name, value) => (name, some value)
  | none => (text, none)

/-- A value attached to a short option, without an equals sign before it. -/
def attachedShort : Bytes → Option Bytes
  | [] => none
  | equals :: value => some value
  | value => some value

namespace Level

/-- The option of a long name. -/
def long? (l : Level) (name : Bytes) : Option Switch := l.options.find? fun o => o.long == name

/-- The option of a short name. -/
def short? (l : Level) (name : UInt8) : Option Switch :=
  l.options.find? fun o => o.short == some name

/-- The positional argument whose turn it is. -/
def nextPositional? (l : Level) (p : Progress) : Option Positional :=
  let reserved := l.positionals.any fun a => a.reach == .afterDashes
  if p.isTrailing && reserved then l.positionals.getLast? else l.positionals[p.position]?

/-- Whether the positional argument whose turn it is takes words that look like options. -/
def takesHyphens (l : Level) (p : Progress) : Bool :=
  match l.positionals[p.position]? with
  | some a => a.reach = .everything
  | none => false

/-- What a word that starts with a hyphen came to. -/
inductive Reading where
  /-- It was read as options. -/
  | read (p : Progress)
  /-- It is no option but may be a value or an argument. -/
  | plain
  deriving DecidableEq, Repr

/-- Reads a word that starts with two hyphens. -/
def readLong (l : Level) (p : Progress) (text : Bytes) : Except Refusal Reading :=
  let (name, attached) := splitLong text
  match l.long? name with
  | none => if l.takesHyphens p then .ok .plain else .error .unknownArgument
  | some o =>
    match o.effect, attached with
    | .value _, _ | _, none => (p.take o attached).map .read
    | _, some _ => .error .tooManyValues

/-- Reads short options that share a word. -/
def readCluster (l : Level) : Progress → Bytes → Except Refusal Progress
  | p, [] => .ok p
  | p, name :: rest =>
    match l.short? name with
    | none => .error .unknownArgument
    | some o =>
      match o.effect with
      | .value _ => p.take o (attachedShort rest)
      | _ =>
        match p.take o none with
        | .error refusal => .error refusal
        | .ok p => readCluster l p rest

/-- Reads a word that starts with one hyphen. -/
def readShort (l : Level) (p : Progress) (text : Bytes) : Except Refusal Reading :=
  if text.isEmpty then .ok .plain
  else if l.takesHyphens p && text.any fun name => (l.short? name).isNone then .ok .plain
  else (l.readCluster p text).map .read

/-- Reads a word as options, if it looks like them. -/
def readOptions (l : Level) (p : Progress) : Bytes → Except Refusal Reading
  | hyphen :: hyphen :: text => l.readLong p text
  | hyphen :: text => l.readShort p text
  | _ => .ok .plain

/-- The refusal of a word that no positional argument takes. -/
def surplus (l : Level) (p : Progress) (word : Bytes) : Refusal :=
  if l.subcommands.isEmpty || (p.isTrailing && l.subcommands.contains word) then .unknownArgument
  else .invalidSubcommand

/-- Reads a word as a positional argument. -/
def readPositional (l : Level) (p : Progress) (word : Bytes) : Except Refusal Progress :=
  match l.nextPositional? p with
  | none => .error (l.surplus p word)
  | some a =>
    if a.reach = .afterDashes && !p.isTrailing then .error .unknownArgument
    else
      let isMany := a.reach != .one
      let joins := isMany && (p.pending.map (·.name)) == some a.name
      match if joins then .ok p else p.settle with
      | .error refusal => .error refusal
      | .ok p =>
        let earlier := if joins then (p.pending.map (·.values)).getD [] else []
        .ok { p with
          pending := some ⟨a.name, a.kind, isMany, earlier ++ [word]⟩
          inMany := isMany
          isTrailing := p.isTrailing || a.reach = .everything
          position := if isMany then p.position else p.position + 1 }

/-- How reading a level ended. -/
inductive Ending where
  /-- All words were read. -/
  | words (p : Progress)
  /-- A subcommand was met, and the words behind it are another level's. -/
  | subcommand (p : Progress) (name : Bytes) (rest : List Bytes)
  deriving DecidableEq, Repr

/-- Reads the words of a level. -/
def read (l : Level) : Progress → List Bytes → Except Refusal Ending
  | p, [] => .ok (.words p)
  | p, word :: rest =>
    if p.isTrailing then
      match l.readPositional p word with
      | .error refusal => .error refusal
      | .ok p => read l p rest
    else if !p.awaitsValue && !p.inMany && l.subcommands.contains word then
      .ok (.subcommand p word rest)
    else if word = [hyphen, hyphen] then read l { p with isTrailing := true } rest
    else match l.readOptions p word with
      | .error refusal => .error refusal
      | .ok (.read p) => read l p rest
      | .ok .plain =>
        if p.awaitsValue then read l (p.feed word) rest
        else match l.readPositional p word with
          | .error refusal => .error refusal
          | .ok p => read l p rest

/-- What a level was given, once everything that has to be given is. -/
def complete (l : Level) (p : Progress) : Except Refusal Given :=
  match p.settle with
  | .error refusal => .error refusal
  | .ok p =>
    let given (name : Bytes) : Bool := (p.given.lookup name).isSome
    if (l.options.all fun o => !o.isRequired || given o.long) &&
        (l.positionals.all fun a => !a.isRequired || given a.name) then .ok p.given
    else .error .missingRequiredArgument

end Level

/-- The values of an option or argument, in order. -/
def Given.values (g : Given) (name : Bytes) : List Bytes :=
  (g.filter fun e => e.1 == name).flatMap (·.2)

/-- The value of an option or argument. -/
def Given.value? (g : Given) (name : Bytes) : Option Bytes := (g.values name).head?

/-- Whether an option was given. -/
def Given.has (g : Given) (name : Bytes) : Bool := (g.lookup name).isSome

/-- The grammar of a program: its options, and a level for each subcommand. -/
structure Grammar where
  /-- The options in front of the subcommand. -/
  options : List Switch
  /-- The subcommands. -/
  subcommands : List (Bytes × Level)
  deriving Repr

namespace Grammar

/-- The subcommand that asks for help. -/
def helpName : Bytes := "help"

/-- The level in front of the subcommand. -/
def top (g : Grammar) : Level := ⟨g.options, [], helpName :: g.subcommands.map (·.1)⟩

/-- The answer to a request for help on a subcommand. -/
def helpOn (g : Grammar) : List Bytes → Refusal
  | [] => .help
  | name :: rest =>
    if g.top.subcommands.contains name then if rest.isEmpty then .help else .invalidSubcommand
    else .invalidSubcommand

/-- A command line that was read. -/
structure Reading where
  /-- What was given in front of the subcommand. -/
  outer : Given
  /-- The subcommand. -/
  name : Bytes
  /-- What was given behind it. -/
  inner : Given
  deriving DecidableEq, Repr

/-- Reads the words behind the program's name. -/
def parse (g : Grammar) (words : List Bytes) : Except Refusal Reading :=
  match g.top.read Progress.start words with
  | .error refusal => .error refusal
  | .ok (.subcommand p name rest) =>
    if name = helpName then .error (g.helpOn rest)
    else match g.subcommands.lookup name with
      | none => .error .invalidSubcommand
      | some level =>
        let inner : Except Refusal Given := match level.read Progress.start rest with
          | .error refusal => .error refusal
          | .ok (.subcommand _ _ _) => .error .invalidSubcommand
          | .ok (.words q) => level.complete q
        match inner, g.top.complete p with
        | .error refusal, _ | .ok _, .error refusal => .error refusal
        | .ok inner, .ok outer => .ok ⟨outer, name, inner⟩
  | .ok (.words p) =>
    match g.top.complete p with
    | .error refusal => .error refusal
    | .ok outer => .error (if outer.isEmpty then .nothingGiven else .missingSubcommand)

end Grammar

/-- A flag that is written with a long name and maybe a short one. -/
def flagOption (long : String) (short : Option UInt8) : Switch := ⟨long, short, .flag, false⟩

/-- An option with a value that may be left out. -/
def valueOption (long : String) (short : Option UInt8) (kind : Kind) : Switch :=
  ⟨long, short, .value kind, false⟩

/-- The option that asks for help. -/
def helpOption : Switch := ⟨"help", some 0x68, .help, false⟩

/-- The option that asks for the version. -/
def versionOption : Switch := ⟨"version", some 0x56, .version, false⟩

/-- The option that asks for more to be told. -/
def verboseOption : Switch := flagOption "verbose" (some 0x76)

end ContainerEntry.CommandLine

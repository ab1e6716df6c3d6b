import TensorQueue.Command.Help
import TensorQueue.Text.Unsigned

/-!
# Arguments

The command line, read from left to right: the first thing that is wrong, or
the first wish for help, decides. An option takes its value after an equals
sign or as the next argument, which then must not look like an option.
-/

set_option autoImplicit false

namespace TensorQueue.Command

/-- How a part of the command line was understood. -/
inductive Reading (α : Type) where
  | understood (a : α)
  | help (page : List String)
  | version
  | refused
  deriving DecidableEq, Repr, Inhabited

def Reading.map {α β : Type} (f : α → β) : Reading α → Reading β
  | .understood a => .understood (f a)
  | .help page => .help page
  | .version => .version
  | .refused => .refused

/-- An option of a command, and what its value does to the settings. -/
structure CommandOption (α : Type) where
  name : String
  purpose : String
  /-- The value that stands if the option is not given. -/
  standard : Option String
  mayRepeat : Bool
  apply : List Char → α → Option α

namespace CommandOption

/-- The value of an option goes by the name of the option in capitals. -/
def placeholder (name : String) : String :=
  String.ofList (name.toList.map fun c => if c = '-' then '_' else c.toUpper)

/-- Options have no short form, but room is left for one. -/
def helpEntry {α : Type} (o : CommandOption α) : HelpEntry where
  word := s!"    --{o.name} <{placeholder o.name}>"
  text := o.purpose ++ (o.standard.map fun value => s!" [default: {value}]").getD ""

/-- The page of a command that takes these options and nothing else. -/
def page {α : Type} (purpose usage : String) (options : List (CommandOption α)) : List String :=
  Help.page purpose usage [Help.listing "Options" (options.map helpEntry ++ [Help.helpFlag])]

end CommandOption

/-- An argument by its form. -/
inductive Shape where
  | positional
  | escape
  | short (first : Char)
  | long (name : String) (value : Option (List Char))
  deriving DecidableEq, Repr, Inhabited

/-- The text up to the first equals sign, and the text behind it. -/
def splitEquals : List Char → List Char × Option (List Char)
  | [] => ([], none)
  | '=' :: value => ([], some value)
  | c :: rest =>
    let (name, value) := splitEquals rest
    (c :: name, value)

def shape (argument : String) : Shape :=
  match argument.toList with
  | ['-', '-'] => .escape
  | '-' :: '-' :: rest =>
    let (name, value) := splitEquals rest
    .long (String.ofList name) value
  | '-' :: first :: _ => .short first
  | _ => .positional

/-- A value that was set off as an argument of its own. -/
def valueOf (argument : String) : Option (List Char) :=
  match shape argument with
  | .positional => some argument.toList
  | _ => none

/-- The settings after an option with its value, unless it was given before and may not be
repeated. -/
def applyOption {α : Type} (option : CommandOption α) (seen : List String) (value : List Char)
    (settings : α) : Option α :=
  if option.name ∈ seen ∧ option.mayRepeat = false then none else option.apply value settings

/-- Reads the options of a command. Nothing else may stand there, except a wish for its page and
the mark that no more options follow. -/
def readOptions {α : Type} (page : List String) (options : List (CommandOption α)) :
    List String → α → List String → Reading α
  | _, settings, [] => .understood settings
  | seen, settings, argument :: rest =>
    match shape argument with
    | .positional => .refused
    | .escape => if rest.isEmpty then .understood settings else .refused
    | .short first => if first = 'h' then .help page else .refused
    | .long "help" value => if value.isNone then .help page else .refused
    | .long name inline =>
      match options.find? (·.name = name), inline, rest with
      | none, _, _ => .refused
      | some option, some value, rest =>
        match applyOption option seen value settings with
        | none => .refused
        | some settings => readOptions page options (name :: seen) settings rest
      | some _, none, [] => .refused
      | some option, none, next :: rest =>
        match (valueOf next).bind fun value => applyOption option seen value settings with
        | none => .refused
        | some settings => readOptions page options (name :: seen) settings rest

def readWord (text : List Char) : Option UInt64 :=
  match Text.readUnsigned UInt64.size text with
  | .ok n => some n.toUInt64
  | .error _ => none

/-- A number of 32 bits. It is read with a sign, so that zero may have one. -/
def readHalfWord (text : List Char) : Option UInt32 :=
  match text with
  | '-' :: digits =>
    match digits, Text.readUnsigned 1 digits with
    | '+' :: _, _ => none
    | _, .ok _ => some 0
    | _, .error _ => none
  | digits =>
    match Text.readUnsigned UInt32.size digits with
    | .ok n => some n.toUInt32
    | .error _ => none

def wordOption {α : Type} (name purpose : String) (standard : Option UInt64)
    (put : UInt64 → α → α) : CommandOption α where
  name := name
  purpose := purpose
  standard := standard.map toString
  mayRepeat := false
  apply := fun text settings => (readWord text).map fun n => put n settings

def halfWordOption {α : Type} (name purpose : String) (standard : Option UInt32)
    (put : UInt32 → α → α) : CommandOption α where
  name := name
  purpose := purpose
  standard := standard.map toString
  mayRepeat := false
  apply := fun text settings => (readHalfWord text).map fun n => put n settings

end TensorQueue.Command

import BeanMetrics.CommandLine.Basic
import BeanMetrics.Text.Split

/-!
Reading a command line. Arguments are looked at one after another. A value may be attached to the
name of its parameter or be the next argument, unless that begins with a hyphen; in the latter case
it is taken over only when the next name comes or the arguments end, so that an unknown argument
behind it is what is wrong first.
-/

namespace BeanMetrics

/-- A command line of which some arguments have been read. The last parameter may still wait for its
value, or the value for being taken over. -/
structure CommandReading where
  line : CommandLine
  pending : Option (Parameter × Option String)
  deriving Inhabited, Repr

namespace CommandReading

def start : CommandReading := ⟨.empty, none⟩

/-- Takes over the last parameter. -/
def settle (r : CommandReading) : Except CommandFault CommandLine :=
  match r.pending with
  | none => .ok r.line
  | some (_, none) => .error .invalidValue
  | some (p, some value) => r.line.give p value

def parameter (r : CommandReading) (p : Parameter) (attached : Option (List Char)) :
    Except CommandFault CommandReading := do
  let line ← r.settle
  match attached with
  | some value => return ⟨← line.give p (String.ofList value), none⟩
  | none => return ⟨line, some (p, none)⟩

def flag (r : CommandReading) (f : Flag) : Except CommandFault CommandReading := do
  let line ← r.settle
  return ⟨← line.raise f, none⟩

/-- A long name, with or without a value behind an equals sign. -/
def long (r : CommandReading) (s : List Char) : Except CommandFault CommandReading :=
  let (name, attached) : List Char × Option (List Char) :=
    match Text.splitFirst '=' s with
    | some (name, value) => (name, some value)
    | none => (s, none)
  match Meaning.ofName? (String.ofList name) with
  | none => .error .unknownArgument
  | some (.parameter p) => r.parameter p attached
  | some (.flag f) => if attached.isSome then .error .unexpectedValue else r.flag f

/-- Letters in a row. Behind the letter of a parameter stands its value, after an equals sign or
not. -/
def letters (r : CommandReading) : List Char → Except CommandFault CommandReading
  | [] => .ok r
  | c :: rest =>
    match Meaning.ofLetter? c with
    | none => .error .unknownArgument
    | some (.flag f) => (r.flag f).bind (letters · rest)
    | some (.parameter p) =>
      match rest with
      | [] => r.parameter p none
      | '=' :: value => r.parameter p (some value)
      | value => r.parameter p (some value)

def next (r : CommandReading) (argument : List Char) : Except CommandFault CommandReading :=
  match argument with
  | '-' :: '-' :: name => r.long name
  | '-' :: c :: cs => r.letters (c :: cs)
  | value =>
    match r.pending with
    | some (p, none) => .ok ⟨r.line, some (p, some (String.ofList value))⟩
    | _ => .error .unknownArgument

/-- All arguments. Behind `--` there must be none. -/
def readAll (r : CommandReading) : List (List Char) → Except CommandFault CommandLine
  | [] => r.settle
  | argument :: rest =>
    if argument = ['-', '-'] then
      if rest = [] then r.settle else .error .unknownArgument
    else (r.next argument).bind (readAll · rest)

end CommandReading

namespace CommandLine

/-- Fills in the parameters that have not been given from the environment. -/
def fillIn (environment : String → Option String) (c : CommandLine) :
    Except CommandFault CommandLine :=
  Parameter.all.foldlM (fun c p =>
    if c.has p then .ok c
    else match environment p.environmentName with
      | some value => c.give p value
      | none => .ok c) c

def ofArguments (arguments : List String) (environment : String → Option String) :
    Except CommandFault CommandLine :=
  (CommandReading.start.readAll (arguments.map String.toList)).bind (fillIn environment)

end CommandLine
end BeanMetrics

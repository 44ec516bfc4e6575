import Mathlib.Data.List.Basic

namespace Sake.Lib.Flags

/-- A flag of a command line. `set` writes its value into the record of all values, or says
why it cannot; a boolean flag may stand without a value. -/
structure Flag (α : Type) where
  name : String
  isBool : Bool
  set : String → α → Except String α

inductive ParseError
  /-- `-h` or `-help`, where no such flag is defined. -/
  | help
  | failed (text : String)
  deriving Repr, DecidableEq

/-- A word of the command line: the first two forms end the flags, and only the first of them is
left among the arguments. -/
inductive Word
  | argument
  | terminator
  | malformed
  | flag (name : String) (value : Option String)
  deriving Repr, DecidableEq

/-- The name of a flag, and its value if one is attached. The equals sign cannot be first. -/
def cutValue : List Char → String × Option String
  | [] => ("",none)
  | c :: rest =>
    match rest.span (· != '=') with
    | (name,[]) => (String.ofList (c :: name),none)
    | (name,_ :: value) => (String.ofList (c :: name),some (String.ofList value))

def flagWord (name : List Char) : Word :=
  match name with
  | [] => .malformed
  | '-' :: _ => .malformed
  | '=' :: _ => .malformed
  | name => .flag (cutValue name).1 (cutValue name).2

def classify (word : String) : Word :=
  match word.toList with
  | ['-','-'] => .terminator
  | '-' :: '-' :: name => flagWord name
  | '-' :: c :: name => flagWord (c :: name)
  | _ => .argument

variable {α : Type}

def setFlag (flag : Flag α) (value : String) (values : α) : Except ParseError α :=
  match flag.set value values with
  | .ok values => .ok values
  | .error e =>
    .error (.failed (if flag.isBool then "invalid boolean value " ++ value.quote ++ " for -" ++ flag.name ++ ": " ++ e
      else "invalid value " ++ value.quote ++ " for flag -" ++ flag.name ++ ": " ++ e))

def undefinedFlag (name : String) : ParseError :=
  if name = "help" ∨ name = "h" then .help else .failed ("flag provided but not defined: -" ++ name)

/-- The flags at the front of the words, and the arguments after them. -/
def parse (flags : List (Flag α)) : List String → α → Except ParseError (α × List String)
  | [], values => .ok (values,[])
  | word :: words, values =>
    match classify word with
    | .argument => .ok (values,word :: words)
    | .terminator => .ok (values,words)
    | .malformed => .error (.failed ("bad flag syntax: " ++ word))
    | .flag name attached =>
      match flags.find? fun flag => flag.name = name with
      | none => .error (undefinedFlag name)
      | some flag =>
        match attached, flag.isBool, words with
        | some value, _, words => do parse flags words (← setFlag flag value values)
        | none, true, words => do parse flags words (← setFlag flag "true" values)
        | none, false, value :: words => do parse flags words (← setFlag flag value values)
        | none, false, [] => .error (.failed ("flag needs an argument: -" ++ name))

end Sake.Lib.Flags

import Curfew.Text.Quoted

/-!
What is wrong with a command line.
-/

namespace Curfew.CommandLine

inductive Misuse where
  /-- An option that the command does not have, with those it has that come close. -/
  | unknownOption (name : String) (similar : List String)
  | needsValue (name : String)
  | takesNoValue (name : String)
  | missingArgument (name : String)
  /-- A value that is refused, with the place it was given for. -/
  | badValue (place : String) (reason : String)
  | extraArguments (words : List String)
  /-- A command that there is none of, with the names that come close. -/
  | unknownCommand (name : String) (similar : List String)
  | missingCommand
deriving DecidableEq

namespace Misuse

/-- The names that may have been meant, in a sentence behind a space. -/
def suggestion : List String → String
  | [] => ""
  | [name] => s!" Did you mean {Text.quote name}?"
  | names =>
    " (Did you mean one of: " ++ String.intercalate ", " (names.map Text.quote) ++ "?)"

def message : Misuse → String
  | .unknownOption name similar => s!"No such option {Text.quote name}.{suggestion similar}"
  | .needsValue name => s!"Option {Text.quote name} requires an argument."
  | .takesNoValue name => s!"Option {Text.quote name} does not take a value."
  | .missingArgument name => s!"Missing argument '" ++ name ++ "'."
  | .badValue place reason => s!"Invalid value for {place}: {reason}"
  | .extraArguments words =>
    let noun := if words.length = 1 then "argument" else "arguments"
    s!"Got unexpected extra {noun} (" ++ String.intercalate " " words ++ ")"
  | .unknownCommand name similar => s!"No such command {Text.quote name}.{suggestion similar}"
  | .missingCommand => "Missing command."

/-- Whether the form of the command is shown before the message. -/
def showsForm : Misuse → Bool
  | .needsValue _ | .takesNoValue _ => false
  | _ => true

end Misuse

end Curfew.CommandLine

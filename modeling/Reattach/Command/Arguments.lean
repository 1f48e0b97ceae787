/-!
# Command-line arguments

Options start with two dashes.  An option with a value takes it after an equals sign
or as the next argument, which must not look like an option itself; a lone dash does
not.  Two dashes alone end the options.  No option is given twice.
-/

namespace Reattach

/-- The arguments of a command. -/
structure Arguments where
  /-- The options without values that are given. -/
  flags : List String := []
  /-- The options with values that are given. -/
  values : List (String × String) := []
  /-- The other arguments. -/
  positionals : List String := []
  deriving DecidableEq

namespace Arguments

def value? (arguments : Arguments) (option : String) : Option String :=
  arguments.values.lookup option

def has (arguments : Arguments) (flag : String) : Bool := arguments.flags.contains flag

/-- With an option without value, if it is not there yet. -/
def addFlag (arguments : Arguments) (flag : String) : Option Arguments :=
  if arguments.has flag then none else some { arguments with flags := flag :: arguments.flags }

/-- With an option and its value, if it is not there yet. -/
def addValue (arguments : Arguments) (option value : String) : Option Arguments :=
  if (arguments.value? option).isSome then none
  else some { arguments with values := (option, value) :: arguments.values }

/-- With arguments that are no options, in front of those there are. -/
def addPositionals (arguments : Arguments) (positionals : List String) : Arguments :=
  { arguments with positionals := positionals ++ arguments.positionals }

/-- Whether an argument looks like an option: it starts with a dash and goes on. -/
def looksLikeOption (argument : String) : Bool :=
  match argument.toList with
  | '-' :: _ :: _ => true
  | _ => false

/-- The name and the value of an argument of the form `--name=value`. -/
def splitAtEquals? (argument : String) : Option (String × String) :=
  let chars := argument.toList
  match chars.dropWhile (· != '=') with
  | [] => none
  | _ :: value => some (String.ofList (chars.takeWhile (· != '=')), String.ofList value)

/-- Read arguments, given which options there are. -/
def parse? (flags valued : List String) : List String → Option Arguments
  | [] => some {}
  | argument :: rest =>
      if argument = "--" then
        some { positionals := rest }
      else if !looksLikeOption argument then
        (parse? flags valued rest).map (·.addPositionals [argument])
      else if flags.contains argument then
        (parse? flags valued rest).bind (·.addFlag argument)
      else if valued.contains argument then
        match rest with
        | [] => none
        | value :: rest =>
            if looksLikeOption value then none
            else (parse? flags valued rest).bind (·.addValue argument value)
      else
        match splitAtEquals? argument with
        | none => none
        | some (option, value) =>
            if valued.contains option then
              (parse? flags valued rest).bind (·.addValue option value)
            else
              none

end Arguments

end Reattach

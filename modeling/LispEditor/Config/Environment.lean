import LispEditor.Character.Alphanumeric

set_option autoImplicit false
set_option relaxedAutoImplicit false

/-!
# Expansion of paths

A path may name variables of the environment, as `$name` or `${name}`, and begin with a tilde for
the home directory.
-/

namespace LispEditor

/-- The variables of the environment. -/
abbrev Environment := List (String × String)

namespace Environment

def home (env : Environment) : String :=
  (env.lookup "HOME").getD ""

/-- The value of a variable. The environment is kept as texts `name=value`, so a name with an equals
sign in it reaches into the value of a variable with a shorter name. -/
def value? (env : Environment) (name : List Char) : Option (List Char) :=
  env.findSome? fun (key, value) =>
    (name ++ ['=']).isPrefixOf? (key.toList ++ '=' :: value.toList)

/-- Whether `c` may stand in the name of a variable without braces. -/
def isNameChar (c : Char) : Bool :=
  isAlphanumeric c || c == '_'

/-- The part of a text in front of the first `:-` and the part behind it. -/
def splitDefault : List Char → Option (List Char × List Char)
  | [] => none
  | ':' :: '-' :: rest => some ([], rest)
  | c :: rest => (splitDefault rest).map fun (name, value) => (c :: name, value)

/-- What stands for the variable between a pair of braces: its value or, if it is not set, the
default behind `:-`. A name is never empty in front of a default. -/
def braced? (env : Environment) (inside : List Char) : Option (List Char) :=
  match splitDefault inside with
  | some (c :: name, value) => some ((env.value? (c :: name)).getD value)
  | _ => env.value? inside

/-- Replace the variables of a text by their values; `fuel` bounds the length of the text. A
variable that is not set makes the expansion fail. -/
def expandVariables (env : Environment) : (fuel : Nat) → List Char → Option (List Char)
  | 0, cs => some cs
  | _, [] => some []
  | fuel + 1, '$' :: '{' :: rest =>
      if rest.contains '}' then do
        let value ← env.braced? (rest.takeWhile (· != '}'))
        let tail ← expandVariables env fuel ((rest.dropWhile (· != '}')).drop 1)
        some (value ++ tail)
      else (expandVariables env fuel rest).map ('$' :: '{' :: ·)
  | fuel + 1, '$' :: '$' :: rest => (expandVariables env fuel rest).map ('$' :: ·)
  | fuel + 1, '$' :: c :: rest =>
      if isNameChar c then do
        let value ← env.value? (c :: rest.takeWhile isNameChar)
        let tail ← expandVariables env fuel (rest.dropWhile isNameChar)
        some (value ++ tail)
      else (expandVariables env fuel (c :: rest)).map ('$' :: ·)
  | fuel + 1, c :: rest => (expandVariables env fuel rest).map (c :: ·)

def expandTilde (env : Environment) : List Char → List Char
  | ['~'] => env.home.toList
  | '~' :: '/' :: rest => env.home.toList ++ '/' :: rest
  | cs => cs

/-- The path with its variables and then its tilde replaced, or as it is if a variable is not set. A
tilde that came out of a variable stays. -/
def expand (env : Environment) (path : String) : String :=
  let cs := path.toList
  match env.expandVariables cs.length cs with
  | none => path
  | some expanded =>
      if cs.head? != some '~' && expanded.head? == some '~' then String.ofList expanded
      else String.ofList (env.expandTilde expanded)

end Environment

end LispEditor

import LineRuns.Command.Report

/-!
# Arguments of commands

The words after a command are options and arguments. An option is a word with two dashes, whose
value may follow an equals sign, or letters after one dash, the last of which may have its value
right behind it; a value may be the next word in either case, whatever that looks like. A word
of two dashes alone ends the options.
-/

namespace LineRuns.Command

/-- An option by its long name, perhaps a letter for it, and whether it has a value. -/
structure OptionSpec where
  name : String
  letter : Option Char
  hasValue : Bool

/-- The options found, in order, each with its value, and the arguments. -/
structure Parsed where
  options : List (String × Text)
  arguments : List Text
  deriving Repr

namespace Parsed

/-- Whether an option was given. -/
def has (parsed : Parsed) (name : String) : Bool :=
  parsed.options.any fun o => o.1 == name

/-- The value of an option; of several the last counts. -/
def value? (parsed : Parsed) (name : String) : Option Text :=
  (parsed.options.reverse.find? fun o => o.1 == name).map Prod.snd

/-- The first refusal of an option's value, in the order in which the options were first given. -/
def refusal? (parsed : Parsed) (checks : List (String × (Text → Option Report))) :
    Option Report :=
  parsed.options.findSome? fun o => do (← checks.lookup o.1) (← parsed.value? o.1)

/-- A further option in front. -/
def withOption (parsed : Parsed) (name : String) (value : Text) : Parsed :=
  { parsed with options := (name, value) :: parsed.options }

/-- A further argument in front. -/
def withArgument (parsed : Parsed) (argument : Text) : Parsed :=
  { parsed with arguments := argument :: parsed.arguments }

end Parsed

/-- The dash. -/
def isDash (c : CodePoint) : Bool :=
  c.val == 0x2D

/-- What a word with a long option means: the option, and its value if it is in the word. -/
def long? (known : List OptionSpec) (word : Text) : Option (OptionSpec × Option Text) :=
  let name := word.takeWhile fun c => c.val ≠ 0x3D
  match known.find? fun o => Text.ofString o.name == name with
  | none => none
  | some o =>
    match word.drop name.length with
    | [] => some (o, none)
    | _ :: value => some (o, some value)

/-- The options of letters after one dash. The last one may still want the next word; then it
is given apart. -/
def letters? (known : List OptionSpec) : Text → Option (List (String × Text) × Option String)
  | [] => some ([], none)
  | c :: rest =>
    match known.find? fun o => o.letter.map CodePoint.ofChar == some c with
    | none => none
    | some o =>
      if o.hasValue then
        if rest.isEmpty then some ([], some o.name) else some ([(o.name, rest)], none)
      else (letters? known rest).map fun (found, wants) => ((o.name, []) :: found, wants)

/-- Parses words, within `fuel` words. Unless `mixed`, the first argument ends the options. -/
def parseWords (known : List OptionSpec) (mixed : Bool) :
    (fuel : Nat) → List Text → Option Parsed
  | 0, _ => some ⟨[], []⟩
  | _, [] => some ⟨[], []⟩
  | fuel + 1, word :: rest =>
    if word = [0x2D, 0x2D] then some ⟨[], rest⟩
    else if (word.take 1).any isDash && 1 < word.length then
      match long? known word with
      | some (o, value) =>
        match o.hasValue, value, rest with
        | true, some value, _ => (parseWords known mixed fuel rest).map (·.withOption o.name value)
        | true, none, next :: rest =>
          (parseWords known mixed fuel rest).map (·.withOption o.name next)
        | true, none, [] => none
        | false, some _, _ => none
        | false, none, _ => (parseWords known mixed fuel rest).map (·.withOption o.name [])
      | none =>
        if (word.drop 1).take 1 |>.any isDash then none
        else
          match letters? known (word.drop 1), rest with
          | none, _ => none
          | some (found, none), _ =>
            (parseWords known mixed fuel rest).map fun parsed =>
              { parsed with options := found ++ parsed.options }
          | some (found, some name), next :: rest =>
            (parseWords known mixed fuel rest).map fun parsed =>
              { parsed with options := found ++ (name, next) :: parsed.options }
          | some (_, some _), [] => none
    else if mixed then (parseWords known mixed fuel rest).map (·.withArgument word)
    else some ⟨[], word :: rest⟩

/-- Parses all words; nothing if they are wrong. -/
def parse? (known : List OptionSpec) (mixed : Bool) (words : List Text) : Option Parsed :=
  parseWords known mixed words.length words

end LineRuns.Command

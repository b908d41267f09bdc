import SceneForge.Number.Digits
import SceneForge.Text.Quoted

set_option autoImplicit false

/-!
# Command line arguments

Flags come first: a name behind one or two dashes, with a value behind an equals sign or in the next
argument. The first argument that is no flag, or a lone `--`, ends them.

## Main definitions

* `SceneForge.Cli.Flag` — a flag that a command knows.
* `SceneForge.Cli.Arguments` — the values of flags, and the arguments behind them.
* `SceneForge.Cli.Arguments.parse` — reading arguments.
* `SceneForge.Cli.flagHelp` — the list of flags as shown to people.
-/

namespace SceneForge.Cli

/-- What a flag takes. -/
inductive FlagKind where
  /-- A truth value; the flag alone means true. -/
  | switch
  /-- A text. -/
  | text
  /-- An integer. -/
  | number
deriving DecidableEq, Inhabited

/-- A flag that a command knows. -/
structure Flag where
  /-- Its name, without dashes. -/
  name : String
  /-- What it takes. -/
  kind : FlagKind
  /-- What it does. -/
  about : String := ""
  /-- Its value if it is not given, where that is worth showing. -/
  usual : String := ""
deriving DecidableEq, Inhabited

/-- The value of a flag. -/
inductive Setting where
  /-- A truth value. -/
  | switch (b : Bool)
  /-- A text. -/
  | text (s : String)
  /-- An integer. -/
  | number (n : Int)
deriving DecidableEq, Inhabited

/-- Why arguments are not carried out. -/
inductive Refusal where
  /-- They ask for help. -/
  | help
  /-- They are not well formed. -/
  | fault (text : String)
deriving DecidableEq, Inhabited

/-! ## Values -/

/-- The spellings of truth. -/
def trueNames : List String := ["1", "t", "T", "true", "TRUE", "True"]

/-- The spellings of falsehood. -/
def falseNames : List String := ["0", "f", "F", "false", "FALSE", "False"]

/-- Whether every underscore stands between two digits, or between the base and a digit. -/
def underscoresFit : Bool → List Char → Bool
  | _, [] => true
  | afterDigit, '_' :: rest =>
    afterDigit && (rest.head?.any fun c => (Digits.hexDigit? c).isSome) && underscoresFit false rest
  | _, c :: rest =>
    underscoresFit ((Digits.hexDigit? c).isSome || c == 'x' || c == 'X' || c == 'o' || c == 'O') rest

/-- An integer of 64 bits, in any base that it says. -/
def readNumber (s : String) : Except String Int :=
  let cs := s.toList
  match Digits.integer? Digits.prefixed? (cs.filter (· ≠ '_')) with
  | none => .error "parse error"
  | some i =>
    if !underscoresFit false (Digits.sign cs).2 then .error "parse error"
    else if Digits.fits64 i then .ok i else .error "value out of range"

namespace Flag

/-- The value of a flag as it was written. -/
def read (f : Flag) (value : String) : Except Refusal Setting :=
  let quoted := Text.quote value
  match f.kind with
  | .text => .ok (.text value)
  | .switch =>
    if trueNames.contains value then .ok (.switch true)
    else if falseNames.contains value then .ok (.switch false)
    else .error (.fault ("invalid boolean value " ++ quoted ++ " for -" ++ f.name ++ ": parse error"))
  | .number =>
    match readNumber value with
    | .ok n => .ok (.number n)
    | .error e => .error (.fault ("invalid value " ++ quoted ++ " for flag -" ++ f.name ++ ": " ++ e))

end Flag

/-! ## Arguments -/

/-- The first argument of a list, read on its own. -/
inductive Leading where
  /-- It is no flag. -/
  | operand
  /-- It ends the flags. -/
  | stop
  /-- It is a flag with its value, if it brings one along. -/
  | flag (f : Flag) (value : Option String)
  /-- It cannot be read. -/
  | refused (r : Refusal)

/-- A name, and the value behind an equals sign. -/
def splitValue (cs : List Char) : String × Option String :=
  let name := cs.takeWhile (· ≠ '=')
  (String.ofList name,
    if name.length < cs.length then some (String.ofList (cs.drop (name.length + 1))) else none)

/-- The reading of an argument where a flag may stand. -/
def Leading.ofText (flags : List Flag) (s : String) : Leading :=
  match s.toList with
  | ['-', '-'] => .stop
  | '-' :: c :: cs =>
    let body := if c == '-' then cs else c :: cs
    if body.head?.any fun c => c == '-' || c == '=' then .refused (.fault ("bad flag syntax: " ++ s))
    else
      let (name, value) := splitValue body
      match flags.find? fun f => f.name == name with
      | some f => .flag f value
      | none =>
        if name == "help" || name == "h" then .refused .help
        else .refused (.fault ("flag provided but not defined: -" ++ name))
  | _ => .operand

/-- The values of flags, and the arguments behind them. -/
structure Arguments where
  /-- The values by name, the latest first. -/
  settings : List (String × Setting) := []
  /-- The arguments behind the flags. -/
  rest : List String := []
deriving DecidableEq, Inhabited

namespace Arguments

/-- One more value. -/
def set (a : Arguments) (f : Flag) (v : Setting) : Arguments :=
  { a with settings := (f.name, v) :: a.settings }

/-- Reading arguments behind what was read before. -/
def parseFrom (flags : List Flag) : List String → Arguments → Except Refusal Arguments
  | [], a => .ok a
  | s :: rest, a =>
    match Leading.ofText flags s with
    | .operand => .ok { a with rest := s :: rest }
    | .stop => .ok { a with rest }
    | .refused r => .error r
    | .flag f (some value) => do parseFrom flags rest (a.set f (← f.read value))
    | .flag f none =>
      if f.kind = .switch then parseFrom flags rest (a.set f (.switch true))
      else
        match rest with
        | [] => .error (.fault ("flag needs an argument: -" ++ f.name))
        | value :: rest => do parseFrom flags rest (a.set f (← f.read value))

/-- Reading arguments. -/
def parse (flags : List Flag) (args : List String) : Except Refusal Arguments :=
  parseFrom flags args {}

/-- The text that a flag was given. -/
def text (a : Arguments) (name : String) : String :=
  match a.settings.lookup name with
  | some (.text s) => s
  | _ => ""

/-- The integer that a flag was given. -/
def number (a : Arguments) (name : String) (usual : Int) : Int :=
  match a.settings.lookup name with
  | some (.number n) => n
  | _ => usual

/-- The truth value that a flag was given. -/
def switch (a : Arguments) (name : String) (usual : Bool) : Bool :=
  match a.settings.lookup name with
  | some (.switch b) => b
  | _ => usual

end Arguments

/-! ## Help -/

/-- A flag as shown to people. A switch of one letter has its description in the same line. -/
def Flag.help (f : Flag) : String :=
  let about := f.about ++ (if f.usual = "" then "" else " (default " ++ f.usual ++ ")")
  let value := match f.kind with
    | .switch => ""
    | .text => " string"
    | .number => " int"
  if value = "" ∧ f.name.length = 1 then "  -" ++ f.name ++ "\t" ++ about ++ "\n"
  else "  -" ++ f.name ++ value ++ "\n    \t" ++ about ++ "\n"

/-- The flags of a command as shown to people. -/
def flagHelp (command : String) (flags : List Flag) : String :=
  "Usage of " ++ command ++ ":\n" ++ String.join (flags.map Flag.help)

end SceneForge.Cli

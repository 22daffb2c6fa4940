import FleetHealth.Decimal.Reader
import FleetHealth.Entries

/-!
# Command line — Request

What a user asks for.  The arguments begin with the options that precede the command, then comes its name, then its own options and their values in any order.  An option takes the argument after it whatever that looks like, or a value after an equals sign, and of a repeated option the last value counts.  A number that is the value of an option is written in ASCII, and single underscores inside it do not count, wherever they stand.  A request for help is heard wherever the arguments can be read at all; everything else that is not one of the commands is a misuse.
-/

namespace FleetHealth

/-- A command with its options. -/
inductive Command where
  | run (sink : Option String) (cadence : Option Binary64)
  | once (sink : Option String)
  | config

/-- What a user asks for. -/
inductive Request where
  | command (c : Command)
  | help
  | misuse

namespace Request

/-- The option that asks for help. -/
def helpOption : String := "--help"

/-- The argument after which there are no options. -/
def separator : String := "--"

/-- Whether an argument is an option. -/
def isOption (a : String) : Bool := a.startsWith "-" && a != "-"

/-- What the arguments of a command hold: values of options, whether help is asked for, and how many
arguments are left over. -/
structure Scanned where
  values : List (String × String) := []
  wantsHelp : Bool := false
  extras : Nat := 0

namespace Scanned

/-- One more value of an option, which gives way to a later one. -/
def give (name value : String) (s : Scanned) : Scanned :=
  if Entries.has name s.values then s else { s with values := (name, value) :: s.values }

/-- The value of an option. -/
def value? (s : Scanned) (name : String) : Option String := Entries.get? name s.values

end Scanned

/-- The name of an option and the value after an equals sign. -/
def splitInline (a : String) : String × Option String :=
  match a.splitOn "=" with
  | n :: v :: vs => (n, some (String.intercalate "=" (v :: vs)))
  | _            => (a, none)

/-- The arguments of a command whose options of the given names take a value. -/
def scan (valued : List String) : List String → Option Scanned
  | []        => some {}
  | a :: rest =>
    if a = separator then some { extras := rest.length }
    else if isOption a then
      let (name, inline?) := splitInline a
      if name = helpOption then
        if inline?.isSome then none
        else (scan valued rest).map fun s => { s with wantsHelp := true }
      else if valued.contains name then
        match inline? with
        | some v => (scan valued rest).map (.give name v)
        | none   =>
          match rest with
          | []         => none
          | v :: after => (scan valued after).map (.give name v)
      else none
    else (scan valued rest).map fun s => { s with extras := s.extras + 1 }

/-- A command made of scanned arguments, unless they hold a request for help or too much. -/
def finish (s : Scanned) (command? : Scanned → Option Command) : Request :=
  if s.wantsHelp then .help
  else
    match command? s with
    | none   => .misuse
    | some c => if s.extras = 0 then .command c else .misuse

/-- The number that the value of an option writes, in ASCII.  Single underscores inside it do not
count: the pieces between them are joined, and none of them may be empty. -/
def number? (raw : String) : Option Binary64 :=
  let body := Decimal.body raw
  let pieces := Text.splitChars '_' body
  if pieces.any (·.isEmpty) || body.any (0x80 ≤ ·.toNat) then none
  else Decimal.readFloat (String.ofList pieces.flatten)

/-- The command to run, when its cadence is a number. -/
def run? (s : Scanned) : Option Command :=
  match s.value? "--cadence" with
  | none     => some (.run (s.value? "--sink") none)
  | some raw => (number? raw).map fun x => .run (s.value? "--sink") (some x)

/-- The command of a name with its arguments. -/
def ofCommand (name : String) (args : List String) : Request :=
  let read (valued : List String) (command? : Scanned → Option Command) : Request :=
    match scan valued args with
    | none   => .misuse
    | some s => finish s command?
  if name = "run" then read ["--sink", "--cadence"] run?
  else if name = "once" then read ["--sink"] fun s => some (.once (s.value? "--sink"))
  else if name = "config" then read [] fun _ => some .config
  else .misuse

/-- The request after the options that precede the command. -/
def afterOptions (wantsHelp : Bool) : List String → Request
  | []           => if wantsHelp then .help else .misuse
  | name :: args => if wantsHelp then .help else ofCommand name args

/-- The request of arguments, when help was already asked for or not. -/
def lead (wantsHelp : Bool) : List String → Request
  | []        => afterOptions wantsHelp []
  | a :: rest =>
    if a = separator then afterOptions wantsHelp rest
    else if isOption a then if a = helpOption then lead true rest else .misuse
    else afterOptions wantsHelp (a :: rest)

/-- The request of a list of arguments. -/
def ofArguments (args : List String) : Request := lead false args

end Request
end FleetHealth

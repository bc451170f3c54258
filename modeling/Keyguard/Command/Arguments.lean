import Keyguard.Files.Path
import Keyguard.User

/-!
# Arguments of the command line

The arguments name a task, with what it needs, and perhaps options. `Invocation.ofArguments?`
reads them by these rules and refuses all else:

* The first argument that is no option and no value of one names the task. Before it only the
  options for the whole program may stand; behind it, these and the options of the task.
* An option's value is the next argument, `--user 5` and `-u 5`, or is attached to it, `--user=5`,
  `-u5` and `-u=5`. The next argument is no value if it starts with `-`, unless it is `-` alone.
* Behind the task, `--` ends the options.
* An option comes at most once on either side of the task's name; the one behind it counts.
* A path is not empty, and a user is an integer of 32 bits.
-/

namespace Keyguard

/-- What the command line is asked to do. -/
inductive Task where
  | get (key : String) (user : UserId)
  | set (key : String) (value : String) (user : UserId)
  | setPattern (hash : String) (user : UserId)
  | checkPattern (hash : String) (user : UserId)
  | setPassword (hash : String) (user : UserId)
  | checkPassword (hash : String) (user : UserId)
  | status (user : UserId)
  | removeUser (user : UserId)
  | migrate (legacy : Option Path)
  deriving DecidableEq

/-- A run of the command line: the files that it names and its task. -/
structure Invocation where
  config : Option Path
  dataDir : Option Path
  task : Task
  deriving DecidableEq

/-- An option of the command line. -/
inductive CommandOption where
  | config
  | dataDir
  | user
  | legacy
  deriving DecidableEq

namespace CommandOption

/-- The long name of an option. -/
def longName : CommandOption → String
  | .config => "config"
  | .dataDir => "data-dir"
  | .user => "user"
  | .legacy => "legacy"

/-- The letter of an option. -/
def letter : CommandOption → Char
  | .config => 'c'
  | .dataDir => 'd'
  | .user => 'u'
  | .legacy => 'l'

end CommandOption

/-- The options that some arguments give, and the other arguments. -/
structure Arguments where
  options : List (CommandOption × String)
  words : List String
  deriving DecidableEq

namespace Arguments

/-- What a single argument is. -/
inductive Shape where
  | word
  | terminator
  | option (o : CommandOption) (value : Option String)
  | unknown

/-- Splits an argument into the part before the first `=` and the part behind it. -/
def splitAtEquals (cs : List Char) : List Char × Option String :=
  match cs.dropWhile (· ≠ '=') with
  | [] => (cs, none)
  | _ :: value => (cs.takeWhile (· ≠ '='), some (String.ofList value))

/-- Tells what an argument is, among the options that may stand there. -/
def shape (allowed : List CommandOption) (argument : String) : Shape :=
  match argument.toList with
  | ['-', '-'] => .terminator
  | '-' :: '-' :: cs =>
    let (name, value) := splitAtEquals cs
    match allowed.find? (·.longName.toList == name) with
    | some o => .option o value
    | none => .unknown
  | '-' :: c :: cs =>
    match allowed.find? (·.letter == c) with
    | some o =>
      .option o (match cs with
        | [] => none
        | '=' :: value => some (String.ofList value)
        | value => some (String.ofList value))
    | none => .unknown
  | _ => .word

/-- Adds an option in front. -/
def withOption (o : CommandOption) (value : String) (a : Arguments) : Arguments :=
  { a with options := (o, value) :: a.options }

/-- Adds a word in front. -/
def withWord (word : String) (a : Arguments) : Arguments := { a with words := word :: a.words }

/-- Sorts arguments into options and words. With `stop`, the first word and all behind it are
words. -/
def sort (allowed : List CommandOption) (stop : Bool) : List String → Option Arguments
  | [] => some ⟨[], []⟩
  | a :: rest =>
    match shape allowed a with
    | .word => if stop then some ⟨[], a :: rest⟩ else (sort allowed stop rest).map (withWord a)
    | .terminator => if stop then none else some ⟨[], rest⟩
    | .option o (some value) => (sort allowed stop rest).map (withOption o value)
    | .option o none =>
      match rest with
      | [] => none
      | value :: rest =>
        match shape [] value with
        | .word => (sort allowed stop rest).map (withOption o value)
        | _ => none
    | .unknown => none

/-- Whether no option comes twice. -/
def unrepeated (a : Arguments) : Bool := decide (a.options.map Prod.fst).Nodup

end Arguments

namespace Invocation

/-- The path that a value names. -/
def path? (value : String) : Option Path := if value = "" then none else some ⟨value⟩

/-- The user that a value names. -/
def user? (value : String) : Option UserId := Integer.ofChars? value.toList >>= UserId.ofInt?

/-- Reads the value of an option, if it is given. -/
def valueOf? {α : Type} (read : String → Option α) (options : List (CommandOption × String))
    (o : CommandOption) : Option (Option α) :=
  match options.lookup o with
  | none => some none
  | some value => (read value).map some

/-- The options of the whole program. -/
def programOptions : List CommandOption := [.config, .dataDir]

/-- The options of a task, besides those of the whole program. -/
def taskOptions : String → List CommandOption
  | "remove-user" => []
  | "migrate" => [.legacy]
  | _ => [.user]

/-- The task of a name, its words and its options. -/
def task? (name : String) (words : List String) (user : UserId) (legacy : Option Path) :
    Option Task :=
  match name, words with
  | "get", [key] => some (.get key user)
  | "set", [key, value] => some (.set key value user)
  | "set-pattern", [hash] => some (.setPattern hash user)
  | "check-pattern", [hash] => some (.checkPattern hash user)
  | "set-password", [hash] => some (.setPassword hash user)
  | "check-password", [hash] => some (.checkPassword hash user)
  | "status", [] => some (.status user)
  | "remove-user", [user] => (user? user).map .removeUser
  | "migrate", [] => some (.migrate legacy)
  | _, _ => none

/-- Reads the arguments of the command line. -/
def ofArguments? (args : List String) : Option Invocation := do
  let before ← Arguments.sort programOptions true args
  match before.words with
  | [] => none
  | name :: rest =>
    let behind ← Arguments.sort (programOptions ++ taskOptions name) false rest
    if before.unrepeated && behind.unrepeated then
      let options := behind.options ++ before.options
      let user ← valueOf? user? options .user
      let legacy ← valueOf? path? options .legacy
      let config ← valueOf? path? options .config
      let dataDir ← valueOf? path? options .dataDir
      let task ← task? name behind.words (user.getD .system) legacy
      -- a value that another one overrides is read all the same
      let _ ← valueOf? path? before.options .config
      let _ ← valueOf? path? before.options .dataDir
      return { config, dataDir, task }
    else none

end Invocation

end Keyguard

import JdkFinder.Text.Pieces

/-!
# The command line

The commands, their options, and the reading of the words of a command line.

Options start with two hyphens and may stand anywhere after their command; `--debug` may stand
before it too.  After a lone `--` every word is an argument.  No option may be given twice.
-/

namespace JdkFinder

/-! ## §1 Commands -/

/-- What the program is asked to do. -/
inductive Command where
  /-- Find a JDK for an SDK of the given name and kind. -/
  | resolve (name kind : String) (offline listAll register json : Bool)
  /-- Find the JDKs on this machine. -/
  | scan (json : Bool)
  /-- List the registered JDKs. -/
  | registered (json : Bool)
  /-- List the downloadable JDKs. -/
  | listRemote (refresh json : Bool)
  deriving DecidableEq, Repr

/-- A command, and whether debug messages are wanted. -/
structure Invocation where
  command : Command
  debug : Bool
  deriving DecidableEq, Repr

/-- What a command does, for messages about its failure. -/
def Command.operation : Command → String
  | resolve name .. => "解析 SDK '" ++ name ++ "'"
  | scan _ => "检测本地 JDK"
  | registered _ => "列出已注册的 JDK"
  | listRemote .. => "获取可下载的 JDK 列表"

/-- Why no command is run. -/
inductive UsageError where
  | helpWanted
  | versionWanted
  /-- Nothing was asked for, so the help is shown. -/
  | nothingWanted
  | missingCommand
  | unknownCommand
  | unknownArgument
  | missingArgument
  /-- An option lacks its value. -/
  | missingValue
  /-- An option without value has one. -/
  | needlessValue
  | repeatedOption
  deriving DecidableEq, Repr

namespace CommandLine

/-! ## §2 Words -/

/-- The shape of a word. -/
inductive Word where
  /-- The lone `--`. -/
  | separator
  /-- An option, with the value after its equals sign. -/
  | long (name : String) (value : Option String)
  /-- Letters after a single hyphen. -/
  | short (first : Char)
  | plain (text : String)
  deriving DecidableEq, Repr

/-- The shape of a word. -/
def Word.of (text : String) : Word :=
  match text.toList with
  | ['-', '-'] => .separator
  | '-' :: '-' :: rest =>
    match Text.splitOnce? '=' rest with
    | some (name, value) => .long (String.ofList name) (some (String.ofList value))
    | none => .long (String.ofList rest) none
  | '-' :: c :: _ => .short c
  | _ => .plain text

/-! ## §3 The options of a command -/

/-- The commands without their options. -/
inductive Verb where
  | resolve
  | scan
  | registered
  | listRemote
  deriving DecidableEq, Repr

/-- The commands by name. -/
def verbs : List (String × Verb) :=
  [("resolve", .resolve), ("scan", .scan), ("registered", .registered),
   ("ls-remote", .listRemote)]

/-- The options without values. -/
def Verb.flags : Verb → List String
  | resolve => ["debug", "offline", "all", "register", "json"]
  | scan => ["debug", "json"]
  | registered => ["debug", "json"]
  | listRemote => ["debug", "refresh", "json"]

/-- Whether the command is about an SDK, and so has a name and a kind. -/
def Verb.hasName (verb : Verb) : Bool :=
  verb = resolve

/-- The options and arguments read so far. -/
structure Arguments where
  flags : List String
  name : Option String
  kind : Option String
  /-- The last word was `--kind`, or its value. -/
  openKind : Option (Option String)
  /-- Only arguments follow. -/
  separated : Bool

namespace Arguments

/-- Nothing read yet. -/
def empty : Arguments :=
  ⟨[], none, none, none, false⟩

/-- Completes an option that was just read. -/
def settle (a : Arguments) : Except UsageError Arguments :=
  match a.openKind with
  | none => .ok a
  | some none => .error .missingValue
  | some (some kind) =>
    if a.kind.isSome then .error .repeatedOption
    else .ok { a with kind := some kind, openKind := none }

/-- Adds an option without value. -/
def addFlag (a : Arguments) (flag : String) : Except UsageError Arguments := do
  let a ← a.settle
  if a.flags.contains flag then .error .repeatedOption
  else .ok { a with flags := flag :: a.flags }

/-- Adds an argument: only the name of an SDK is one. -/
def addPlain (verb : Verb) (a : Arguments) (text : String) : Except UsageError Arguments := do
  if verb.hasName && a.name.isNone then
    -- Only now is it certain that the option before the argument is complete.
    let a ← a.settle
    .ok { a with name := some text }
  else .error .unknownArgument

def addLong (verb : Verb) (a : Arguments) (name : String) (value : Option String) :
    Except UsageError Arguments := do
  if name = "kind" ∧ verb.hasName then
    let a ← a.settle
    match value with
    | some value => Arguments.settle { a with openKind := some (some value) }
    | none => .ok { a with openKind := some none }
  else if name = "help" ∨ verb.flags.contains name then
    if value.isSome then .error .needlessValue
    else if name = "help" then
      let _ ← a.settle
      .error .helpWanted
    else a.addFlag name
  else .error .unknownArgument

def addWord (verb : Verb) (a : Arguments) (text : String) : Except UsageError Arguments :=
  if a.separated then a.addPlain verb text
  else
    match Word.of text with
    | .separator => .ok { a with separated := true }
    | .long name value => a.addLong verb name value
    | .short first => do
      if first = 'h' then
        let _ ← a.settle
        .error .helpWanted
      else .error .unknownArgument
    | .plain text =>
      -- A plain word after an option that lacks its value is that value.
      if a.openKind = some none then .ok { a with openKind := some (some text) }
      else a.addPlain verb text

/-- The command that a verb and its options state. -/
def toCommand (verb : Verb) (a : Arguments) : Except UsageError Command :=
  let has (flag : String) := a.flags.contains flag
  match verb with
  | .resolve =>
    match a.name with
    | none => .error .missingArgument
    | some name =>
      .ok (.resolve name (a.kind.getD "java") (has "offline") (has "all") (has "register")
        (has "json"))
  | .scan => .ok (.scan (has "json"))
  | .registered => .ok (.registered (has "json"))
  | .listRemote => .ok (.listRemote (has "refresh") (has "json"))

end Arguments

/-- The invocation that a verb and the words after it state. -/
def parseVerb (debug : Bool) (verb : Verb) (rest : List String) :
    Except UsageError Invocation := do
  let a ← rest.foldlM (Arguments.addWord verb) .empty
  let a ← a.settle
  let command ← a.toCommand verb
  .ok ⟨command, debug || a.flags.contains "debug"⟩

/-! ## §4 The whole command line -/

/-- What `help` leads to: the words after it must name one command. -/
def helpOn (rest : List String) : UsageError :=
  match rest with
  | [] => .helpWanted
  | [name] => if name = "help" ∨ (verbs.lookup name).isSome then .helpWanted else .unknownCommand
  | _ => .unknownCommand

/-- Reads the words from the front, where `debug` and `separated` say what came before. -/
def parseFrom (debug separated : Bool) : List String → Except UsageError Invocation
  | [] => .error (if debug then .missingCommand else .nothingWanted)
  | word :: rest =>
    if separated then
      .error (if word = "help" ∨ (verbs.lookup word).isSome then .unknownArgument
        else .unknownCommand)
    else
      match verbs.lookup word with
      | some verb => parseVerb debug verb rest
      | none =>
        if word = "help" then .error (helpOn rest)
        else
          match Word.of word with
          | .separator => parseFrom debug true rest
          | .long name value =>
            if name = "debug" ∨ name = "help" ∨ name = "version" then
              if value.isSome then .error .needlessValue
              else if name = "help" then .error .helpWanted
              else if name = "version" then .error .versionWanted
              else if debug then .error .repeatedOption
              else parseFrom true separated rest
            else .error .unknownArgument
          | .short first =>
            .error (if first = 'h' then .helpWanted
              else if first = 'V' then .versionWanted else .unknownArgument)
          | .plain _ => .error .unknownCommand

/-- The invocation that the words of a command line state. -/
def parse (words : List String) : Except UsageError Invocation :=
  parseFrom false false words

end CommandLine

end JdkFinder

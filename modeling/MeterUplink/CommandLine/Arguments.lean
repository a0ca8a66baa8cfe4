namespace MeterUplink.CommandLine

/-! The arguments of the program. They are looked at from left to right, and the first that cannot
be understood, or that asks for help or the version, decides. -/

structure Arguments where
  settingsPath : Option String := none
  logFile : Option String := none
  port : Option String := none
  dryRun : Bool := false
deriving Repr, DecidableEq

inductive Request where
  | help
  | version
  | start (arguments : Arguments)
deriving Repr, DecidableEq

/-- The options that take a value. -/
inductive ValueOption where
  | settingsPath
  | logFile
  | port
deriving Repr, DecidableEq

namespace Arguments

/-- Sets an option. None may be set twice, and the path of the settings may not be empty. -/
def put? (arguments : Arguments) (option : ValueOption) (value : String) : Option Arguments :=
  match option with
  | .settingsPath =>
    if arguments.settingsPath.isSome || value.isEmpty then none
    else some { arguments with settingsPath := some value }
  | .logFile =>
    if arguments.logFile.isSome then none else some { arguments with logFile := some value }
  | .port => if arguments.port.isSome then none else some { arguments with port := some value }

end Arguments

/-- A dash with something behind it is an option and never a value. -/
def looksLikeOption (text : String) : Bool :=
  match text.toList with
  | '-' :: _ :: _ => true
  | _ => false

/-- What one argument is. -/
inductive Argument where
  | help
  | version
  | dryRun
  | option (option : ValueOption) (attached : Option String)
  /-- Two dashes alone. -/
  | endOfOptions
  | unknown
deriving Repr, DecidableEq

/-- A long name, and what is attached to it with an equals sign. -/
def longArgument (text : List Char) : Argument :=
  let name := String.ofList (text.takeWhile (· ≠ '='))
  let attached :=
    match text.dropWhile (· ≠ '=') with
    | [] => none
    | _ :: value => some (String.ofList value)
  match name, attached with
  | "config", value => .option .settingsPath value
  | "log-file", value => .option .logFile value
  | "port", value => .option .port value
  | "dry-run", none => .dryRun
  | "help", none => .help
  | "version", none => .version
  | _, _ => .unknown

/-- What is attached to a one-letter name, with or without an equals sign. -/
def attachedValue : List Char → Option String
  | [] => none
  | '=' :: value => some (String.ofList value)
  | value => some (String.ofList value)

def shortArgument : List Char → Argument
  | 'h' :: _ => .help
  | 'V' :: _ => .version
  | 'c' :: rest => .option .settingsPath (attachedValue rest)
  | 'l' :: rest => .option .logFile (attachedValue rest)
  | 'p' :: rest => .option .port (attachedValue rest)
  | _ => .unknown

def Argument.ofText (text : String) : Argument :=
  match text.toList with
  | ['-', '-'] => .endOfOptions
  | '-' :: '-' :: long => longArgument long
  | '-' :: short => shortArgument short
  | _ => .unknown

/-- Reads on behind the arguments that were understood. -/
def request? (arguments : Arguments) : List String → Option Request
  | [] => some (.start arguments)
  | text :: rest =>
    match Argument.ofText text with
    | .help => some .help
    | .version => some .version
    | .dryRun => if arguments.dryRun then none else request? { arguments with dryRun := true } rest
    | .option option (some value) => do request? (← arguments.put? option value) rest
    | .option option none =>
      match rest with
      | value :: more =>
        if looksLikeOption value then none else do request? (← arguments.put? option value) more
      | [] => none
    | .endOfOptions => if rest.isEmpty then some (.start arguments) else none
    | .unknown => none

/-- The variable of the environment stands in for a path of settings that is not given. -/
def Arguments.withDefaultPath? (arguments : Arguments) (preset : Option String) :
    Option Arguments :=
  match arguments.settingsPath, preset with
  | none, some path => arguments.put? .settingsPath path
  | _, _ => some arguments

/-- A piece of the help that a terminal would show in bold. -/
def emphasized (text : String) : String := "\x1b[1m" ++ text ++ "\x1b[0m"

/-- A text whose lines behind the first one are indented. -/
def indentLines (width : Nat) (text : String) : String :=
  let lineStart := '\n' :: List.replicate width ' '
  String.ofList (text.toList.flatMap fun c => if c = '\n' then lineStart else [c])

/-- The width of the longest name of an option with its value. -/
def namesWidth : Nat := 21

/-- The line of an option: its short and long name, its value, and what it does. -/
def optionHelp (short : Option String) (long value about : String) : String :=
  let first :=
    match short with
    | some name => "  " ++ emphasized name ++ ", "
    | none => "      "
  let padding := List.replicate (namesWidth - (long.length + value.length)) ' '
  first ++ emphasized long ++ value ++ String.ofList padding ++ "  " ++
    indentLines (namesWidth + 8) about ++ "\n"

/-- The help as for a terminal, with the present value of the variable. -/
def helpText (preset : Option String) : String :=
  let path := preset.getD ""
  "Send meter register readings as Sigfox uplinks via an AT command modem\n\n" ++
  emphasized "Usage:" ++ " " ++ emphasized "meter2sigfox" ++ " [OPTIONS]\n\n" ++
  emphasized "Options:" ++ "\n" ++
  optionHelp (some "-c") "--config" " <CONFIG>"
    s!"Configuration file, defaults to config/m2s.yaml or m2s.yaml [env: M2S_CONFIG={path}]" ++
  optionHelp (some "-l") "--log-file" " <LOG_FILE>"
    "Log file to read instead of the configured one" ++
  optionHelp (some "-p") "--port" " <PORT>"
    "Serial device of the modem instead of the configured one" ++
  optionHelp none "--dry-run" ""
    "Encode and print the chunks without opening the serial port" ++
  optionHelp (some "-h") "--help" "" "Print help" ++
  optionHelp (some "-V") "--version" "" "Print version"

def versionText : String := "meter2sigfox 0.1.0\n"

end MeterUplink.CommandLine

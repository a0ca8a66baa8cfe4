import MeterUplink.Journal
import MeterUplink.Pattern.Meaning
import MeterUplink.Text.Blank

namespace MeterUplink.CommandLine

/-! Which records of the journal are shown. A filter is a list of directives, each a level for the
parts of the program whose path begins with some text, and perhaps a pattern that the text of
every record has to contain. -/

/-- The path under which a part of the program is known to the filter. -/
def originPath : Origin → String
  | .application => "meter2sigfox"
  | .settings => "meter2sigfox::config"
  | .registers => "meter2sigfox::registers"
  | .extraction => "meter2sigfox::extractor"
  | .registerLine => "meter2sigfox::extractor::line_parser"
  | .encoding => "meter2sigfox::encoder"
  | .chunking => "meter2sigfox::encoder::chunks"
  | .session => "meter2sigfox::modem"
  | .serialLine => "meter2sigfox::modem::serial"
  | .deviceDriver => "mio_serial"
  | .run => "meter2sigfox::runner"

/-- The level zero shows nothing, and level `n` the records of rank up to `n`. Without a path the
directive is for all parts of the program. -/
structure Directive where
  path : Option String
  level : Nat
deriving Repr, DecidableEq

/-- What a path has to begin with. -/
def Directive.beginning (directive : Directive) : String := directive.path.getD ""

structure LogFilter where
  directives : List Directive
  pattern : Option Pattern := none
deriving Repr, DecidableEq

/-- The names of the levels, in any case of letters. -/
def levelOf? (text : String) : Option Nat :=
  [("off", 0), ("error", 1), ("warn", 2), ("info", 3), ("debug", 4), ("trace", 5)].lookup
    (String.ofList (text.toList.map Char.toLower))

/-- What one part of the written filter stands for. -/
inductive FilterPart where
  | nothing
  | directive (directive : Directive)
  | wrong (text : String)
deriving Repr, DecidableEq

/-- A level, a path, or both with an equals sign between them; a path alone shows everything. -/
def filterPart (text : String) : FilterPart :=
  match (text.toList.splitOn '=').map String.ofList with
  | [single] =>
    if single.isEmpty then .nothing
    else
      match levelOf? single with
      | some level => .directive ⟨none, level⟩
      | none => .directive ⟨some single, 5⟩
  | [path, level] =>
    let level := Text.trimmed level
    if level.isEmpty then .directive ⟨some path, 5⟩
    else
      match levelOf? level with
      | some rank => .directive ⟨some path, rank⟩
      | none => .wrong level
  | _ => .wrong text

/-- A directive replaces an earlier one for the same path. -/
def addDirective (directives : List Directive) (directive : Directive) : List Directive :=
  if directives.any (·.path == directive.path) then
    directives.map fun other => if other.path = directive.path then directive else other
  else directives ++ [directive]

def warning (complaint : String) : String := s!"warning: {complaint}, ignoring it"

/-- The warning about a part of the filter that is not understood. -/
def partWarning (part : String) : String := warning s!"invalid logging spec '{part}'"

/-- The parts between the commas, one after another, and the warnings about them. -/
def addParts (directives : List Directive) : List String → List Directive × List String
  | [] => (directives, [])
  | text :: rest =>
    match filterPart text with
    | .nothing => addParts directives rest
    | .directive directive => addParts (addDirective directives directive) rest
    | .wrong part =>
      let (found, warnings) := addParts directives rest
      (found, partWarning part :: warnings)

/-- The pattern of a filter, or the warning about it. -/
def filterPattern (text : String) : Option Pattern × List String :=
  match Pattern.ofText text with
  | .ok pattern => (some pattern, [])
  | .error refusal => (none, [warning s!"invalid regex filter - {refusal.message text}"])

/-- Without any directive only errors are shown. -/
def orErrors (directives : List Directive) : List Directive :=
  if directives.isEmpty then [⟨none, 1⟩] else directives

/-- Reads a filter: directives between commas, and behind a slash the pattern. -/
def LogFilter.ofText (text : String) : LogFilter × List String :=
  let directives (parts : List Char) : List Directive × List String :=
    addParts [] ((parts.splitOn ',').map fun part => String.ofList (Text.trim part))
  match text.toList.splitOn '/' with
  | [parts] =>
    let (found, warnings) := directives parts
    (⟨orErrors found, none⟩, warnings)
  | [parts, written] =>
    let (found, warnings) := directives parts
    let (pattern, faults) := filterPattern (String.ofList written)
    (⟨orErrors found, pattern⟩, warnings ++ faults)
  | _ => (⟨orErrors [], none⟩, [warning s!"invalid logging spec '{text}' (too many '/'s)"])

namespace LogFilter

/-- Of the directives whose path fits, the one with the longest path; of two, the later one. -/
def best? (target : String) : List Directive → Option Directive
  | [] => none
  | directive :: rest =>
    let later := best? target rest
    if directive.beginning.toList.isPrefixOf target.toList then
      match later with
      | some other =>
        if directive.beginning.utf8ByteSize ≤ other.beginning.utf8ByteSize then some other
        else some directive
      | none => some directive
    else later

/-- Whether records of this level and origin are shown, as far as the directives say. -/
def enables (filter : LogFilter) (level : Level) (origin : Origin) : Bool :=
  match best? (originPath origin) filter.directives with
  | some directive => level.rank ≤ directive.level
  | none => false

def shows (filter : LogFilter) (record : Record) : Bool :=
  filter.enables record.level record.origin && filter.pattern.all (·.occursIn record.text)

end LogFilter

/-- The line of a record: level and path in brackets, then the text. Further lines of the text
are indented. -/
def recordLine (record : Record) : String :=
  let level := record.level.name
  let padding := String.ofList (List.replicate (5 - level.length) ' ')
  let text := record.text.toList.flatMap fun c => if c = '\n' then "\n    ".toList else [c]
  s!"[{level}{padding} {originPath record.origin}] {String.ofList text}"

end MeterUplink.CommandLine

import ConstantCatalog.Arena
import ConstantCatalog.Constant.Basic
import ConstantCatalog.Overlay.DeclaredType
import ConstantCatalog.Settings.Dialect

/-!
Contract: what the library reports while it works, apart from its answers.

Owns: `Event` with severity, channel and message, and the line that shows an event.

Does not own: which events are shown, or where.
-/

namespace ConstantCatalog

inductive Severity where
  | debug
  | info
  | warning
  | error
deriving DecidableEq, Repr

namespace Severity

def rank : Severity → Nat
  | debug => 0
  | info => 1
  | warning => 2
  | error => 3

def label : Severity → String
  | debug => "DEBUG"
  | info => "INFO"
  | warning => "WARNING"
  | error => "ERROR"

def atLeast (severity threshold : Severity) : Bool :=
  decide (threshold.rank ≤ severity.rank)

end Severity

/-- The part of the library that an event comes from. -/
inductive Channel where
  | constantLines
  | typeLines
  | stores
  | resolution
  | lifecycle
deriving DecidableEq, Repr

def Channel.label : Channel → String
  | .constantLines => "slua_builtins.parsing.constant_parser"
  | .typeLines => "slua_builtins.parsing.overlay_parser"
  | .stores => "slua_builtins.database"
  | .resolution => "slua_builtins.resolver"
  | .lifecycle => "slua_builtins.context"

/-- Something worth reporting. -/
inductive Event where
  /-- A line of bytes is not UTF-8 and is passed over. -/
  | undecodableLine (bytes : List UInt8)
  /-- A line does not have the shape of a constant declaration. -/
  | foreignLine (line : String)
  | unsupportedKeyword (name keyword : String)
  /-- The value of a constant does not fit its keyword. -/
  | malformedValue (name keyword value : String)
  /-- A type declaration lacks a proper name or a label. -/
  | malformedTypeLine (line : String)
  | unrecognizedLabel (name label : String)
  | constantsLoaded (count : Nat) (bytes : Int)
  | typesLoaded (count : Nat)
  /-- A constant cannot take its declared type and keeps its own kind. -/
  | nativeKindKept (name : String) (kind : ConstantKind) (declared : DeclaredType)
  /-- The name of a global could not be copied. -/
  | globalSkipped (name : String) (cause : ArenaExhausted)
  | fileUnopened (path : String)
  | fileTooLarge (path : String)
  | fileUndecodable (path : String)
  /-- A context holds a newly loaded catalog. -/
  | initialized (dialect : Dialect) (constants types : Nat)
deriving DecidableEq, Repr

namespace Event

def severity : Event → Severity
  | undecodableLine _ | foreignLine _ | unsupportedKeyword _ _ | malformedValue _ _ _
  | malformedTypeLine _ | unrecognizedLabel _ _ | nativeKindKept _ _ _ => .debug
  | constantsLoaded _ _ | typesLoaded _ | initialized _ _ _ => .info
  | globalSkipped _ _ => .warning
  | fileUnopened _ | fileTooLarge _ | fileUndecodable _ => .error

def channel : Event → Channel
  | undecodableLine _ | foreignLine _ | unsupportedKeyword _ _ | malformedValue _ _ _ =>
      .constantLines
  | malformedTypeLine _ | unrecognizedLabel _ _ => .typeLines
  | constantsLoaded _ _ | typesLoaded _ => .stores
  | nativeKindKept _ _ _ | globalSkipped _ _ => .resolution
  | fileUnopened _ | fileTooLarge _ | fileUndecodable _ | initialized _ _ _ => .lifecycle

def message : Event → String
  | undecodableLine bytes => "Skipping line that is not UTF-8: " ++ quotedBytes bytes
  | foreignLine line => "Skipping non-declaration line: " ++ quoted line
  | unsupportedKeyword name keyword =>
      "Skipping " ++ name ++ ": unsupported type '" ++ keyword ++ "'"
  | malformedValue name keyword value =>
      "Skipping " ++ name ++ ": malformed " ++ keyword ++ " value " ++ quoted value
  | malformedTypeLine line => "Skipping malformed declaration: " ++ quoted line
  | unrecognizedLabel name label =>
      "Recording " ++ name ++ " with unrecognized type '" ++ label ++ "'"
  | constantsLoaded count bytes => s!"Parsed {count} constants ({bytes} bytes)"
  | typesLoaded count => s!"Parsed {count} type declarations"
  | nativeKindKept name kind declared =>
      name ++ ": " ++ kind.name ++ " constant cannot be published as " ++
        declared.name ++ ", using native kind"
  | globalSkipped name cause => "Skipping global " ++ name ++ ": " ++ cause.message
  | fileUnopened path => "couldn't open declaration file: " ++ path
  | fileTooLarge path => "declaration file too large: " ++ path
  | fileUndecodable path => "declaration file is not UTF-8: " ++ path
  | initialized dialect constants types =>
      "Initialized " ++ dialect.name ++ s!" builtins: {constants} constants, " ++
        s!"{types} type declarations"

def line (event : Event) : String :=
  event.severity.label ++ " " ++ event.channel.label ++ ": " ++ event.message

end Event

end ConstantCatalog

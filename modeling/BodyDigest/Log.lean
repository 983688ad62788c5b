import BodyDigest.Registry
import BodyDigest.Fingerprint
import BodyDigest.Number.Binary64

/-! What a run reports of itself. -/
namespace BodyDigest

inductive Severity where
  | debug
  | info
  | warning
  | error
  | critical
  deriving DecidableEq

def Severity.name : Severity → Text
  | .debug => "DEBUG"
  | .info => "INFO"
  | .warning => "WARNING"
  | .error => "ERROR"
  | .critical => "CRITICAL"

def Severity.rank : Severity → Nat
  | .debug => 10
  | .info => 20
  | .warning => 30
  | .error => 40
  | .critical => 50

structure LogLine where
  severity : Severity
  text : Text

namespace LogLine

/-- Lines at least as severe as `least`. -/
def atLeast (least : Severity) (ls : List LogLine) : List LogLine :=
  ls.filter fun l => least.rank ≤ l.severity.rank

/-- A line as the console shows it. -/
def console (l : LogLine) : Text := ("[hashstamp] " : Text) ++ l.severity.name ++ " " ++ l.text

end LogLine

/-- The counts of a registry and of the dropped descriptors, and how long the run took. -/
def summaryLine (r : Registry) (dropped : Nat) (elapsed : Text) : LogLine :=
  ⟨.info, ("Fingerprinted " : Text) ++ Text.ofNat r.size ++ " members in "
    ++ Text.ofNat r.types.length ++ " types across " ++ Text.ofNat r.scopes.length
    ++ " namespaces in " ++ elapsed ++ "s (" ++ Text.ofNat dropped ++ " dropped)"⟩

def droppedLine (d : Descriptor) : LogLine :=
  let place : Text := (d.location.map Location.text).getD "<unknown>"
  ⟨.debug, ("Dropped " : Text) ++ d.signature ++ " at " ++ place
    ++ ": enclosing namespace or type unknown"⟩

/-- The summary of a run, and a line for each descriptor that it dropped. -/
def runSummary (r : Registry) (dropped : List Descriptor) (elapsed : Text) : List LogLine :=
  summaryLine r dropped.length elapsed :: dropped.map droppedLine

/-- Seconds with two places, rounded from the binary number nearest to `digits * 10 ^ exponent`. -/
def secondsText (negative : Bool) (digits : Nat) (exponent : Int) : Text :=
  match Binary64.ofDecimal digits exponent with
  | .infinite => "inf"
  | .finite m e =>
    let (num, den) := Binary64.fraction m e
    let hundredths := Binary64.roundQuotient (num * 100) den
    let places := Text.ofNat (hundredths % 100)
    let sign : Text := if negative then "-" else []
    let zero : Text := if places.length = 1 then "0" else []
    sign ++ Text.ofNat (hundredths / 100) ++ "." ++ zero ++ places

/-! ### Loggers -/

/-- The lines of one logger. -/
structure Message where
  logger : Option Text
  line : LogLine

/-- A logger below the tool's own. -/
def loggerName (name : Option Text) : Text :=
  match name with
  | some (c :: rest) => ("hashstamp." : Text) ++ (c :: rest)
  | _ => "hashstamp"

/-- What a log file holds of a message at the time `time`. -/
def fileLine (time : Text) (m : Message) : Text :=
  time ++ " " ++ m.line.severity.name ++ " " ++ loggerName m.logger ++ ": " ++ m.line.text

/-- The number of places that messages go to: the console, and a file if there is one. -/
def sinkCount (toFile : Bool) : Nat := if toFile then 2 else 1

/-- The least severity that is shown. -/
def threshold (verbose : Bool) : Severity := if verbose then .debug else .info

def shownMessages (verbose : Bool) (ms : List Message) : List Message :=
  ms.filter fun m => (threshold verbose).rank ≤ m.line.severity.rank

end BodyDigest

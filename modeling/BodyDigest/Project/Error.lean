import BodyDigest.Files.Scan
import BodyDigest.Indented.Value
import BodyDigest.Project.Discovery
import BodyDigest.Run
import BodyDigest.Settings

/-! Why a command on a project fails. -/
namespace BodyDigest

inductive CommandError where
  | path (e : Path.Fault)
  | settings (e : Settings.Error)
  | discovery (e : Discovery.Error)
  | scan (e : Scan.ScanError)
  | describe (e : DescribeError)
  | run (e : RunError)
  | read (e : ReadError)
  | registry (target : Path) (e : Indented.ModuleError)
  | write (e : AccessError) (path : Path)
  | unencodable (run : Utf8.SurrogateRun)
  deriving DecidableEq

def DescribeError.message : DescribeError → Text
  | .path e => e.message
  | .read e => e.message
  | .members (.source .nullCharacter) => Indented.nullCharacterMessage
  | .members (.source _) => "invalid syntax"
  | .members (.render _) => Settings.tooManyDigitsMessage
  | .members (.slice e) => e.message

namespace CommandError

def message : CommandError → Text
  | .path e => e.message
  | .settings e => e.message
  | .discovery e => e.message
  | .scan e => e.message
  | .describe e => e.message
  | .run e => e.message
  | .read e => e.message
  | .registry target e =>
    match e with
    | .noRegistry => target.text ++ " " ++ e.message
    | _ => e.message
  | .write e p => e.message p
  | .unencodable found => found.message

/-! ### Which failures a command reports -/

def ofAccess : AccessError → Bool
  | .missing | .notDirectory => true
  | .occupied | .isDirectory => false

def ofRead : ReadError → Bool
  | .access e _ => ofAccess e
  | .encoding _ => true

def ofYaml : Yaml.Fault → Bool
  | .malformed | .badNumber | .badDate => true
  | .noCodePoint tooLarge => !tooLarge
  | .noNumber | .notDate | .notBool _ => false

def ofSettings : Settings.Error → Bool
  | .read e => ofRead e
  | .badValue e => ofYaml e
  | _ => true

def ofScan : Scan.ScanError → Bool
  | .ignoreFile e => ofRead e
  | _ => true

def ofSource : Indented.SourceError → Bool
  | .malformed => false
  | .loneSurrogate | .nullCharacter => true

def ofDescribe : DescribeError → Bool
  | .members (.source e) => ofSource e
  | .read e => ofRead e
  | _ => true

def ofRun : RunError → Bool
  | .emission (.template (.encoding _)) => true
  | .emission (.template _) => false
  | _ => true

def ofModule : Indented.ModuleError → Bool
  | .source e => ofSource e
  | .noRegistry | .value .malformed | .mapping (.notPair _) | .mapping (.collision _) => true
  | .value .unhashable | .mapping _ => false

/-- Whether a command ends with a message about the failure. All others are defects of the project
that it has no words for. -/
def isReported : CommandError → Bool
  | .settings e => ofSettings e
  | .discovery (.unknown _) => true
  | .discovery _ => false
  | .scan e => ofScan e
  | .describe e => ofDescribe e
  | .run e => ofRun e
  | .read e => ofRead e
  | .registry _ e => ofModule e
  | .write e _ => ofAccess e
  | .path _ | .unencodable _ => true

end CommandError

end BodyDigest

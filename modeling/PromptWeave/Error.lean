import PromptWeave.Files.Path
import PromptWeave.Json.Printer
import PromptWeave.Json.Raw
import PromptWeave.Provider.Basic
import PromptWeave.Text.Sanitize

/-! What can go wrong, by cause, and how it is told. -/
namespace PromptWeave

/-- Why the file system refuses a request. -/
inductive OsError
  | notFound
  | notADirectory
  | isADirectory
  | tooManyLinks
  | notUtf8
  | other (text : String)
deriving DecidableEq, Repr

def OsError.message : OsError → String
  | .notFound => "No such file or directory (os error 2)"
  | .notADirectory => "Not a directory (os error 20)"
  | .isADirectory => "Is a directory (os error 21)"
  | .tooManyLinks => "Too many levels of symbolic links (os error 40)"
  | .notUtf8 => "stream did not contain valid UTF-8"
  | .other text => text

/-- Why a name pattern is not safe to run. -/
inductive Hazard
  | tooLong (limit : Nat)
  | nestedQuantifier
  | overlappingBranches
deriving DecidableEq, Repr

def Hazard.message : Hazard → String
  | .tooLong limit => s!"longer than {limit} characters"
  | .nestedQuantifier => "nested quantifier"
  | .overlappingBranches => "quantified alternation with overlapping branches"

/-- Why a schema does not fit a provider. -/
inductive SchemaFault
  | toolNotObject (type : Json)
  | referenceNotString (reference : Json)
  | recursiveReference (path : String)
  | unresolvedReference (path : String)
  | referenceNotObject (path : String) (target : Json)
  | typeUnion (type : Json)
deriving DecidableEq, Repr

def SchemaFault.message : SchemaFault → String
  | .toolNotObject type => "tool input must be an object schema, got type " ++ type.compact
  | .referenceNotString reference => "$ref " ++ reference.compact ++ " is not a string"
  | .recursiveReference path => "recursive $ref " ++ path ++ " cannot be inlined"
  | .unresolvedReference path => "$ref " ++ path ++ " does not resolve to a local definition"
  | .referenceNotObject path target =>
    "$ref " ++ path ++ " points at " ++ target.compact ++ ", not a schema object"
  | .typeUnion type => "type union " ++ type.compact ++ " cannot be expressed"

/-- Why a response cannot be used. -/
inductive ResponseFault
  | malformed (fault : Json.Fault)
  | reported (message : String)
deriving DecidableEq, Repr

def ResponseFault.message : ResponseFault → String
  | .malformed fault => "malformed body: " ++ fault.message
  | .reported message => message

/-- Why a structured result is rejected. -/
inductive OutputFault
  | notJson (name : String) (fault : Json.Fault)
  | invalid (name : String) (violations : List String)
deriving DecidableEq, Repr

def OutputFault.message : OutputFault → String
  | .notJson name fault => "'" ++ name ++ "' is not valid JSON: " ++ fault.message
  | .invalid name violations => "'" ++ name ++ "' failed validation: " ++ joinWith "; " violations

/-- Why a configuration cannot be used. -/
inductive ConfigFault
  | unknownProvider (name : String)
  | unusablePattern (pattern : String) (detail : String)
  | badRecipe (fault : Json.Fault)
  | badRecipeFile (path : Path) (fault : Json.Fault)
  | templateCycle (chain : List String) (name : String)
  | templatesTooDeep (limit : Nat)
  | unknownTemplate (name : String)
deriving DecidableEq, Repr

def ConfigFault.message : ConfigFault → String
  | .unknownProvider name => "unknown provider '" ++ name ++ "'"
  | .unusablePattern pattern detail =>
    "pattern '" ++ pattern ++ "' is neither a regex nor a glob: " ++ detail
  | .badRecipe fault => "invalid recipe: " ++ fault.message
  | .badRecipeFile path fault => "invalid recipe '" ++ path.text ++ "': " ++ fault.message
  | .templateCycle chain name => "template cycle: " ++ joinWith " -> " chain ++ " -> " ++ name
  | .templatesTooDeep limit => s!"templates nested deeper than {limit} levels"
  | .unknownTemplate name => "unknown template '" ++ name ++ "'"

inductive Error
  | fileRead (path : Path) (cause : OsError)
  | indexOutOfRange (index length : Nat)
  | unsafePattern (pattern : String) (hazard : Hazard)
  | schemaTranslation (provider : Provider) (fault : SchemaFault)
  | missingText
  | overrideNotAllowed (path : Path)
  | invalidResponse (provider : Provider) (fault : ResponseFault)
  | structuredOutput (fault : OutputFault)
  | config (fault : ConfigFault)
  | json (fault : Json.Fault)
deriving DecidableEq, Repr

namespace Error

def message : Error → String
  | .fileRead path cause => "failed to read '" ++ path.text ++ "': " ++ cause.message
  | .indexOutOfRange index length =>
    s!"index {index} is out of range for a section with {length} item(s)"
  | .unsafePattern pattern hazard => "unsafe pattern '" ++ pattern ++ "': " ++ hazard.message
  | .schemaTranslation provider fault =>
    "cannot adapt structured-output schema for " ++ provider.name ++ ": " ++ fault.message
  | .missingText => "weighted text requires a \x60text\x60 value"
  | .overrideNotAllowed path =>
    "full override '" ++ path.text ++ "' found but full overrides are disabled"
  | .invalidResponse provider fault =>
    "invalid " ++ provider.name ++ " response: " ++ fault.message
  | .structuredOutput fault => "structured output rejected: " ++ fault.message
  | .config fault => "invalid configuration: " ++ fault.message
  | .json fault => fault.message

/-- The message without directories. -/
def sanitized (e : Error) : String := sanitizePaths e.message

end Error

/-- The provider with a name. -/
def Provider.ofName (s : String) : Except Error Provider :=
  match Provider.ofName? s with
  | some p => .ok p
  | none => .error (.config (.unknownProvider (asciiLower s)))

end PromptWeave

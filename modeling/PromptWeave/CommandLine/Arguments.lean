import PromptWeave.Files.Path
import PromptWeave.Json.Reader
import PromptWeave.Render

/-! Arguments of the command.
An option is written `--name value` or `--name=value`. A value that follows its name does not begin
with a dash, unless it is a lone one. Flags and options with a single value are given at most once,
and there are no arguments besides options. -/
namespace PromptWeave
namespace CommandLine

structure Arguments where
  recipe : Option Path
  templates : Option Path
  persona : Option String
  personaFile : Option Path
  instructions : List String
  instructionsFiles : List Path
  context : List Path
  content : List String
  fromInput : Bool
  parameters : List (String × Json)
  overrideDirectories : List Path
  allowFull : Bool
  schema : Option Path
  schemaName : String
  model : String
  areaStyle : SectionStyle
  sectionStyle : SectionStyle
  indent : Bool
  neutral : Bool
  response : Option Path

def Arguments.standard : Arguments where
  recipe := none
  templates := none
  persona := none
  personaFile := none
  instructions := []
  instructionsFiles := []
  context := []
  content := []
  fromInput := false
  parameters := []
  overrideDirectories := []
  allowFull := false
  schema := none
  schemaName := "response"
  model := "gpt-4o"
  areaStyle := .tag
  sectionStyle := .markdown
  indent := false
  neutral := false
  response := none

instance : Inhabited Arguments := ⟨.standard⟩

/-- What an option does; a value may be refused. -/
inductive Setting
  | flag (set : Arguments → Arguments)
  | single (set : Arguments → String → Option Arguments)
  | many (add : Arguments → String → Option Arguments)

/-- Any path but the empty one. -/
def path? (value : String) : Option Path := if value = "" then none else some ⟨value⟩

/-- A parameter as `key=value`, the value being JSON or else the text as it is. -/
def parameter? (value : String) : Option (String × Json) := do
  let (key, text) ← Text.cutAt? '=' value.toList
  let key := Text.trim key
  if key.isEmpty then none
  else
    let text := String.ofList text
    return (String.ofList key, match Json.read text with
      | .ok v => v
      | .error _ => .str text)

def settings : List (String × Setting) := [
  ("recipe", .single fun a s => do return { a with recipe := some (← path? s) }),
  ("templates", .single fun a s => do return { a with templates := some (← path? s) }),
  ("persona", .single fun a s => some { a with persona := some s }),
  ("persona-file", .single fun a s => do return { a with personaFile := some (← path? s) }),
  ("instructions", .many fun a s => some { a with instructions := a.instructions ++ [s] }),
  ("instructions-file", .many fun a s => do
    return { a with instructionsFiles := a.instructionsFiles ++ [← path? s] }),
  ("context", .many fun a s => do return { a with context := a.context ++ [← path? s] }),
  ("content", .many fun a s => some { a with content := a.content ++ [s] }),
  ("stdin", .flag fun a => { a with fromInput := true }),
  ("param", .many fun a s => do return { a with parameters := a.parameters ++ [← parameter? s] }),
  ("override-dir", .many fun a s => do
    return { a with overrideDirectories := a.overrideDirectories ++ [← path? s] }),
  ("allow-full-override", .flag fun a => { a with allowFull := true }),
  ("schema", .single fun a s => do return { a with schema := some (← path? s) }),
  ("schema-name", .single fun a s => some { a with schemaName := s }),
  ("model", .single fun a s => some { a with model := s }),
  ("area-style", .single fun a s => do return { a with areaStyle := ← SectionStyle.ofName? s }),
  ("section-style", .single fun a s => do
    return { a with sectionStyle := ← SectionStyle.ofName? s }),
  ("indent", .flag fun a => { a with indent := true }),
  ("neutral", .flag fun a => { a with neutral := true }),
  ("response", .single fun a s => do return { a with response := some (← path? s) })]

/-- Why there are no arguments to run with. -/
inductive Refusal
  | help
  | misuse
deriving DecidableEq, Repr

/-- How far the arguments have been read. -/
structure Progress where
  arguments : Arguments
  /-- The options given so far. -/
  seen : List String
  /-- What to do with the value that has to come next. -/
  waiting : Option (Arguments → String → Option Arguments)
  /-- Whether a bare double dash has ended the options. -/
  ended : Bool

def Progress.start : Progress := ⟨.standard, [], none, false⟩

/-- The part behind the dashes as the name and the value behind an equals sign. -/
def splitOption (cs : List Char) : String × Option String :=
  match Text.cutAt? '=' cs with
  | some (name, value) => (String.ofList name, some (String.ofList value))
  | none => (String.ofList cs, none)

def Progress.use (p : Progress) (set : Arguments → String → Option Arguments) (value : String) :
    Except Refusal Progress :=
  match set p.arguments value with
  | some a => .ok { p with arguments := a, waiting := none }
  | none => .error .misuse

/-- Takes a value now or with the next argument. -/
def Progress.expect (p : Progress) (set : Arguments → String → Option Arguments) :
    Option String → Except Refusal Progress
  | some value => p.use set value
  | none => .ok { p with waiting := some set }

def Progress.option (p : Progress) (name : String) (value : Option String) :
    Except Refusal Progress :=
  let again := p.seen.contains name
  let p := { p with seen := name :: p.seen }
  match settings.lookup name, value with
  | none, none => .error (if name = "help" then .help else .misuse)
  | some (.flag set), none =>
    if again then .error .misuse else .ok { p with arguments := set p.arguments }
  | some (.single set), value => if again then .error .misuse else p.expect set value
  | some (.many add), value => p.expect add value
  | _, some _ => .error .misuse

def Progress.read (p : Progress) (word : String) : Except Refusal Progress :=
  match p.waiting with
  | some set =>
    if word.toList.head? = some '-' ∧ word ≠ "-" then .error .misuse else p.use set word
  | none =>
    if p.ended then .error .misuse
    else match word.toList with
      | ['-', '-'] => .ok { p with ended := true }
      | '-' :: '-' :: cs =>
        let (name, value) := splitOption cs
        p.option name value
      | ['-', 'h'] => .error .help
      | _ => .error .misuse

/-- The arguments that a list of words gives. -/
def Arguments.ofWords (words : List String) : Except Refusal Arguments := do
  let p ← words.foldlM Progress.read Progress.start
  if p.waiting.isSome then throw .misuse
  return p.arguments

/-- One line for each option. -/
def usage : String :=
  let line : String × Setting → String
    | (name, .flag _) => "  --" ++ name ++ "\n"
    | (name, _) => "  --" ++ name ++ " <VALUE>\n"
  "Usage: promptweave [OPTIONS]\n\nOptions:\n" ++ String.join (settings.map line)

end CommandLine
end PromptWeave

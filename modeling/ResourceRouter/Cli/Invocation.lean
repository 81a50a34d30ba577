import ResourceRouter.Cli.Options
import ResourceRouter.Verb

set_option autoImplicit false

/-!
The command line of the program: options that hold for every command, the name of a command, and
the arguments of that command.
-/

namespace ResourceRouter.Cli

/-- What the program is asked to do. -/
inductive Command where
  /-- Reads an href. -/
  | locate (href : String)
  /-- Compiles a filter on a type. -/
  | filter (typeName : String) (clauses : List String)
  /-- Prepares the operation that a request asks for; the body is still a text. -/
  | resolve (verb : Verb) (path : String) (body : Option String)
      (filters selection grants : List String)
deriving DecidableEq, Repr

/-- Options that may stand before and after the name of a command. -/
structure Shared where
  config : Option String
  verbose : Bool
deriving DecidableEq, Repr

structure Invocation where
  shared : Shared
  command : Command
deriving DecidableEq, Repr

/-- Arguments of a level that also has the shared options. -/
structure Draft (σ : Type) where
  shared : Shared
  own : σ

namespace Draft

variable {σ : Type}

def start (own : σ) : Draft σ := ⟨⟨none, false⟩, own⟩

/-- Every option is given at most once at a level. The path of a configuration is not empty. -/
def setConfig (draft : Draft σ) (path : String) : Except Stop (Draft σ) :=
  if draft.shared.config.isSome || path.isEmpty then .error .usage
  else .ok { draft with shared := { draft.shared with config := some path } }

def setVerbose (draft : Draft σ) : Except Stop (Draft σ) :=
  if draft.shared.verbose then .error .usage
  else .ok { draft with shared := { draft.shared with verbose := true } }

/-- The options that every level has. -/
def rules : List (OptionRule (Draft σ)) :=
  [⟨"config", some 'c', .value setConfig⟩, ⟨"verbose", some 'v', .flag setVerbose⟩,
    ⟨"help", some 'h', .flag fun _ => .error .help⟩]

end Draft

/-- An option with a value that is given at most once. -/
def OptionRule.once {σ : Type} (long : String) (get : σ → Option String) (set : σ → String → σ) :
    OptionRule (Draft σ) :=
  ⟨long, none, .value fun draft value =>
    if (get draft.own).isSome then .error .usage
    else .ok { draft with own := set draft.own value }⟩

/-- An option with a value that may be given again. -/
def OptionRule.repeated {σ : Type} (long : String) (add : σ → String → σ) : OptionRule (Draft σ) :=
  ⟨long, none, .value fun draft value => .ok { draft with own := add draft.own value }⟩

/-- The shared options of two levels; the inner one counts. -/
def Shared.within (outer inner : Shared) : Shared :=
  ⟨inner.config.or outer.config, inner.verbose || outer.verbose⟩

/-- The level before the name of a command. -/
def programLevel : Level (Draft Unit) where
  rules := Draft.rules ++ [⟨"version", some 'V', .flag fun _ => .error .version⟩]
  word _ _ := .error .usage
  endsAtWord := true

/-- The level of an href. -/
def locateLevel : Level (Draft (Option String)) where
  rules := Draft.rules
  word draft word :=
    if draft.own.isSome then .error .usage else .ok { draft with own := some word }
  endsAtWord := false

/-- The arguments of a filter while they are read. -/
structure FilterDraft where
  typeName : Option String
  clauses : List String

def filterLevel : Level (Draft FilterDraft) where
  rules := Draft.rules ++
    [.once "type" (·.typeName) fun draft value => { draft with typeName := some value }]
  word draft word :=
    .ok { draft with own := { draft.own with clauses := draft.own.clauses ++ [word] } }
  endsAtWord := false

/-- The arguments of a request while they are read. -/
structure ResolveDraft where
  verb : Option Verb
  path : Option String
  body : Option String
  filters : List String
  selection : List String
  grants : List String

/-- The parts of a text between commas. -/
def commaParts (text : String) : List String := (text.toList.splitOn ',').map String.ofList

/-- Sets the verb of a request. -/
def setVerb (draft : Draft ResolveDraft) (text : String) : Except Stop (Draft ResolveDraft) :=
  match draft.own.verb, Verb.parse? text with
  | none, some verb => .ok { draft with own := { draft.own with verb := some verb } }
  | _, _ => .error .usage

def resolveLevel : Level (Draft ResolveDraft) where
  rules := Draft.rules ++
    [⟨"verb", none, .value setVerb⟩,
      .once "path" (·.path) fun draft value => { draft with path := some value },
      .once "body" (·.body) fun draft value => { draft with body := some value },
      .repeated "filter" fun draft value => { draft with filters := draft.filters ++ [value] },
      .repeated "attributes" fun draft value =>
        { draft with selection := draft.selection ++ commaParts value },
      .repeated "grant" fun draft value => { draft with grants := draft.grants ++ [value] }]
  word _ _ := .error .usage
  endsAtWord := false

namespace Invocation

/-- Reads the arguments of a command. -/
def ofLevel {σ : Type} (outer : Shared) (level : Level (Draft σ)) (own : σ)
    (arguments : List String) (command? : σ → Option Command) : Except Stop Invocation := do
  let (draft, _) ← level.read (.start own) arguments
  match command? draft.own with
  | some command => return ⟨outer.within draft.shared, command⟩
  | none => .error .usage

/-- The command of complete arguments of a filter. -/
def filterCommand? (draft : FilterDraft) : Option Command :=
  if draft.clauses.isEmpty then none
  else draft.typeName.map fun typeName => .filter typeName draft.clauses

/-- The command of complete arguments of a request. Without a grant, everything is granted. -/
def resolveCommand? (draft : ResolveDraft) : Option Command := do
  let verb ← draft.verb
  let path ← draft.path
  let grants := if draft.grants.isEmpty then ["*"] else draft.grants
  return .resolve verb path draft.body draft.filters draft.selection grants

/-- The names of the commands. -/
def commandNames : List String := ["locate", "filter", "resolve", "help"]

/-- Reads a command line without the name of the program. -/
def parse (arguments : List String) : Except Stop Invocation := do
  let (program, rest) ← programLevel.read (.start ()) arguments
  match rest with
  | "locate" :: rest =>
    ofLevel program.shared locateLevel none rest fun href => href.map Command.locate
  | "filter" :: rest => ofLevel program.shared filterLevel ⟨none, []⟩ rest filterCommand?
  | "resolve" :: rest =>
    ofLevel program.shared resolveLevel ⟨none, none, none, [], [], []⟩ rest resolveCommand?
  | ["help"] => .error .help
  | ["help", name] => .error (if commandNames.contains name then .help else .usage)
  | _ => .error .usage

end Invocation

end ResourceRouter.Cli

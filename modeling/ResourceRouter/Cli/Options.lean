set_option autoImplicit false

/-!
Options on a command line. An option is a flag, or it takes one value: the text attached to it, or
else the next argument. Nothing that looks like an option itself is taken for a value; after two
hyphens, every argument is a plain word.
-/

namespace ResourceRouter.Cli

/-- Why a command line leads to no command. -/
inductive Stop where
  | usage
  | help
  | version
deriving DecidableEq, Repr

/-- What an option does to what is read so far. -/
inductive Effect (σ : Type) where
  | flag (set : σ → Except Stop σ)
  | value (set : σ → String → Except Stop σ)

/-- An option under its long name and, if it has one, its letter. -/
structure OptionRule (σ : Type) where
  long : String
  letter : Option Char
  effect : Effect σ

/-- The options of a command and the meaning of its words. -/
structure Level (σ : Type) where
  rules : List (OptionRule σ)
  word : σ → String → Except Stop σ
  /-- The first word ends the level and is left to be read. -/
  endsAtWord : Bool

/-- The form of an argument. -/
inductive Argument where
  | long (name : List Char) (attached : Option (List Char))
  | letters (cluster : List Char)
  | word
deriving DecidableEq, Repr

/-- The form of an argument that is not two hyphens alone. -/
def Argument.ofText (text : String) : Argument :=
  match text.toList with
  | '-' :: '-' :: rest =>
    match rest.dropWhile (· != '=') with
    | _ :: value => .long (rest.takeWhile (· != '=')) (some value)
    | [] => .long rest none
  | '-' :: c :: rest => .letters (c :: rest)
  | _ => .word

namespace Level

variable {σ : Type}

/-- What is read so far, with the setter of an option that still needs its value. -/
structure Progress (σ : Type) where
  state : σ
  pending : Option (σ → String → Except Stop σ)

/-- The effect of the option with a long name. -/
def named? (level : Level σ) (name : List Char) : Option (Effect σ) :=
  (level.rules.find? fun rule => rule.long.toList == name).map OptionRule.effect

/-- The effect of the option with a letter. -/
def lettered? (level : Level σ) (letter : Char) : Option (Effect σ) :=
  (level.rules.find? fun rule => rule.letter == some letter).map OptionRule.effect

/-- Takes an option by its long name. -/
def takeLong (level : Level σ) (state : σ) (name : List Char) (attached : Option (List Char)) :
    Except Stop (Progress σ) :=
  match level.named? name, attached with
  | some (.flag set), none => (set state).map fun state => ⟨state, none⟩
  | some (.value set), some value =>
    (set state (String.ofList value)).map fun state => ⟨state, none⟩
  | some (.value set), none => .ok ⟨state, some set⟩
  | _, _ => .error .usage

/-- Takes a cluster of letters. The first one that takes a value has the rest of the cluster for
it, with or without an equals sign. -/
def takeLetters (level : Level σ) (state : σ) : List Char → Except Stop (Progress σ)
  | [] => .ok ⟨state, none⟩
  | c :: rest =>
    match level.lettered? c with
    | none => .error .usage
    | some (.flag set) =>
      match set state with
      | .ok state => takeLetters level state rest
      | .error stop => .error stop
    | some (.value set) =>
      let finish (value : List Char) : Except Stop (Progress σ) :=
        (set state (String.ofList value)).map fun state => ⟨state, none⟩
      match rest with
      | [] => .ok ⟨state, some set⟩
      | '=' :: value => finish value
      | value => finish value

/-- Takes the next argument for the value of an option. -/
def takeValue (set : σ → String → Except Stop σ) (state : σ) (value : String) : Except Stop σ :=
  match Argument.ofText value with
  | .word => set state value
  | _ => .error .usage

mutual

/-- Reads arguments up to the end of the level, and gives what is left of them. -/
def read (level : Level σ) (state : σ) : List String → Except Stop (σ × List String)
  | [] => .ok (state, [])
  | argument :: rest =>
    if argument = "--" then (rest.foldlM level.word state).map fun state => (state, [])
    else
      match Argument.ofText argument with
      | .long name attached =>
        match level.takeLong state name attached with
        | .ok progress => resume level progress rest
        | .error stop => .error stop
      | .letters cluster =>
        match level.takeLetters state cluster with
        | .ok progress => resume level progress rest
        | .error stop => .error stop
      | .word =>
        if level.endsAtWord then .ok (state, argument :: rest)
        else
          match level.word state argument with
          | .ok state => read level state rest
          | .error stop => .error stop
termination_by arguments => (arguments.length, 0)

/-- Goes on after an option. -/
def resume (level : Level σ) : Progress σ → List String → Except Stop (σ × List String)
  | ⟨state, none⟩, rest => read level state rest
  | ⟨_, some _⟩, [] => .error .usage
  | ⟨state, some set⟩, value :: rest =>
    match takeValue set state value with
    | .ok state => read level state rest
    | .error stop => .error stop
termination_by _ rest => (rest.length, 1)

end

end Level

end ResourceRouter.Cli

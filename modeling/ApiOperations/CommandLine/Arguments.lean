/-!
Arguments of a command. An option goes by a long name after two dashes or by a letter after one, and
letters may share a dash. A value stands behind an equals sign, or right behind the letter, or is the
next argument, which then must not look like an option. After two bare dashes every argument stands for
itself. Reading stops at the first request for help and at the first mistake.
-/

namespace ApiOperations.CommandLine

/-- What an option or operand may be. -/
inductive Domain where
  /-- Any text but the empty one. -/
  | text
  | oneOf (words : List String)

def Domain.accepts : Domain → String → Bool
  | text, s => s != ""
  | oneOf words, s => words.contains s

/-- The value of an option. -/
structure Argument where
  placeholder : String
  domain : Domain
  /-- The value when none is given. -/
  usual : Option String

/-- An option, which may be given once. -/
structure Switch where
  long : String
  letter : Option Char
  /-- The value that it takes, if any. -/
  argument : Option Argument
  about : String

/-- An argument that stands for itself and must be given. -/
structure Operand where
  placeholder : String
  domain : Domain
  about : String

/-- What may be said to a command. -/
structure Grammar where
  name : String
  about : String
  switches : List Switch
  operand : Option Operand

/-! ### Reading -/

/-- The form of an argument. -/
inductive Form where
  | dashes
  | long (name : List Char) (value : Option (List Char))
  | letters (cs : List Char)
  | plain

def Form.ofText (s : String) : Form :=
  match s.toList with
  | ['-', '-'] => dashes
  | '-' :: '-' :: cs =>
    let name := cs.takeWhile (· ≠ '=')
    match cs.dropWhile (· ≠ '=') with
    | [] => long name none
    | _ :: value => long name (some value)
  | '-' :: c :: cs => letters (c :: cs)
  | _ => plain

/-- The argument may be the value of the option before it. -/
def isPlain (s : String) : Bool :=
  match Form.ofText s with
  | .plain => true
  | _ => false

/-- Why arguments are not read to their end. -/
inductive Stop where
  | help
  | misuse
  deriving DecidableEq

/-- What has been given so far. -/
structure Given where
  /-- Options by their long names, with their values. -/
  switches : List (String × String)
  operand : Option String

namespace Given

def start : Given := ⟨[], none⟩

def has (g : Given) (long : String) : Bool :=
  (g.switches.lookup long).isSome

/-- Note an option that takes no value. -/
def flag (g : Given) (s : Switch) : Except Stop Given :=
  if g.has s.long then .error .misuse else .ok { g with switches := (s.long, "") :: g.switches }

/-- Note an option with its value. -/
def put (g : Given) (s : Switch) (a : Argument) (value : String) : Except Stop Given :=
  if g.has s.long || !a.domain.accepts value then .error .misuse
  else .ok { g with switches := (s.long, value) :: g.switches }

/-- Note an argument that stands for itself. -/
def putOperand (g : Given) (o : Option Operand) (value : String) : Except Stop Given :=
  match o, g.operand with
  | some o, none =>
    if o.domain.accepts value then .ok { g with operand := some value } else .error .misuse
  | _, _ => .error .misuse

end Given

namespace Grammar

variable (g : Grammar)

/-- Read letters that share a dash; a letter at the end may wait for its value. -/
def readLetters (given : Given) : List Char → Except Stop (Given × Option (Switch × Argument))
  | [] => .ok (given, none)
  | c :: cs =>
    if c = 'h' then .error .help
    else
      match g.switches.find? (·.letter == some c) with
      | none => .error .misuse
      | some s =>
        match s.argument with
        | none =>
          match given.flag s with
          | .error e => .error e
          | .ok given => readLetters given cs
        | some a =>
          match cs with
          | [] => .ok (given, some (s, a))
          | '=' :: value => (given.put s a (String.ofList value)).map (·, none)
          | value => (given.put s a (String.ofList value)).map (·, none)

/-- Read a long option; it may wait for its value. -/
def readLong (given : Given) (name : List Char) (value : Option (List Char)) :
    Except Stop (Given × Option (Switch × Argument)) :=
  if name = "help".toList then .error (if value.isNone then .help else .misuse)
  else
    match g.switches.find? (·.long.toList == name) with
    | none => .error .misuse
    | some s =>
      match s.argument, value with
      | none, none => (given.flag s).map (·, none)
      | none, some _ => .error .misuse
      | some a, none => .ok (given, some (s, a))
      | some a, some value => (given.put s a (String.ofList value)).map (·, none)

/-- Read arguments. An option may be waiting for its value, and two bare dashes may have been met. -/
def read : Given → Option (Switch × Argument) → Bool → List String → Except Stop Given
  | given, none, _, [] =>
    if g.operand.isSome && given.operand.isNone then .error .misuse else .ok given
  | _, some _, _, [] => .error .misuse
  | given, some (s, a), _, value :: rest =>
    if isPlain value then do read (← given.put s a value) none false rest else .error .misuse
  | given, none, true, arg :: rest => do read (← given.putOperand g.operand arg) none true rest
  | given, none, false, arg :: rest =>
    match Form.ofText arg with
    | .dashes => read given none true rest
    | .plain => do read (← given.putOperand g.operand arg) none false rest
    | .long name value => do
      let (given, waiting) ← g.readLong given name value
      read given waiting false rest
    | .letters cs => do
      let (given, waiting) ← g.readLetters given cs
      read given waiting false rest

/-- What the arguments of a command give. -/
def given (args : List String) : Except Stop Given :=
  g.read .start none false args

/-- The value of an option: the one that is given, or else the usual one. -/
def value? (given : Given) (long : String) : Option String :=
  (given.switches.lookup long).or
    (((g.switches.find? (·.long == long)).bind (·.argument)).bind (·.usual))

end Grammar

end ApiOperations.CommandLine

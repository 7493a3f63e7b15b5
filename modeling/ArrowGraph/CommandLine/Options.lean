import ArrowGraph.Text.Quoted

/-!
Options on a command line. All arguments are told apart before any is acted on: options by their
full name, by a beginning that only one long name has, or as one-letter names run together; what
follows two dashes is never an option. Then the arguments are acted on from left to right.
-/
namespace ArrowGraph.CommandLine

inductive Action (κ : Type) where
  | help
  | version
  | flag (key : κ)
  | value (key : κ)
  deriving DecidableEq, Repr

structure Switch (κ : Type) where
  names : List String
  action : Action κ

structure Grammar (κ : Type) where
  program : String
  usage : String
  help : String
  version : String
  switches : List (Switch κ)
  /-- The name of the one argument that has to be given, if the program takes one. -/
  argument : Option String

/-- A setting that was made. A value is a list of at most one text: two dashes given as a value
vanish and leave an empty list. -/
inductive Choice (κ : Type) where
  | flag (key : κ)
  | value (key : κ) (texts : List String)
  deriving DecidableEq, Repr

inductive Request (κ : Type) where
  | help
  | version
  /-- The command line is wrong, for the stated reason. -/
  | misuse (reason : String)
  | accepted (choices : List (Choice κ)) (argument : Option String)
  deriving DecidableEq, Repr

namespace Switch

variable {κ : Type}

def takesValue (s : Switch κ) : Bool :=
  match s.action with
  | .value _ => true
  | _ => false

def title (s : Switch κ) : String :=
  "/".intercalate s.names

def ignored (s : Switch κ) (value : List Char) : String :=
  "argument " ++ s.title ++ ": ignored explicit argument " ++ Text.quote (String.ofList value)

def valueMissing (s : Switch κ) : String :=
  "argument " ++ s.title ++ ": expected one argument"

end Switch

inductive Mark (κ : Type) where
  | plain
  | separator
  | unknown
  /-- An option, under the name by which it was found, and the value within the argument. -/
  | option (switch : Switch κ) (name : String) (value : Option (List Char))

/-- The decimal digits of all scripts, as of Unicode 14. -/
def digitRanges : List (Nat × Nat) :=
  [(0x0030, 0x0039), (0x0660, 0x0669), (0x06F0, 0x06F9), (0x07C0, 0x07C9), (0x0966, 0x096F),
   (0x09E6, 0x09EF), (0x0A66, 0x0A6F), (0x0AE6, 0x0AEF), (0x0B66, 0x0B6F), (0x0BE6, 0x0BEF),
   (0x0C66, 0x0C6F), (0x0CE6, 0x0CEF), (0x0D66, 0x0D6F), (0x0DE6, 0x0DEF), (0x0E50, 0x0E59),
   (0x0ED0, 0x0ED9), (0x0F20, 0x0F29), (0x1040, 0x1049), (0x1090, 0x1099), (0x17E0, 0x17E9),
   (0x1810, 0x1819), (0x1946, 0x194F), (0x19D0, 0x19D9), (0x1A80, 0x1A89), (0x1A90, 0x1A99),
   (0x1B50, 0x1B59), (0x1BB0, 0x1BB9), (0x1C40, 0x1C49), (0x1C50, 0x1C59), (0xA620, 0xA629),
   (0xA8D0, 0xA8D9), (0xA900, 0xA909), (0xA9D0, 0xA9D9), (0xA9F0, 0xA9F9), (0xAA50, 0xAA59),
   (0xABF0, 0xABF9), (0xFF10, 0xFF19), (0x104A0, 0x104A9), (0x10D30, 0x10D39), (0x11066, 0x1106F),
   (0x110F0, 0x110F9), (0x11136, 0x1113F), (0x111D0, 0x111D9), (0x112F0, 0x112F9),
   (0x11450, 0x11459), (0x114D0, 0x114D9), (0x11650, 0x11659), (0x116C0, 0x116C9),
   (0x11730, 0x11739), (0x118E0, 0x118E9), (0x11950, 0x11959), (0x11C50, 0x11C59),
   (0x11D50, 0x11D59), (0x11DA0, 0x11DA9), (0x16A60, 0x16A69), (0x16AC0, 0x16AC9),
   (0x16B50, 0x16B59), (0x1D7CE, 0x1D7FF), (0x1E140, 0x1E149), (0x1E2F0, 0x1E2F9),
   (0x1E950, 0x1E959), (0x1FBF0, 0x1FBF9)]

def isDecimalDigit (c : Char) : Bool :=
  digitRanges.any fun r => r.1 ≤ c.toNat && c.toNat ≤ r.2

/-- A dash and decimal digits, among which a point may stand before the last. One line feed at the
very end does not count. -/
def isNegativeNumber (cs : List Char) : Bool :=
  match cs with
  | '-' :: digits =>
    let digits := if digits.getLast? = some '\n' then digits.dropLast else digits
    let fraction := digits.dropWhile isDecimalDigit
    match fraction with
    | [] => !digits.isEmpty
    | '.' :: rest => !rest.isEmpty && rest.all isDecimalDigit
    | _ => false
  | _ => false

def cutAtEquals (cs : List Char) : List Char × Option (List Char) :=
  (cs.takeWhile (· ≠ '='), (cs.dropWhile (· ≠ '=')).tail?)

namespace Grammar

variable {κ : Type}

def names (g : Grammar κ) : List (String × Switch κ) :=
  g.switches.flatMap fun s => s.names.map (·, s)

def switch? (g : Grammar κ) (name : List Char) : Option (Switch κ) :=
  (g.names.find? fun n => n.1.toList = name).map (·.2)

/-- The options that an argument may stand for without giving a full name: long names that begin
with it, or short names that stand at its start, before their value or before further names. -/
def candidates (g : Grammar κ) (cs : List Char) :
    List (String × Switch κ × Option (List Char)) :=
  match cs with
  | '-' :: '-' :: _ =>
    let (start, value) := cutAtEquals cs
    (g.names.filter fun n => start.isPrefixOf n.1.toList).map fun n => (n.1, n.2, value)
  | _ =>
    g.names.filterMap fun n =>
      if n.1.toList = cs.take 2 then some (n.1, n.2, some (cs.drop 2))
      else if cs.isPrefixOf n.1.toList then some (n.1, n.2, none)
      else none

/-- Tell what an argument is that does not stand after two dashes. -/
def mark (g : Grammar κ) (argument : String) : Except String (Mark κ) :=
  let cs := argument.toList
  match cs with
  | [] | ['-'] => .ok .plain
  | '-' :: _ =>
    match g.switch? cs with
    | some s => .ok (.option s argument none)
    | none =>
      let (name, value) := cutAtEquals cs
      match value, g.switch? name with
      | some value, some s => .ok (.option s (String.ofList name) (some value))
      | _, _ =>
        match g.candidates cs with
        | [(name, s, value)] => .ok (.option s name value)
        | [] => .ok (if isNegativeNumber cs || cs.contains ' ' then .plain else .unknown)
        | several =>
          .error ("ambiguous option: " ++ argument ++ " could match " ++
            ", ".intercalate (several.map (·.1)))
  | _ => .ok .plain

def markAll (g : Grammar κ) : List String → Except String (List (String × Mark κ))
  | [] => .ok []
  | argument :: rest =>
    if argument = "--" then
      .ok ((argument, .separator) :: rest.map fun a => (a, .plain))
    else do
      let first ← g.mark argument
      let others ← g.markAll rest
      return (argument, first) :: others

end Grammar

structure Expansion (κ : Type) where
  plain : List (Switch κ)
  last : Option (Switch κ × Option (List Char)) := none

/-- Take apart a short option with the characters after its letter, which are its value if it takes
one, else further letters. -/
def expandShort {κ : Type} (g : Grammar κ) (s : Switch κ) :
    List Char → Except String (Expansion κ)
  | [] => .ok (if s.takesValue then ⟨[], some (s, none)⟩ else ⟨[s], none⟩)
  | c :: cs =>
    if s.takesValue then .ok ⟨[], some (s, some (c :: cs))⟩
    else
      match g.switch? ['-', c] with
      | none => .error (s.ignored (c :: cs))
      | some next => (fun e => { e with plain := s :: e.plain }) <$> expandShort g next cs

def expand {κ : Type} (g : Grammar κ) (s : Switch κ) (name : String) (value : Option (List Char)) :
    Except String (Expansion κ) :=
  match value with
  | none => expandShort g s []
  | some value =>
    if s.takesValue then .ok ⟨[], some (s, some value)⟩
    else if value.isEmpty || name.toList.take 2 = ['-', '-'] then .error (s.ignored value)
    else expandShort g s value

structure Gathered (κ : Type) where
  choices : List (Choice κ) := []
  argument : Option String := none
  extras : List String := []

namespace Gathered

variable {κ : Type}

def flags (gathered : Gathered κ) : List (Switch κ) → Request κ ⊕ Gathered κ
  | [] => .inr gathered
  | s :: switches =>
    match s.action with
    | .help => .inl .help
    | .version => .inl .version
    | .flag key => flags { gathered with choices := gathered.choices ++ [.flag key] } switches
    | .value _ => flags gathered switches

def withValue (gathered : Gathered κ) (s : Switch κ) (value : String) : Gathered κ :=
  match s.action with
  | .value key =>
    let texts := if value = "--" then [] else [value]
    { gathered with choices := gathered.choices ++ [.value key texts] }
  | _ => gathered

def withExtra (gathered : Gathered κ) (argument : String) : Gathered κ :=
  { gathered with extras := gathered.extras ++ [argument] }

def finish (gathered : Gathered κ) (g : Grammar κ) : Request κ :=
  match g.argument, gathered.argument with
  | some title, none => .misuse ("the following arguments are required: " ++ title)
  | _, _ =>
    if gathered.extras.isEmpty then .accepted gathered.choices gathered.argument
    else .misuse ("unrecognized arguments: " ++ " ".intercalate gathered.extras)

end Gathered

/-- Act on the arguments from left to right. The first plain argument is the one that the program
takes; two dashes right before or after it belong to it. -/
def gather {κ : Type} (g : Grammar κ) (gathered : Gathered κ) :
    List (String × Mark κ) → Request κ
  | [] => gathered.finish g
  | (argument, .unknown) :: rest => gather g (gathered.withExtra argument) rest
  | [(argument, .separator)] => (gathered.withExtra argument).finish g
  | (argument, .separator) :: next :: rest =>
    if g.argument.isSome && gathered.argument.isNone then
      gather g { gathered with argument := some next.1 } rest
    else gather g (gathered.withExtra argument) (next :: rest)
  | (argument, .plain) :: rest =>
    if g.argument.isSome && gathered.argument.isNone then
      match rest with
      | (_, .separator) :: rest => gather g { gathered with argument := some argument } rest
      | rest => gather g { gathered with argument := some argument } rest
    else gather g (gathered.withExtra argument) rest
  | (_, .option s name value) :: rest =>
    match expand g s name value with
    | .error reason => .misuse reason
    | .ok expansion =>
      match expansion.last with
      | none =>
        match gathered.flags expansion.plain with
        | .inl request => request
        | .inr gathered => gather g gathered rest
      | some (last, some value) =>
        match gathered.flags expansion.plain with
        | .inl request => request
        | .inr gathered => gather g (gathered.withValue last (String.ofList value)) rest
      | some (last, none) =>
        match rest with
        | (value, .plain) :: rest =>
          match gathered.flags expansion.plain with
          | .inl request => request
          | .inr gathered => gather g (gathered.withValue last value) rest
        | _ => .misuse last.valueMissing

def Grammar.request {κ : Type} (g : Grammar κ) (arguments : List String) : Request κ :=
  match g.markAll arguments with
  | .error reason => .misuse reason
  | .ok marked => gather g {} marked

def Grammar.complaint {κ : Type} (g : Grammar κ) (reason : String) : String :=
  g.usage ++ g.program ++ ": error: " ++ reason ++ "\n"

end ArrowGraph.CommandLine

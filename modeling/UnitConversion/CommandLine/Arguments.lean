import UnitConversion.Text.Trim

/-!
# Arguments of the command line

The words of a command line are options, arguments, and the double hyphen, behind which all words
are arguments. An option asks for help, or is followed by a value, which can also be attached to it
with an equals sign; an attached double hyphen leaves the option without a value. A long option can
be shortened as long as only one option starts that way, and requests for help can be repeated
behind one hyphen. A negative number and a word with a space in it are arguments.

In front of the command stand the options of all commands; what follows it belongs to the command.
All words are looked at before the first one is acted on, so that an ambiguous option prevails over
all others; then the first request for help and the first misuse prevail in their order, and words
that nobody takes count last.
-/

namespace UnitConversion.CommandLine

/-- Why a command line is no invocation. -/
inductive Refusal where
  /-- Help was asked for. -/
  | help
  /-- The command line makes no sense. -/
  | misuse
  deriving DecidableEq

/-- What an option is for. -/
inductive Purpose where
  /-- It asks for help by a single letter. -/
  | letterHelp
  /-- It asks for help by a whole word. -/
  | wordHelp
  | value
  deriving DecidableEq

/-- The spellings of the options, when those with a value are `valued`. -/
def spellings (valued : List String) : List (String × Purpose) :=
  [("-h", .letterHelp), ("--help", .wordHelp)] ++ valued.map fun name => (name, .value)

/-- What is attached to an option in the same word. -/
inductive Attachment where
  | nothing
  /-- Something behind an equals sign. -/
  | value (text : List Char)
  /-- More letters behind a hyphen and a letter. -/
  | letters (text : List Char)
  deriving DecidableEq

/-- What a word is. -/
inductive WordKind where
  | argument
  /-- The first double hyphen. -/
  | separator
  | option (purpose : Purpose) (attached : Attachment)
  /-- A word that looks like an option but is none. -/
  | unknown
  deriving DecidableEq

/-- A word of a command line. -/
structure Word where
  text : String
  kind : WordKind
  deriving DecidableEq

/-- The part of a word in front of its first equals sign, and what is attached behind it. -/
def splitValue (cs : List Char) : List Char × Attachment :=
  match cs.dropWhile (· != '=') with
  | [] => (cs, .nothing)
  | _ :: value => (cs.takeWhile (· != '='), .value value)

/-- The options that a word with two hyphens at its start can stand for: those that start with
it. -/
def longCandidates (options : List (String × Purpose)) (cs : List Char) : List WordKind :=
  let parts := splitValue cs
  (options.filter fun o => parts.1.isPrefixOf o.1.toList).map fun o => .option o.2 parts.2

/-- The options that a word with one hyphen at its start can stand for. -/
def shortCandidates (options : List (String × Purpose)) (cs : List Char) : List WordKind :=
  options.filterMap fun o =>
    if o.1.toList = cs.take 2 then some (.option o.2 (.letters (cs.drop 2)))
    else if cs.isPrefixOf o.1.toList then some (.option o.2 .nothing)
    else none

/-- The options that a word can stand for. -/
def candidates (options : List (String × Purpose)) (cs : List Char) : List WordKind :=
  match cs with
  | _ :: '-' :: _ => longCandidates options cs
  | _ => shortCandidates options cs

/-- Whether characters are digits, and there is at least one. -/
def isDigits (cs : List Char) : Bool :=
  !cs.isEmpty && cs.all fun c => (Text.decimalDigit? c).isSome

/-- Whether a word is a negative number without an exponent. A line feed at its end does not
count. -/
def isNegativeNumber : List Char → Bool
  | '-' :: cs =>
    let cs := if cs.getLast? = some '\n' then cs.dropLast else cs
    match cs.dropWhile (· != '.') with
    | [] => isDigits cs
    | _ :: fraction =>
      (cs.takeWhile (· != '.')).all (fun c => (Text.decimalDigit? c).isSome) && isDigits fraction
  | _ => false

/-- The option that a word spells out, perhaps with an attached value. -/
def exactOption? (options : List (String × Purpose)) (cs : List Char) : Option WordKind :=
  match options.lookup (String.ofList cs) with
  | some purpose => some (.option purpose .nothing)
  | none =>
    match splitValue cs with
    | (_, .nothing) => none
    | (name, attached) =>
      (options.lookup (String.ofList name)).map fun purpose => .option purpose attached

/-- What a word is that starts with a hyphen and has more characters. -/
def hyphenKind (options : List (String × Purpose)) (cs : List Char) : Except Refusal WordKind :=
  match exactOption? options cs with
  | some kind => .ok kind
  | none =>
    match candidates options cs with
    | [kind] => .ok kind
    | [] => .ok (if isNegativeNumber cs || cs.contains ' ' then .argument else .unknown)
    | _ => .error .misuse

/-- What a word is. -/
def kindOf (options : List (String × Purpose)) (word : String) : Except Refusal WordKind :=
  match word.toList with
  | '-' :: c :: cs => hyphenKind options ('-' :: c :: cs)
  | _ => .ok .argument

/-- Looks at all words. -/
def readWords (options : List (String × Purpose)) : List String → Except Refusal (List Word)
  | [] => .ok []
  | word :: words =>
    if word = "--" then .ok (⟨word, .separator⟩ :: words.map (⟨·, .argument⟩))
    else match kindOf options word with
      | .error refusal => .error refusal
      | .ok kind => (readWords options words).map (⟨word, kind⟩ :: ·)

/-- What a request for help leads to that has something attached to it. Behind one hyphen, the
letter of the request can be repeated; anything else makes no sense. -/
def attachedOutcome (cs : List Char) : Refusal :=
  if !cs.isEmpty && cs.all (· == 'h') then .help else .misuse

/-- What a request for help leads to. In its long form nothing can be attached to it. -/
def helpOutcome : Purpose → Attachment → Refusal
  | .letterHelp, .value cs => attachedOutcome cs
  | .letterHelp, .letters cs => attachedOutcome cs
  | _, .nothing => .help
  | _, _ => .misuse

/-- What an option is given. -/
inductive OptionValue where
  | text (text : String)
  /-- The option is there, but its value is taken away. -/
  | nothing
  deriving DecidableEq

namespace OptionValue

/-- The text that an option is given, if it is given one. -/
def text? : OptionValue → Option String
  | text s => some s
  | nothing => none

/-- What a text that is attached to an option gives it. -/
def ofAttached (cs : List Char) : OptionValue :=
  if cs = ['-', '-'] then nothing else text (String.ofList cs)

end OptionValue

/-- What is given to an option in its own word. -/
def Attachment.value? : Attachment → Option OptionValue
  | nothing => none
  | value cs => some (.ofAttached cs)
  | letters cs => some (.ofAttached cs)

/-- What is collected from the words of a command. -/
structure Collected where
  value : Option OptionValue
  arguments : List String
  /-- Whether more arguments can follow those collected. -/
  accepting : Bool
  /-- Whether there are words that nobody takes. -/
  leftovers : Bool
  deriving DecidableEq

namespace Collected

/-- One more argument. -/
def addArgument (c : Collected) (text : String) : Collected :=
  if c.accepting then { c with arguments := c.arguments ++ [text] }
  else { c with leftovers := true }

/-- A double hyphen. -/
def addSeparator (c : Collected) : Collected :=
  if c.accepting then c else { c with leftovers := true }

end Collected

/-- Collects the words of a command. Only the first run of arguments is taken. `started` says that
it has begun. -/
def collect (c : Collected) (started : Bool) : List Word → Except Refusal Collected
  | [] => .ok c
  | word :: words =>
    let closed := { c with accepting := c.accepting && !started }
    match word.kind with
    | .argument => collect (c.addArgument word.text) true words
    | .separator => collect c.addSeparator true words
    | .unknown => collect { closed with leftovers := true } false words
    | .option .value attached =>
      match attached.value?, words with
      | some value, words => collect { closed with value := some value } false words
      | none, ⟨text, .argument⟩ :: words =>
        collect { closed with value := some (.text text) } false words
      | none, _ => .error .misuse
    | .option purpose attached => .error (helpOutcome purpose attached)

/-- What is asked of a registry. -/
inductive Query where
  | convert (lines : List String)
  | categories
  /-- The units of a category; there is no name of one if the option is there without a value. -/
  | units (category : Option String)
  deriving DecidableEq

/-- What is to be done. -/
inductive Command where
  | query (query : Query)
  | check
  deriving DecidableEq

/-- A command line that makes sense. -/
structure Invocation where
  directory : Option String
  command : Command
  deriving DecidableEq

/-- Reads the words behind the name of a command that takes some options with a value, and perhaps
arguments. -/
def collectCommand (valued : List String) (takesArguments : Bool) (words : List String) :
    Except Refusal Collected := do
  let words ← readWords (spellings valued) words
  collect ⟨none, [], takesArguments, false⟩ false words

/-- Reads a command; says also whether there are words that nobody takes. -/
def readCommand (name : String) (words : List String) : Except Refusal (Command × Bool) :=
  match name with
  | "convert" =>
    (collectCommand [] true words).map fun c => (.query (.convert c.arguments), c.leftovers)
  | "categories" => (collectCommand [] false words).map fun c => (.query .categories, c.leftovers)
  | "check" => (collectCommand [] false words).map fun c => (.check, c.leftovers)
  | "units" => do
    let c ← collectCommand ["--category"] false words
    match c.value with
    | some category => .ok (.query (.units category.text?), c.leftovers)
    | none => .error .misuse
  | _ => .error .misuse

/-- The options in front of the command. -/
def leadingOptions : List (String × Purpose) :=
  spellings ["--config-dir"]

/-- Reads the words up to the command, and then the command. -/
def readLeading (directory : Option String) (leftovers : Bool) :
    List Word → Except Refusal Invocation
  | [] => .error .misuse
  | word :: words =>
    match word.kind with
    | .separator => .error .misuse
    | .unknown => readLeading directory true words
    | .option .value attached =>
      match attached.value?, words with
      | some value, words => readLeading value.text? leftovers words
      | none, ⟨text, .argument⟩ :: words => readLeading (some text) leftovers words
      | none, _ => .error .misuse
    | .option purpose attached => .error (helpOutcome purpose attached)
    | .argument =>
      match readCommand word.text (words.map Word.text) with
      | .error refusal => .error refusal
      | .ok (command, more) =>
        if leftovers || more then .error .misuse else .ok ⟨directory, command⟩

/-- Reads a command line. -/
def Invocation.ofWords (words : List String) : Except Refusal Invocation := do
  let words ← readWords leadingOptions words
  readLeading none false words

end UnitConversion.CommandLine

import CommandScript.Shell.Builtin.Course
import CommandScript.Shell.Builtin.Declare
import CommandScript.Text.Blank

/-!
# Commands for options

Turning the switches and features of the shell on and off, and listing them; the arguments of the
shell, which come after its options; reading options one by one; and what new files may be.
-/
namespace CommandScript.Shell

/-! ### Switches -/

/-- A name and whether it is on, as a list shows them. -/
def onOffLine (name : String) (on : Bool) : Text :=
  Text.padEnd 15 name.toList ++ '\t' :: (if on then "on" else "off").toList

/-- The command that turns a switch on or off. -/
def switchCommand (name : String) (on : Bool) : Text :=
  (if on then "set -o " else "set +o ").toList ++ name.toList

/-- The names that a shell of the standard lists its switches under, in order. -/
def standardSwitches : List String := [
  "errexit", "noglob", "ignoreeof", "interactive", "monitor", "noexec", "stdin", "xtrace",
  "verbose", "vi", "emacs", "noclobber", "allexport", "notify", "nounset", "nolog", "debug"]

/-- Lists all switches, as commands that turn them on and off or as words. -/
def listSwitches (asCommands : Bool) : Act Unit := do
  let s ← get
  let isOn (name : String) : Bool := ((Switch.ofName? name.toList).map s.isOn).getD false
  if s.isStandard then
    if !asCommands then putLine "Current option settings".toList
    for name in standardSwitches do
      putLine (if asCommands then switchCommand name (isOn name)
        else Text.padEnd 16 name.toList ++ (if isOn name then "on" else "off").toList)
  else
    for (_, name, _) in Switch.table do
      putLine (if asCommands then switchCommand name (isOn name) else onOffLine name (isOn name))

/-- Turns a switch on or off. Of the two ways to edit lines only one is on. -/
def turn (switch : Switch) (on : Bool) : Act Unit := modify fun s ↦
  let isWay (w : Switch) : Bool := w = .vi || w = .emacs
  let others := s.switches.filter fun w ↦ w != switch && !(on && isWay switch && isWay w)
  { s with switches := if on then switch :: others else others }

/-- Turns a switch on or off that is given by its name, and gives whether there is one. -/
def turnNamed (on : Bool) (name : Text) : Act Bool := do
  match Switch.ofName? name with
  | some switch =>
    turn switch on
    return true
  | none =>
    if (← get).isStandard then
      refuse .aborts ("set: Illegal option ".toList ++ (if on then "-o " else "+o ").toList ++ name)
    else
      complain ("set: ".toList ++ name ++ ": invalid option name".toList)
      return false

/-- Turns the switches of letters on or off: the letter `o` asks for a name in the next argument.
Gives the arguments that are left, or nothing where a name is not known. -/
def turnLetters (on : Bool) : Text → List Text → Act (Option (List Text))
  | [], rest => return some rest
  | 'o' :: letters, rest => do
    let isOption (t : Text) : Bool := t.isEmpty || t.head? = some '-' || t.head? = some '+'
    match rest with
    | name :: after =>
      if isOption name then
        listSwitches !on
        turnLetters on letters rest
      else if ← turnNamed on name then turnLetters on letters after
      else return none
    | [] =>
      listSwitches !on
      turnLetters on letters []
  | c :: letters, rest => do
    match Switch.ofLetter? c with
    | some switch => turn switch on
    | none => pure ()
    turnLetters on letters rest

/-- The first option among arguments that is not known. An argument that is the name of a switch is
passed over. -/
def unknownSwitch? (known : Text) : Bool → List Text → Option Text
  | true, _ :: rest => unknownSwitch? known false rest
  | false, (sign :: c :: letters) :: rest =>
    if (sign = '-' ∨ sign = '+') ∧ [sign, c] ++ letters ≠ "--".toList then
      match (c :: letters).find? fun c ↦ !known.contains c with
      | some c => some [sign, c]
      | none => unknownSwitch? known ((c :: letters).contains 'o') rest
    else none
  | _, _ => none

/-- Gives the shell its arguments. -/
def setArguments (arguments : List Text) : Act Unit := modify fun s ↦ { s with arguments }

/-- Carries out the arguments of `set`. -/
def setFrom : Nat → List Text → Act Nat
  | 0, _ => return 0
  | n + 1, arguments => do
    match arguments with
    | [] => return 0
    | ['-', '-'] :: rest =>
      setArguments rest
      return 0
    | ['-'] :: rest =>
      turn .xtrace false
      turn .verbose false
      if !rest.isEmpty then setArguments rest
      return 0
    | (sign :: letters) :: rest =>
      if sign = '-' ∨ sign = '+' then
        match ← turnLetters (sign = '-') letters rest with
        | some rest => setFrom n rest
        | none => return 2
      else
        setArguments arguments
        return 0
    | arguments =>
      setArguments arguments
      return 0

/-- The command `set`. -/
def setOptions : Utility := fun arguments ↦ do
  if arguments.isEmpty then return ← listAll
  let s ← get
  let known := if s.isStandard then "efmnxvabuIo".toList else "abefhkmnoptuvxBCEHPT".toList
  match unknownSwitch? known false arguments with
  | some option =>
    if s.isStandard then refuse .aborts ("set: Illegal option ".toList ++ option)
    else
      complain ("set: ".toList ++ option ++ ": invalid option".toList)
      tellUsage "set"
  | none => setFrom (arguments.length + 1) arguments

/-! ### Features -/

/-- Turns a feature on or off. -/
def turnFeature (name : String) (on : Bool) : Act Unit := modify fun s ↦
  { s with features := (if on then [name] else []) ++ s.features.filter (· != name) }

/-- Turns one of the things that `shopt` knows on or off, or shows it: a switch or a feature. It
gives whether that has been possible and, where it is shown, whether it is on. -/
def changeFeature (f : Flags) (name : Text) : Act Bool := do
  let s ← get
  let known := String.ofList name
  let change? : Option Bool :=
    if f.has 's' then some true else if f.has 'u' then some false else none
  let showIt (isOn : Bool) (command : Text) : Act Bool := do
    if !f.has 'q' then putLine (if f.has 'p' then command else onOffLine known isOn)
    return isOn
  if f.has 'o' then
    match Switch.ofName? name with
    | none =>
      complain ("shopt: ".toList ++ name ++ ": invalid option name".toList)
      return false
    | some switch =>
      match change? with
      | some on =>
        turn switch on
        return true
      | none => showIt (s.isOn switch) (switchCommand known (s.isOn switch))
  else if !featureNames.contains known then
    complain ("shopt: ".toList ++ name ++ ": invalid shell option name".toList)
    return false
  else
    match change? with
    | some on =>
      turnFeature known on
      return true
    | none =>
      let isOn := s.hasFeature known
      showIt isOn ((if isOn then "shopt -s " else "shopt -u ").toList ++ name)

/-- The command `shopt`. -/
def changeFeatures : Utility := fun arguments ↦
  withFlags "shopt" "psuqo" "" arguments fun f ↦ do
    if f.has 's' ∧ f.has 'u' then
      failAs "shopt" 1 "cannot set and unset shell options simultaneously".toList
    else if f.others.isEmpty then
      let s ← get
      let names : List (String × Bool) := if f.has 'o' then
          Switch.table.map fun (switch, name, _) ↦ (name, s.isOn switch)
        else featureNames.map fun name ↦ (name, s.hasFeature name)
      for (name, isOn) in names do
        if (!f.has 's' ∨ isOn) ∧ (!f.has 'u' ∨ !isOn) ∧ !f.has 'q' then
          let letters := f.letters.filter fun c ↦ c != 's' && c != 'u'
          let _ ← changeFeature { f with letters } name.toList
      return 0
    else
      let found ← f.others.mapM (changeFeature f)
      return if found.all (·) then 0 else 1

/-! ### Arguments -/

/-- The command `shift`. -/
def shiftArguments : Utility := fun arguments ↦ do
  let s ← get
  let outOfRange (t : Text) : Act Nat := do
    if s.isStandard then refuse .aborts "shift: can't shift that many".toList
    if s.hasFeature "shift_verbose" then
      complain ("shift: ".toList ++ t ++ ": shift count out of range".toList)
    return 1
  match dropDashes arguments with
  | [] =>
    if s.arguments.isEmpty then outOfRange ['1']
    else
      setArguments (s.arguments.drop 1)
      return 0
  | t :: rest =>
    match wholeNumber? t with
    | none =>
      if s.isStandard then refuse .aborts ("shift: Illegal number: ".toList ++ t)
      else failAs "shift" 1 (t ++ ": numeric argument required".toList)
    | some n =>
      if n < 0 then
        if s.isStandard then refuse .aborts ("shift: Illegal number: ".toList ++ t)
        else failAs "shift" 1 (t ++ ": shift count out of range".toList)
      else if !rest.isEmpty ∧ !s.isStandard then
        complain "shift: too many arguments".toList
        leaveWith 1 .drops
      else if s.arguments.length < n.toNat then outOfRange t
      else
        setArguments (s.arguments.drop n.toNat)
        return 0

/-- What reading an option comes to. -/
inductive OptionRead where
  /-- There is no other option. -/
  | ended
  /-- An option, perhaps with a value. -/
  | found (letter : Char) (value : Option Text)
  /-- An option that is not known. -/
  | unknown (letter : Char)
  /-- An option that lacks its value. -/
  | lacking (letter : Char)
  deriving DecidableEq, Repr

/-- Reads the option at an argument, given by its number from one, and a place within that. Gives
the argument and the place of the next one as well. -/
def readOption (known : Text) (arguments : List Text) (index place : Nat) :
    OptionRead × Nat × Nat :=
  if arguments.length < index then (.ended, arguments.length + 1, 0)
  else
    let argument := arguments[index - 1]?.getD []
    let place := if place < argument.length then place else 0
    if place = 0 ∧ argument = "--".toList then (.ended, index + 1, 0)
    else if place = 0 ∧ (argument.head? ≠ some '-' ∨ argument.length < 2) then (.ended, index, 0)
    else
      let place := max place 1
      let letter := argument[place]?.getD '?'
      let (next, nextPlace) :=
        if place + 1 < argument.length then (index, place + 1) else (index + 1, 0)
      match known.dropWhile (· != letter) with
      | [] => (.unknown letter, next, nextPlace)
      | _ :: after =>
        if letter = ':' then (.unknown letter, next, nextPlace)
        else if after.head? ≠ some ':' then (.found letter none, next, nextPlace)
        else if nextPlace ≠ 0 then (.found letter (some (argument.drop nextPlace)), index + 1, 0)
        else match arguments[index]? with
          | some value => (.found letter (some value), index + 2, 0)
          | none => (.lacking letter, index + 1, 0)

/-- The command `getopts`. In the standard, the number of the next argument is one ahead as long as
options are left in an argument. -/
def readOptions : Utility := fun arguments ↦ do
  let s ← get
  match arguments with
  | known :: name :: given =>
    let isSilent := known.head? = some ':'
    let from? := if given.isEmpty then s.arguments else given
    let given := max 1 ((naturalNumber? (s.valueOf "OPTIND")).getD 1)
    let runsAhead := s.isStandard && s.optionPlace ≠ 0
    let index := if runsAhead then max 1 (given - 1) else given
    let (found, next, place) := readOption known from? index s.optionPlace
    assign "OPTIND".toList (shown (if s.isStandard ∧ place ≠ 0 then next + 1 else next))
    modify fun s ↦ { s with optionPlace := place }
    let quiet := isSilent || (s.value? "OPTERR".toList) = some ['0']
    let tellWrong (words standard : String) (letter : Char) : Act Unit := do
      if !quiet then
        if s.isStandard then tellLine (standard.toList.map fun c ↦ if c = '%' then letter else c)
        else tellLine (s.called ++ ": ".toList ++ words.toList ++ " -- ".toList ++ [letter])
    let give (letter : Char) (value : Option Text) (status : Nat) : Act Nat := do
      match value with
      | some t => assign "OPTARG".toList t
      | none => modify fun s ↦ s.drop "OPTARG".toList
      if !isVariableName name then
        if s.isStandard then
          refuse .aborts ("getopts: ".toList ++ name ++ ": bad variable name".toList)
        failAs "getopts" 1 (citedText name ++ ": not a valid identifier".toList)
      else if ← isFixed name then
        complain (name ++ ": readonly variable".toList)
        return 2
      else
        assign name [letter]
        return status
    match found with
    | .ended => give '?' none 1
    | .found letter value => give letter value 0
    | .unknown letter =>
      tellWrong "illegal option" "Illegal option -%" letter
      give '?' (if isSilent then some [letter] else none) 0
    | .lacking letter =>
      tellWrong "option requires an argument" "No arg for -% option" letter
      give (if isSilent then ':' else '?') (if isSilent then some [letter] else none) 0
  | _ =>
    if s.isStandard then refuse .aborts "getopts: Usage: getopts optstring var [arg...]".toList
    else tellUsage "getopts"

/-! ### New files -/

/-- The bits of three permissions as letters. -/
def permissionLetters (bits : Nat) : Text :=
  (if bits &&& 4 ≠ 0 then ['r'] else []) ++ (if bits &&& 2 ≠ 0 then ['w'] else []) ++
    (if bits &&& 1 ≠ 0 then ['x'] else [])

/-- The permissions that a mask leaves, as letters. -/
def maskLetters (mask : Nat) : Text :=
  let allowed := 0o777 - (mask &&& 0o777)
  "u=".toList ++ permissionLetters (allowed / 64 % 8) ++ ",g=".toList ++
    permissionLetters (allowed / 8 % 8) ++ ",o=".toList ++ permissionLetters (allowed % 8)

/-- The bits of the users that letters mean. -/
def whoBits (who : Text) : Nat :=
  let bits (c : Char) : Nat := match c with
    | 'u' => 0o700
    | 'g' => 0o070
    | 'o' => 0o007
    | _ => 0o777
  if who.isEmpty then 0o777 else who.foldl (fun n c ↦ n ||| bits c) 0

/-- Changes permissions by one clause of letters, or gives what is wrong with it. -/
def allowedAfter (allowed : Nat) (clause : Text) : Except Text Nat :=
  let who := clause.takeWhile fun c ↦ "ugoa".toList.contains c
  match clause.drop who.length with
  | sign :: letters =>
    if !"+-=".toList.contains sign then
      .error (citedText [sign] ++ ": invalid symbolic mode operator".toList)
    else match letters.find? fun c ↦ !"rwxX".toList.contains c with
      | some c => .error (citedText [c] ++ ": invalid symbolic mode character".toList)
      | none =>
        let meant := letters.foldl (fun n c ↦ n ||| match c with
          | 'r' => 0o444
          | 'w' => 0o222
          | _ => 0o111) 0 &&& whoBits who
        .ok (match sign with
          | '+' => allowed ||| meant
          | '-' => allowed - (allowed &&& meant)
          | _ => (allowed - (allowed &&& whoBits who)) ||| meant)
  | [] => .error (citedText [] ++ ": invalid symbolic mode operator".toList)

/-- The command `umask`. -/
def changeMask : Utility := fun arguments ↦
  withFlags "umask" (if arguments.isEmpty then "" else "pS") "" arguments fun f ↦ do
    let s ← get
    let digits := ('0' :: List.replicate (3 - (digitsIn 8 s.mask).length) '0') ++ digitsIn 8 s.mask
    match f.others with
    | [] =>
      let head : Text := if f.has 'p' then (if f.has 'S' then "umask -S " else "umask ").toList
        else []
      putLine (head ++ if f.has 'S' then maskLetters s.mask else digits)
      return 0
    | t :: _ =>
      if t.head?.any Char.isDigit then
        let n := Text.digitsValue t
        let octal := t.foldl (fun n c ↦ 8 * n + (c.toNat - '0'.toNat)) 0
        if t.all (fun c ↦ '0' ≤ c && c ≤ '7') ∧ octal ≤ 0o7777 then
          set { s with mask := octal &&& 0o777 }
          return 0
        else if s.isStandard then refuse .aborts ("umask: Illegal number: ".toList ++ shown n)
        else failAs "umask" 1 (t ++ ": octal number out of range".toList)
      else
        match (Text.fields ',' t).foldlM allowedAfter (0o777 - (s.mask &&& 0o777)) with
        | .ok allowed =>
          set { s with mask := 0o777 - (allowed &&& 0o777) }
          return 0
        | .error message =>
          if s.isStandard then refuse .aborts ("umask: Illegal mode: ".toList ++ t)
          else failAs "umask" 1 message

/-- The command `ulimit`. There are no limits but those for open files and for pictures of failed
programs. -/
def tellLimits : Utility := fun arguments ↦ do
  withFlags "ulimit" (if (← get).isStandard then "HSatfdscmlpnvwr" else "SHabcdefiklmnpqrstuvxPRT")
      "" arguments fun f ↦ do
    match f.others with
    | t :: _ =>
      if (naturalNumber? t).isSome ∨ t = "unlimited".toList then return 0
      else if (← get).isStandard then refuse .aborts "ulimit: bad number".toList
      else failAs "ulimit" 1 (t ++ ": invalid number".toList)
    | [] =>
      putLine (if f.has 'c' then ['0'] else if f.has 'n' then "20000".toList
        else "unlimited".toList)
      return 0

/-- The command `enable`. -/
def enableCommands : Utility := fun arguments ↦
  withFlags "enable" "anps" "fd" arguments fun f ↦ do
    if f.others.isEmpty ∨ f.has 'p' then
      let s ← get
      for (name, _) in usages do
        let isOff := s.disabled.contains name.toList
        let isWanted := f.has 'a' || isOff == f.has 'n'
        if isWanted ∧ (!f.has 's' ∨ specialCommands.contains name.toList) then
          putLine ((if isOff then "enable -n " else "enable ").toList ++ name.toList)
      return 0
    else
      let mut status := 0
      for name in f.others do
        if !isShellCommand name then
          status ← failAs "enable" 1 (name ++ ": not a shell builtin".toList)
        else modify fun s ↦
          { s with disabled := (if f.has 'n' then [name] else []) ++
              s.disabled.filter (· != name) }
      return status

end CommandScript.Shell

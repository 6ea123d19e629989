import MotionCast.Cli.Options

/-! Reading of the command line. Every option is long, takes one value, and may be given once; the
value follows an equals sign or is the next argument, which then must not look like an option. Only
the length of a test run may be left out. -/

namespace MotionCast.Cli

/-- The options by name. -/
inductive Flag where
  | deviceFile
  | hidraw
  | vid
  | pid
  | usbInterface
  | port
  | interface
  | slot
  | scanPeriodUs
  | startMarker
  | logLevel
  | calibrate
  | testRun
deriving DecidableEq, Repr

/-- The names of the options. -/
def Flag.names : List (String × Flag) :=
  [("device-file", deviceFile), ("hidraw", hidraw), ("vid", vid), ("pid", pid),
    ("usb-interface", usbInterface), ("port", port), ("interface", interface), ("slot", slot),
    ("scan-period-us", scanPeriodUs), ("start-marker", startMarker), ("log-level", logLevel),
    ("calibrate", calibrate), ("test-run", testRun)]

/-- Why the program does not run. -/
inductive Stop where
  /-- The command line is wrong. -/
  | refused
  /-- The command line asks for the usage. -/
  | usage
  /-- The command line asks for the version. -/
  | version
deriving DecidableEq, Repr

/-- Text without all repetitions of a word at its start. The fuel is the length of the text. -/
def trimStart (word : List Char) : (fuel : Nat) → List Char → List Char
  | 0, text => text
  | fuel + 1, text =>
    if word.isPrefixOf text then trimStart word fuel (text.drop word.length) else text

/-- Digits without the marks for base sixteen before them, those with a small letter first. -/
def hexDigits (text : String) : List Char :=
  let small := trimStart ['0', 'x'] text.length text.toList
  trimStart ['0', 'X'] small.length small

/-- An identity in base sixteen. -/
def identity? (text : String) : Option UInt16 :=
  (Numeral.unsigned? 16 65536 (hexDigits text)).map UInt16.ofNat

/-- A whole number from `low` to `high`. -/
def bounded? (low high : Int) (text : String) : Option Int := Numeral.signed? low high text.toList

/-- A count of sixty-four bits. -/
def count? (text : String) : Option Nat := Numeral.unsigned? 10 0x10000000000000000 text.toList

/-- A path, which is not empty. -/
def path? (text : String) : Option String := if text.isEmpty then none else some text

/-- The options with one more value, if it has the form that its option takes. -/
def Options.set? (o : Options) (text : String) : Flag → Option Options
  | .deviceFile => do return { o with deviceFile := some (← path? text) }
  | .hidraw => do return { o with hidraw := some (← path? text) }
  | .vid => do return { o with vendor := ← identity? text }
  | .pid => do return { o with product := ← identity? text }
  | .usbInterface => do return { o with usbInterface := ← bounded? (-2147483648) 2147483647 text }
  | .port => do return { o with port := some (UInt16.ofNat (← bounded? 0 65535 text).toNat) }
  | .interface => do return { o with interface := ← (BindInterface.parse text).toOption }
  | .slot => do return { o with slot := UInt8.ofNat (← bounded? 0 3 text).toNat }
  | .scanPeriodUs => do return { o with scanPeriodMicros := some (← count? text) }
  | .startMarker => do return { o with startMarker := some (← Hex.decode? (hexDigits text)) }
  | .logLevel => some { o with logLevel := text }
  | .calibrate => do return { o with calibrate := some (← count? text) }
  | .testRun => do return { o with testRun := some (← count? text) }

/-- How far the command line is read. -/
structure Progress where
  options : Options := {}
  given : List Flag := []
  /-- The option whose value may come next. -/
  pending : Option Flag := none

namespace Progress

/-- Takes the value of an option. -/
def take (r : Progress) (flag : Flag) (text : String) : Except Stop Progress :=
  if r.given.contains flag then .error .refused
  else
    match r.options.set? text flag with
    | none => .error .refused
    | some options => .ok { options, given := flag :: r.given }

/-- Goes on without a value for the option that waits for one. Only the test run does without: it
then lasts five seconds. -/
def resolve (r : Progress) : Except Stop Progress :=
  match r.pending with
  | none => .ok r
  | some .testRun => r.take .testRun "5"
  | some _ => .error .refused

/-- Takes an option, given without its two dashes. -/
def long (r : Progress) (text : List Char) : Except Stop Progress := do
  let name := String.ofList (text.takeWhile (· ≠ '='))
  let value := (text.dropWhile (· ≠ '=')).tail
  let attached := text.contains '='
  let r ← r.resolve
  if name = "help" ∧ !attached then throw .usage
  if name = "version" ∧ !attached then throw .version
  match Flag.names.lookup name with
  | none => throw .refused
  | some flag =>
    if attached then r.take flag (String.ofList value) else return { r with pending := some flag }

/-- Takes a letter with one dash. -/
def short (r : Progress) (letter : Char) : Except Stop Progress := do
  let _ ← r.resolve
  throw (if letter = 'h' then .usage else if letter = 'V' then .version else .refused)

/-- Takes an argument. -/
def argument (r : Progress) (text : List Char) : Except Stop Progress :=
  match text with
  | '-' :: '-' :: rest => r.long rest
  | '-' :: letter :: _ => r.short letter
  | _ =>
    match r.pending with
    | none => .error .refused
    | some flag => r.take flag (String.ofList text)

/-- The options at the end of the command line. A device is named once, and the two short runs
exclude each other. -/
def finish (r : Progress) : Except Stop Options := do
  let r ← r.resolve
  let o := r.options
  if o.deviceFile.isSome ∧ o.hidraw.isSome then throw .refused
  if o.calibrate.isSome ∧ o.testRun.isSome then throw .refused
  return o

/-- Takes all arguments. After two dashes alone there may be none. -/
def arguments (r : Progress) : List String → Except Stop Options
  | [] => r.finish
  | text :: rest =>
    if text = "--" then if rest.isEmpty then r.finish else .error .refused
    else do
      let r ← r.argument text.toList
      r.arguments rest

end Progress

/-- Reads the command line. -/
def Options.ofArgs (args : List String) : Except Stop Options :=
  ({} : Progress).arguments args

end MotionCast.Cli

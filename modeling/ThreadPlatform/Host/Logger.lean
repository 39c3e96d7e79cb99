import ThreadPlatform.Log

/-!
# The host logger

On a host, log records go to standard error as one line each: the local time,
a one-letter severity, the record's target and its text. With colour, the time
is dimmed and the letter coloured per severity (bold bright red `E`, bright
yellow `W`, bright green `I`, bright blue `D`, dimmed `V`).

A `LevelFilter` lets through the records at least as severe as it names;
`off` lets none through. Filter names are read without regard to case.
-/

namespace ThreadPlatform.Host

/-- The most verbose severity let through, or none. -/
inductive LevelFilter where
  | off
  | upTo (level : Level)
  deriving DecidableEq, Repr

/-- A name compared without regard to case. -/
def lowered (s : String) : String := String.ofList (s.toList.map Char.toLower)

/-- The severity a name stands for, in any case. -/
def Level.ofName? (s : String) : Option Level :=
  Level.all.find? fun l => lowered l.name == lowered s

namespace LevelFilter

/-- The filter a name stands for, in any case. -/
def ofName? (s : String) : Option LevelFilter :=
  if lowered s == "off" then some .off else (Level.ofName? s).map upTo

/-- Whether a record of severity `l` is let through. -/
def allows (f : LevelFilter) (l : Level) : Bool :=
  match f with
  | .off => false
  | .upTo m => l.rank ≤ m.rank

end LevelFilter

/-- The escape character that starts a terminal colour sequence. -/
def esc : String := "\x1b"

/-- Text in a terminal style, reset after it. -/
def styled (code text : String) : String := esc ++ "[" ++ code ++ "m" ++ text ++ esc ++ "[0m"

/-- The severity letter, coloured or not. -/
def letter (color : Bool) (l : Level) : String :=
  let (code, ch) := match l with
    | .error => ("1;91", "E")
    | .warn => ("93", "W")
    | .info => ("92", "I")
    | .debug => ("94", "D")
    | .trace => ("2", "V")
  if color then styled code ch else ch

/-- The line written for a record at time `clock`. -/
def formatRecord (color : Bool) (clock : String) (l : Level) (target text : String) : String :=
  let time := if color then styled "2" clock else clock
  s!"{time} {letter color l} {target}: {text}\n"

/-- Whether the characters start with a time of day `dd:dd:dd.ddd`. -/
def startsWithClock (cs : List Char) : Bool :=
  match cs with
  | a :: b :: ':' :: c :: d :: ':' :: e :: f :: '.' :: g :: h :: i :: _ =>
    [a, b, c, d, e, f, g, h, i].all Char.isDigit
  | _ => false

/-- The characters with every time of day `dd:dd:dd.ddd` written `HH:MM:SS.mmm`. -/
def maskClocks : List Char → List Char
  | [] => []
  | c :: cs =>
    if startsWithClock (c :: cs) then "HH:MM:SS.mmm".toList ++ maskClocks ((c :: cs).drop 12)
    else c :: maskClocks cs
termination_by cs => cs.length
decreasing_by all_goals simp_wf <;> omega

/-- A text with every time of day written `HH:MM:SS.mmm`. -/
def maskTimes (s : String) : String := String.ofList (maskClocks s.toList)

end ThreadPlatform.Host

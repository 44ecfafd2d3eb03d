/-
Filters of log messages: which level is let through for which part of a
program.

A filter is a list of directives between commas.  A directive names a level,
or a target, or a target and its level after an equals sign; a target without
a level lets everything through.  Brackets after the target, or instead of it,
name a span.  The most specific directives come first.
-/
import MarketSearch.Numeral
import MarketSearch.Text.Alphanumeric
import MarketSearch.Text.Blank
import MarketSearch.Text.Split
import MarketSearch.Text.Utf8

namespace MarketSearch

inductive LogLevel where
  | off
  | error
  | warn
  | info
  | debug
  | trace
deriving DecidableEq

namespace LogLevel

def labelled : List (String × LogLevel) :=
  [("off", .off), ("error", .error), ("warn", .warn), ("info", .info), ("debug", .debug),
   ("trace", .trace)]

def label : LogLevel → String
  | .off => "off"
  | .error => "error"
  | .warn => "warn"
  | .info => "info"
  | .debug => "debug"
  | .trace => "trace"

/-- A level by its number or by its name in any letter case. -/
def ofChars? (cs : List Char) : Option LogLevel :=
  match Numeral.natUpTo? 5 cs with
  | .some n => (labelled[n]?).map (·.2)
  | .none => labelled.lookup (String.ofList (cs.map Char.toLower))

end LogLevel

structure LogDirective where
  target : Option String
  span : Option String
  level : LogLevel
deriving DecidableEq

namespace LogDirective

def text (d : LogDirective) : String :=
  let place := d.target.getD "" ++ (match d.span with
    | .some s => "[" ++ s ++ "]"
    | .none => "")
  if d.target.isNone && d.span.isNone then d.level.label else place ++ "=" ++ d.level.label

/-! ## Order -/

/-- Names are ordered after no name. -/
def compareNames : Option String → Option String → Ordering
  | .none, .none => .eq
  | .none, .some _ => .lt
  | .some _, .none => .gt
  | .some a, .some b => compare a b

/-- The length of a name, and zero for none. -/
def weight (name : Option String) : Nat := (name.map fun s => (Utf8.ofText s).length + 1).getD 0

/-- The less specific directive is the smaller: the one with the shorter target, then the one
without a span; names decide between the others. -/
def order (a b : LogDirective) : Ordering :=
  (compare (weight a.target) (weight b.target)).then <|
    (compare a.span.isSome.toNat b.span.isSome.toNat).then <|
      (compareNames a.target b.target).then (compareNames a.span b.span)

/-- Puts a directive in its place before all that are smaller, over one for the same place. -/
def insert (d : LogDirective) : List LogDirective → List LogDirective
  | [] => [d]
  | e :: es =>
    match order d e with
    | .gt => d :: e :: es
    | .eq => d :: es
    | .lt => e :: insert d es

/-! ## Reading -/

/-- The level after an equals sign; nothing stands for everything. -/
def levelOrAll? (cs : List Char) : Option LogLevel :=
  if cs.isEmpty then .some .trace else LogLevel.ofChars? cs

/-- Whether a target may begin with the character. -/
def startsTarget (c : Char) : Bool :=
  c == '-' || c == ':' || c == '_' || Text.isAlphanumeric c

/-- A directive with a span, after the opening bracket. -/
def ofSpan? (target : Option String) (cs : List Char) : Option LogDirective :=
  (Text.splitFirst? ']' cs).bind fun (span, rest) =>
    if span.contains '\x7b' then .none
    else
      let directive := LogDirective.mk target (.some (String.ofList span))
      match rest with
      | [] => .some (directive .trace)
      | '=' :: level => (levelOrAll? level).map directive
      | _ => .none

/-- A directive without a span: a level, or a target that lets everything through. -/
def ofWord (cs : List Char) : LogDirective :=
  match LogLevel.ofChars? cs with
  | .some level => ⟨.none, .none, level⟩
  | .none => ⟨.some (String.ofList cs), .none, .trace⟩

/-- Blanks around a directive do not count for the place of its marks, but its parts are cut out
at that place with the blanks still there. -/
def ofChars? (cs : List Char) : Option LogDirective :=
  let body := Text.trim cs
  let place := (body.takeWhile fun c => c != '=' && c != '[').length
  match body.head? with
  | .none => .none
  | .some c =>
    if c = '[' then ofSpan? .none (cs.drop 1)
    else if !startsTarget c then .none
    else
      let target := .some (String.ofList (cs.take place))
      match body[place]? with
      | .some '=' => (levelOrAll? (cs.drop (place + 1))).map fun l => ⟨target, .none, l⟩
      | .some _ => ofSpan? target (cs.drop (place + 1))
      | .none => .some (ofWord cs)

end LogDirective

structure LogFilter where
  directives : List LogDirective
deriving DecidableEq

namespace LogFilter

def default : LogFilter := ⟨[⟨.none, .none, .info⟩]⟩

/-- The directives of a text; one that cannot be read spoils all. -/
def ofText? (s : String) : Option LogFilter :=
  let pieces := (Text.splitAll ',' s.toList).filter (!·.isEmpty)
  (pieces.mapM LogDirective.ofChars?).map fun ds => ⟨ds.foldl (fun acc d => d.insert acc) []⟩

/-- The filter of a text, or the default one. -/
def ofText (s : String) : LogFilter := (ofText? s).getD default

/-- Directives for targets first, those for spans after them. -/
def text (f : LogFilter) : String :=
  let plain := f.directives.filter (·.span.isNone)
  let spans := f.directives.filter (·.span.isSome)
  ",".intercalate ((plain ++ spans).map LogDirective.text)

end LogFilter
end MarketSearch

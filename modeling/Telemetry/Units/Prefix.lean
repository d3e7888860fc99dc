/-!
# Unit prefixes

A prefix multiplies a measure by a power of ten or of 1024. Each has one symbol that writing uses
and up to one further symbol that reading accepts.
-/

namespace Telemetry

/-- The multiple in front of a measure; `base` is the multiple one. -/
inductive Prefix where
  | base | kilo | mega | giga | tera | peta | exa | milli | micro | nano | kibi | mebi | gibi | tebi
  deriving DecidableEq, Repr, Inhabited

/-- A power of ten, up or down, or a power of 1024. -/
inductive Multiple where
  /-- Ten to the exponent. -/
  | ten (exponent : Nat)
  /-- One over ten to the exponent. -/
  | tenth (exponent : Nat)
  /-- 1024 to the exponent. -/
  | kibi (exponent : Nat)
  deriving DecidableEq, Repr

namespace Multiple

/-- The binary64 number nearest to the multiple. -/
def toFloat : Multiple → Float
  | ten e => Float.ofScientific 1 false e
  | tenth e => Float.ofScientific 1 true e
  | kibi e => Float.ofNat (Nat.pow 1024 e)

end Multiple

namespace Prefix

/-- All prefixes: none, the decimal ones up and down, the binary ones. -/
def all : List Prefix :=
  [base, kilo, mega, giga, tera, peta, exa, milli, micro, nano, kibi, mebi, gibi, tebi]

/-- What a prefix multiplies by. -/
def multiple : Prefix → Multiple
  | base => .ten 0
  | kilo => .ten 3
  | mega => .ten 6
  | giga => .ten 9
  | tera => .ten 12
  | peta => .ten 15
  | exa => .ten 18
  | milli => .tenth 3
  | micro => .tenth 6
  | nano => .tenth 9
  | kibi => .kibi 1
  | mebi => .kibi 2
  | gibi => .kibi 3
  | tebi => .kibi 4

/-- The multiple as a binary64 number. -/
def factor (p : Prefix) : Float := p.multiple.toFloat

/-- The symbol that writing uses. -/
def symbol : Prefix → String
  | base => ""
  | kilo => "K"
  | mega => "M"
  | giga => "G"
  | tera => "T"
  | peta => "P"
  | exa => "E"
  | milli => "m"
  | micro => "u"
  | nano => "n"
  | kibi => "Ki"
  | mebi => "Mi"
  | gibi => "Gi"
  | tebi => "Ti"

/-- The full name, empty for `base`. -/
def name : Prefix → String
  | base => ""
  | kilo => "Kilo"
  | mega => "Mega"
  | giga => "Giga"
  | tera => "Tera"
  | peta => "Peta"
  | exa => "Exa"
  | milli => "Milli"
  | micro => "Micro"
  | nano => "Nano"
  | kibi => "Kibi"
  | mebi => "Mebi"
  | gibi => "Gibi"
  | tebi => "Tebi"

/-- Lower case stands for the same prefix where no other prefix has that symbol. -/
def ofSymbol? : String → Option Prefix
  | "" => some base
  | "k" | "K" => some kilo
  | "m" => some milli
  | "M" => some mega
  | "g" | "G" => some giga
  | "t" | "T" => some tera
  | "p" | "P" => some peta
  | "e" | "E" => some exa
  | "u" => some micro
  | "n" => some nano
  | "ki" | "Ki" => some kibi
  | "Mi" => some mebi
  | "gi" | "Gi" => some gibi
  | "Ti" => some tebi
  | _ => none

/-- A written symbol is read as the prefix it stands for. -/
@[simp] theorem ofSymbol?_symbol (p : Prefix) : ofSymbol? p.symbol = some p := by
  cases p <;> rfl

/-- How many `target` multiples one `source` multiple is. -/
def ratio (source target : Prefix) : Float := source.factor / target.factor

end Prefix

end Telemetry

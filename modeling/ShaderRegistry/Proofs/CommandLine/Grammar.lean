import ShaderRegistry.CommandLine.Switch
import ShaderRegistry.Text.Digit

/-! # The grammar of command lines

How settings are written as arguments, and what a row of settings amounts to. Nothing is
said here of how arguments are read.
-/

namespace ShaderRegistry

namespace CommandLine

/-- The name is that of this switch, in full or cut off where it fits no other switch. -/
def Switch.IsNamedBy (switch : Switch) (name : List Char) : Prop :=
  ['-', '-'] <+: name ∧ ∀ other : Switch, name <+: other.longName.toList ↔ other = switch

/-- A name with perhaps a value behind an equals sign. -/
def attach (name : List Char) : Option String → List Char
  | none => name
  | some value => name ++ '=' :: value.toList

def Calls (argument : String) (switch : Switch) (attached : Option String) : Prop :=
  ∃ name, switch.IsNamedBy name ∧ argument.toList = attach name attached

/-- An argument that is taken for a switch or for an attempt at one. -/
def OpensSwitch (argument : List Char) : Prop :=
  ['-', 'h'] <+: argument ∨
    ['-', '-'] <+: argument ∧
      ∃ switch : Switch, argument.takeWhile (· ≠ '=') <+: switch.longName.toList

def IsDigits (text : List Char) : Prop :=
  text ≠ [] ∧ ∀ char ∈ text, Text.isDigit char = true

/-- Digits, or a point with digits behind it and perhaps some before. -/
def IsNumeral (text : List Char) : Prop :=
  IsDigits text ∨
    ∃ whole fraction, text = whole ++ '.' :: fraction ∧
      (∀ char ∈ whole, Text.isDigit char = true) ∧ IsDigits fraction

/-- A minus sign and a numeral, perhaps with a line feed at the end. -/
def IsNegative (text : List Char) : Prop :=
  ∃ numeral, IsNumeral numeral ∧ (text = '-' :: numeral ∨ text = '-' :: (numeral ++ ['\n']))

/-- An argument that can be the value of a switch before it: one without a minus sign in
front, a lone minus sign, or, unless it opens a switch, a negative number or anything with
a space in it. -/
def IsPlain (argument : String) : Prop :=
  ¬['-'] <+: argument.toList ∨ argument = "-" ∨
    ¬OpensSwitch argument.toList ∧ (IsNegative argument.toList ∨ ' ' ∈ argument.toList)

namespace Setting

def value? : Setting → Option String
  | listProfiles | listKinds => none
  | info name | kind name => some name

/-- How a setting is written: with its value attached, which a flag does not have, or with
its value in an argument of its own. -/
inductive Written (setting : Setting) : List String → Prop
  | attached {argument : String} (hcalls : Calls argument setting.switch setting.value?) :
      Written setting [argument]
  | separate {argument value : String} (hvalue : setting.value? = some value)
      (hcalls : Calls argument setting.switch none) (hplain : IsPlain value) :
      Written setting [argument, value]

end Setting

/-- Pieces of these items, one after the other. -/
inductive Row {Item Symbol : Type} (piece : Item → List Symbol → Prop) :
    List Item → List Symbol → Prop
  | nil : Row piece [] []
  | cons {item : Item} {items : List Item} {front rest : List Symbol}
      (hfront : piece item front) (hrest : Row piece items rest) :
      Row piece (item :: items) (front ++ rest)

/-- The arguments write these settings, in this order and with nothing between them. -/
def Spells (settings : List Setting) (arguments : List String) : Prop :=
  Row Setting.Written settings arguments

/-- At most one command is chosen, though perhaps more than once. -/
def Compatible (settings : List Setting) : Prop :=
  ∀ first ∈ settings, ∀ second ∈ settings, first.switch.choosesCommand = true →
    second.switch.choosesCommand = true → first.switch = second.switch

/-- The settings of one switch, in their order. -/
def settingsOf (switch : Switch) (settings : List Setting) : List Setting :=
  settings.filter fun setting => setting.switch = switch

/-- The value that the last setting of a switch gives. -/
def lastValue (switch : Switch) (settings : List Setting) : Option String :=
  (settingsOf switch settings).getLast?.bind Setting.value?

/-- What settings amount to. -/
def meaning (settings : List Setting) : Options where
  listProfiles := settings.any fun setting => setting.switch = .listProfiles
  listKinds := settings.any fun setting => setting.switch = .listKinds
  info := lastValue .info settings
  kind := lastValue .kind settings

end CommandLine

/-- No two of the three commands are asked for at once. -/
structure Options.HasSingleCommand (options : Options) : Prop where
  of_listProfiles : options.listProfiles = true →
    options.listKinds = false ∧ options.info = none
  of_listKinds : options.listKinds = true → options.info = none

end ShaderRegistry

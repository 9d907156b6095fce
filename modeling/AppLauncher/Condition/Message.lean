/-!
# Why a condition holds or not

Messages that justify outcomes. A message starts with the name of a condition and says what was
found; a message built on an earlier one is joined to it by `; `.
-/

namespace AppLauncher

/-- A justification, which may be empty. -/
structure Message where
  text : String
deriving DecidableEq, Repr, Inhabited

namespace Message

/-- How listed items are shown. -/
inductive Style where
  | normal
  /-- Every item stands between single quotes. -/
  | quote
deriving DecidableEq, Repr

/-- A message about one condition, of which only the reason is missing. -/
structure Builder where
  prior : Message
  condition : String
deriving DecidableEq, Repr

/-- A message of which only the items are missing. -/
structure Items where
  builder : Builder
  /-- Whether the items were found. -/
  reason : String
  /-- What the items are called when there is at most one. -/
  singular : String
  /-- What the items are called when there are several. -/
  plural : String
deriving DecidableEq, Repr

/-- Two texts with a space between them, or the other one if one is empty. -/
def spaced (a b : String) : String := if a = "" then b else if b = "" then a else a ++ " " ++ b

/-- The message without text. -/
def empty : Message := ⟨""⟩

/-- Whether a message has no text. -/
def isEmpty (m : Message) : Bool := m.text = ""

/-- The message with a text after it. -/
def append (m : Message) (text : String) : Message := ⟨spaced m.text text⟩

/-- Starts a message about a condition after another message. -/
def andCondition (m : Message) (condition : String) (details : List String) : Builder :=
  let detail := " ".intercalate details
  ⟨m, if detail = "" then condition else condition ++ " " ++ detail⟩

/-- Starts a message about a condition. -/
def ofCondition (condition : String) (details : List String) : Builder :=
  empty.andCondition condition details

/-- Starts a message about a condition that is written as a mark on types. -/
def ofMark (mark : String) (details : List String) : Builder := ofCondition ("@" ++ mark) details

/-- The message of a text after another message. -/
def after (prior : Message) (text : String) : Message :=
  if prior.isEmpty then ⟨text⟩ else ⟨prior.text ++ "; " ++ text⟩

/-- The message with a reason. -/
def Builder.because (b : Builder) (reason : String) : Message :=
  b.prior.after (spaced b.condition reason)

/-- Starts the list of what was found, called by its singular or plural. -/
def Builder.foundOf (b : Builder) (singular plural : String) : Items :=
  ⟨b, "found", singular, plural⟩

/-- Starts the list of what was found. -/
def Builder.found (b : Builder) (article : String) : Items := b.foundOf article article

/-- Starts the list of what was not found, called by its singular or plural. -/
def Builder.missingOf (b : Builder) (singular plural : String) : Items :=
  ⟨b, "did not find", singular, plural⟩

/-- Starts the list of what was not found. -/
def Builder.missing (b : Builder) (article : String) : Items := b.missingOf article article

/-- One item as it is shown. -/
def Style.apply : Style → String → String
  | normal, item => item
  | quote, item => "'" ++ item ++ "'"

/-- The message with listed items. -/
def Items.styled (i : Items) (style : Style) (items : List String) : Message :=
  let article := if items.length ≤ 1 then i.singular else i.plural
  let opening := if article = "" then i.reason else i.reason ++ " " ++ article
  i.builder.because <|
    if items = [] then opening else opening ++ " " ++ ", ".intercalate (items.map style.apply)

/-- The message with listed items as they are. -/
def Items.listed (i : Items) (items : List String) : Message := i.styled .normal items

/-- The message without items. -/
def Items.atAll (i : Items) : Message := i.listed []

/-- The message that one thing was found. -/
def Builder.foundExactly (b : Builder) (result : String) : Message := (b.found "").listed [result]

/-- The message that something is available. -/
def Builder.available (b : Builder) (item : String) : Message :=
  b.because (item ++ " is available")

/-- The message that something is not available. -/
def Builder.notAvailable (b : Builder) (item : String) : Message :=
  b.because (item ++ " is not available")

end Message

/-- Whether a condition holds, and why. -/
structure Outcome where
  isMatch : Bool
  message : Message
deriving DecidableEq, Repr

namespace Outcome

/-- The condition holds. -/
def matched (message : Message) : Outcome := ⟨true, message⟩

/-- The condition does not hold. -/
def noMatch (message : Message) : Outcome := ⟨false, message⟩

/-- The opposite decision for the same reason. -/
def inverse (o : Outcome) : Outcome := { o with isMatch := !o.isMatch }

theorem inverse_inverse (o : Outcome) : o.inverse.inverse = o := by simp [inverse]

end Outcome

end AppLauncher

import MailSieve.Text.Case

/-!
# Tags with a meaning

A tag is a word behind a colon that modifies a command or a test.  This file holds the four sets
of tags that built-in commands and tests understand.  Each is an enumeration with

* `tag`, the word as a script writes it,
* `label`, the capitalised name of the alternative, and
* `ofTag?`, which reads the word back in any case of its letters.
-/

namespace MailSieve

/-- How a value and a key are compared. -/
inductive MatchType where
  /-- The value equals the key. -/
  | is
  /-- The key stands somewhere in the value. -/
  | contains
  /-- The value matches the key as a glob pattern. -/
  | glob
  deriving DecidableEq, Inhabited

namespace MatchType

/-- The word with its colon that stands for how values and keys are compared in a script. -/
def tag : MatchType → String
  | is => ":is"
  | contains => ":contains"
  | glob => ":matches"

/-- The name of the alternative, capitalised. -/
def label : MatchType → String
  | is => "Is"
  | contains => "Contains"
  | glob => "Matches"

/-- The alternative behind a word, in any case of its letters. -/
def ofTag? (text : String) : Option MatchType :=
  [is, contains, glob].find? (·.tag == Text.foldCase text)

end MatchType

/-- Which part of an address is compared. -/
inductive AddressPart where
  | all
  /-- What stands before the last `@`. -/
  | localpart
  /-- What stands behind the last `@`. -/
  | domain
  deriving DecidableEq, Inhabited

namespace AddressPart

/-- The word with its colon that stands for the part of an address in a script. -/
def tag : AddressPart → String
  | all => ":all"
  | localpart => ":localpart"
  | domain => ":domain"

/-- The name of the alternative, capitalised. -/
def label : AddressPart → String
  | all => "All"
  | localpart => "Localpart"
  | domain => "Domain"

/-- The alternative behind a word, in any case of its letters. -/
def ofTag? (text : String) : Option AddressPart :=
  [all, localpart, domain].find? (·.tag == Text.foldCase text)

end AddressPart

/-- On which side of a limit the size of a message must lie. -/
inductive SizeBound where
  | above
  | below
  deriving DecidableEq, Inhabited

namespace SizeBound

/-- The word with its colon that stands for the side of a limit in a script. -/
def tag : SizeBound → String
  | above => ":over"
  | below => ":under"

/-- The name of the alternative, capitalised. -/
def label : SizeBound → String
  | above => "Over"
  | below => "Under"

/-- The alternative behind a word, in any case of its letters. -/
def ofTag? (text : String) : Option SizeBound :=
  [above, below].find? (·.tag == Text.foldCase text)

/-- Whether a size lies on the wanted side of the limit; the limit itself lies on neither. -/
def holds (bound : SizeBound) (size limit : Nat) : Bool :=
  match bound with
  | above => limit < size
  | below => size < limit

end SizeBound

/-- How much a log entry matters. -/
inductive LogLevel where
  | trace
  | debug
  | info
  | warn
  | error
  | fatal
  deriving DecidableEq

namespace LogLevel

instance : Inhabited LogLevel := ⟨info⟩

/-- The word with its colon that stands for the level of a log entry in a script. -/
def tag : LogLevel → String
  | trace => ":trace"
  | debug => ":debug"
  | info => ":info"
  | warn => ":warn"
  | error => ":error"
  | fatal => ":fatal"

/-- The name of the alternative, capitalised. -/
def label : LogLevel → String
  | trace => "Trace"
  | debug => "Debug"
  | info => "Info"
  | warn => "Warn"
  | error => "Error"
  | fatal => "Fatal"

/-- The alternative behind a word, in any case of its letters. -/
def ofTag? (text : String) : Option LogLevel :=
  [trace, debug, info, warn, error, fatal].find? (·.tag == Text.foldCase text)

end LogLevel

/-! Every alternative is read back from its own tag. -/

theorem MatchType.ofTag?_tag (matchType : MatchType) : ofTag? matchType.tag = some matchType := by
  cases matchType <;> decide +kernel

theorem AddressPart.ofTag?_tag (part : AddressPart) : ofTag? part.tag = some part := by
  cases part <;> decide +kernel

theorem SizeBound.ofTag?_tag (bound : SizeBound) : ofTag? bound.tag = some bound := by
  cases bound <;> decide +kernel

theorem LogLevel.ofTag?_tag (level : LogLevel) : ofTag? level.tag = some level := by
  cases level <;> decide +kernel

/-! A tag is read alike in any case of its letters. -/

@[simp] theorem MatchType.ofTag?_foldCase (text : String) :
    ofTag? (Text.foldCase text) = ofTag? text := by
  rw [ofTag?, ofTag?, Text.foldCase_foldCase]

@[simp] theorem AddressPart.ofTag?_foldCase (text : String) :
    ofTag? (Text.foldCase text) = ofTag? text := by
  rw [ofTag?, ofTag?, Text.foldCase_foldCase]

@[simp] theorem SizeBound.ofTag?_foldCase (text : String) :
    ofTag? (Text.foldCase text) = ofTag? text := by
  rw [ofTag?, ofTag?, Text.foldCase_foldCase]

@[simp] theorem LogLevel.ofTag?_foldCase (text : String) :
    ofTag? (Text.foldCase text) = ofTag? text := by
  rw [ofTag?, ofTag?, Text.foldCase_foldCase]

end MailSieve

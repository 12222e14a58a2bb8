/-
# IndexSnapshot.Config.Switch -- settings that are on or off

A switch is on or off.  Its value may come as a truth value or as one of the two words
for it, in any letter case and with white space around; nothing else is guessed at.

* `Switch.read?` is what a value says; `Switch.parse` fails where it says nothing, with
  `Switch.refusal`.  That shows the value, so it is another failure if the value cannot be written.
-/
import IndexSnapshot.Log.Logged
import IndexSnapshot.Text.Blank

namespace IndexSnapshot

set_option autoImplicit false

namespace Switch

/-- What a value says, if it says on or off. -/
def read? : Value → Option Bool
  | .bool b => some b
  | .text s =>
      let word := String.ofList (Text.lower (Text.strip s.toList))
      if word = "true" then some true
      else if word = "false" then some false
      else none
  | _ => none

/-- Said of a value that is neither on nor off. -/
def refusedEntry (name : String) (value : Value) : Log.Entry :=
  ⟨"dbsnap.config.config_loader", Log.error,
    "Invalid boolean for " ++ name ++ ": " ++ value.literal, {}⟩

/-- The failure of a switch that is neither on nor off. -/
def refusal (name : String) (value : Value) : Failure :=
  if value.isWritable then .config (.notBoolean name value) else .tooManyDigits

/-- The value of the named switch. -/
def parse (name : String) (value : Value) : Logged Bool := do
  match read? value with
  | some b => return b
  | none =>
      if value.isWritable then Logged.say (refusedEntry name value)
      throw (refusal name value)

end Switch

end IndexSnapshot

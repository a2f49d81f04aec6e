/-
# Settings.Reader -- settings from JSON

An object gives settings by name.  Keys may come in any order; one that is missing
leaves its standard value, one that is not known is passed over, and one that is
given twice is refused.  An array gives settings by place, in the order of
`Settings`; it may be shorter, never longer.  Either way a value must be of the
setting's type, and there is no null.

What has been read is then checked for faults.
-/
import ChainCompletion.Settings.Basic
import ChainCompletion.Settings.Json

namespace ChainCompletion.Settings

set_option autoImplicit false

namespace Json

/-- The value of a boolean. -/
def toBool? : Json → Option Bool
  | .bool value => some value
  | _ => none

/-- The value of a plain integer. -/
def toNat? : Json → Option Nat
  | .number plain => plain
  | _ => none

/-- The text of a string. -/
def toText? : Json → Option String
  | .string text => text
  | _ => none

/-- The texts of an array of strings. -/
def toTexts? : Json → Option (List String)
  | .array items => items.mapM toText?
  | _ => none

end Json

/-- Why a text gives no settings. -/
inductive ReadError where
  /-- The text is not JSON, or its values are not those of settings. -/
  | malformed
  | faulty (fault : SettingsFault)
  deriving DecidableEq

/-- Where the value of a setting comes from: by its key and place, if it is given at
all; the outer `none` refuses the whole. -/
abbrev Source := String → Nat → Option (Option Json)

/-- The fields of an object as a source. -/
def byKey (fields : List (String × Json)) : Source := fun key _ =>
  match fields.filter fun entry => entry.1 = key with
  | [] => some none
  | [entry] => some (some entry.2)
  | _ => none

/-- The items of an array as a source. -/
def byPlace (items : List Json) : Source := fun _ place =>
  some items[place]?

/-- One setting: its value when it is given, and otherwise the standard one. -/
def setting {α : Type} (source : Source) (key : String) (place : Nat)
    (convert : Json → Option α) (standard : α) : Option α :=
  match source key place with
  | none => none
  | some none => some standard
  | some (some json) => convert json

/-- All settings of a source. -/
def ofSource (source : Source) : Option Settings := do
  let enabled ← setting source "enabled" 0 Json.toBool? standard.enabled
  let timeoutMs ← setting source "timeoutMs" 1 Json.toNat? standard.timeoutMs
  let maxDepth ← setting source "maxDepth" 2 Json.toNat? standard.maxDepth
  let maxResults ← setting source "maxResults" 3 Json.toNat? standard.maxResults
  let excludedTypes ← setting source "excludedTypes" 4 Json.toTexts? standard.excludedTypes
  let staticRoots ← setting source "staticRoots" 5 Json.toTexts? standard.staticRoots
  let snippets ← setting source "snippets" 6 Json.toBool? standard.snippets
  return ⟨enabled, timeoutMs, maxDepth, maxResults, excludedTypes, staticRoots, snippets⟩

/-- The number of settings. -/
def settingCount : Nat := 7

/-- The settings that a JSON value gives. -/
def ofJson? : Json → Option Settings
  | .object fields => do
      let fields ← fields.mapM fun (key, json) => key.map fun key => (key, json)
      ofSource (byKey fields)
  | .array items => if items.length ≤ settingCount then ofSource (byPlace items) else none
  | _ => none

/-- The settings that a text gives. -/
def ofText (text : String) : Except ReadError Settings :=
  match (Json.ofText? text).bind ofJson? with
  | none => .error .malformed
  | some settings =>
      match settings.fault? with
      | some fault => .error (.faulty fault)
      | none => .ok settings

end ChainCompletion.Settings
